import Mathlib.Data.UInt
import GtnhPlatform.Data.Machine
import GtnhPlatform.Sim.PatternLibrary
import GtnhPlatform.World.InventoryContainer

namespace GtnhPlatform.Sim

open World (InventoryContainer InventorySlot)

structure Block where
  id : UInt16
  metadata : UInt8
  mbId : UInt32

structure EnergyStorage where
  capacity : Int
  current : Int
  maxInput : Int
  maxOutput : Int
  tier : Int
  type : EnergyType

structure HeatIntakeComponent where
  heatStored : Int := 0
  heatCapacity : Int := 1000

structure BatteryBufferComponent where
  capacity : UInt32
  stored : Int
  tier : UInt8
  maxInput : Int
  chargeRate : Int
  numSlots : UInt8
  deriving DecidableEq

inductive OverheatState where
  | none
  | warning
  | critical
  deriving DecidableEq

structure OverheatComponent where
  state : OverheatState := .none
  ticksAtCritical : UInt32 := 0

structure MachineComponent where
  machineId : UInt16
  mbId : UInt32
  position : Position
  machineInstanceId : Nat
  managedExternally : Bool

/-- The components that come and go together. `RecipeProgress` is a fourth one,
which a changed block neither reads nor keeps. -/
structure MachineParts where
  machine : MachineComponent
  container : InventoryContainer
  energy : EnergyStorage

structure Entity where
  id : Nat
  block : Option Block := none
  machine : Option MachineParts := none
  heatIntake : Option HeatIntakeComponent := none
  steamOutput : Option SteamOutputComponent := none
  batteryBuffer : Option BatteryBufferComponent := none
  overheat : Option OverheatComponent := none

/-- How the registry picks the id of a new entity: one that is not in use. Ids
of destroyed entities may come back. -/
abbrev Allocator := { create : List Nat → Nat // ∀ alive, create alive ∉ alive }

/-- What the engine is told once: the machine types and the patterns. -/
structure Content where
  machines : MachineRegistry
  patterns : PatternRegistry

/-- An entity stands under its position: one is created only where there is none,
and never moves. -/
structure SimulationEngine where
  entities : Table Position Entity
  controllers : Table Nat MultiblockController
  nextMachineId : Nat

inductive EngineEvent where
  | machineCreated (position : Position) (machineId : UInt16)
  | multiblockSave (controllerId : Nat)
  | multiblockCreated (controllerId : Nat) (position : Position) (mbType : UInt16)
  | multiblockDestroyed (controllerId : Nat)
  | machineOwnerRemoved (ownerId : Nat)
  deriving DecidableEq

structure BlockChanged where
  position : Position
  blockId : UInt16
  metadata : UInt8 := 0
  mbId : UInt32 := 0
  allocator : Allocator

namespace Content

variable (content : Content)

def isMachineBlock (blockId : UInt16) : Bool :=
  !isInfraBlock blockId && content.machines.isMachine blockId

def defaultMachineSlotCount (blockId : UInt16) : UInt32 :=
  match content.machines.get blockId with
  | none => 0
  | some info => UInt32.ofInt (info.slotsIn + info.slotsOut)

def energyType (info : MachineInfo) : EnergyType :=
  match info.energyIn, info.energyOut with
  | some type, _ => type
  | none, some type => type
  | none, none => .electricity

def newEnergyStorage (blockId : UInt16) : EnergyStorage :=
  match content.machines.get blockId with
  | none => ⟨10000, 0, 32, 32, 1, .electricity⟩
  | some info => ⟨info.capacity, 0, info.maxInput, info.maxOutput, info.tier, energyType info⟩

/-- The classes that dedicated systems own. -/
def hasDedicatedSystem (blockId : UInt16) : Bool :=
  match content.machines.get blockId with
  | none => false
  | some info =>
    info.machineClass == "generator" || info.machineClass == "boiler" ||
      info.machineClass == "steam_turbine" || info.machineClass == "battery_buffer"

def givesSteam (blockId : UInt16) : Bool :=
  match content.machines.get blockId with
  | none => false
  | some info => info.energyOut == some .steam

def newBatteryBuffer (blockId : UInt16) : Option BatteryBufferComponent :=
  match content.machines.get blockId with
  | none => none
  | some info =>
    if info.machineClass == "battery_buffer" then
      some {
        capacity := UInt32.ofInt (max 0 info.capacity)
        stored := 0
        tier := UInt8.ofInt (max 0 info.tier)
        maxInput := max 0 info.maxInput
        chargeRate := max 1 (info.maxInput.tdiv 4)
        numSlots := UInt8.ofInt (max 1 info.slotsIn) }
    else none

end Content

/-- Item hatches get consecutive slot ranges; the others keep what they have. -/
def assignOffsets : UInt16 → List HatchSlot → List HatchSlot
  | _, [] => []
  | offset, hatch :: rest =>
    if hatch.hasItemSlots then
      { hatch with
        slotStart := offset
        slotEnd := offset + HatchSlot.kSlotsPerHatch hatch.type } ::
        assignOffsets (offset + HatchSlot.kSlotsPerHatch hatch.type) rest
    else hatch :: assignOffsets offset rest

/-- Item hatches first; the offsets are assigned before and after the reordering. -/
def layoutHatches (found : List HatchResult) : List HatchSlot :=
  let hatches := assignOffsets 0 (found.map fun hatch =>
    ⟨hatch.type, hatch.world, 0, 0, hatch.tier, hatch.present⟩)
  assignOffsets 0 (hatches.filter HatchSlot.hasItemSlots ++
    hatches.filter fun hatch => !hatch.hasItemSlots)

def totalHatchSlots (hatches : List HatchSlot) : UInt16 :=
  (hatches.map fun hatch => HatchSlot.kSlotsPerHatch hatch.type).sum

/-- `assignHatchSlots` -/
def MachineParts.assignHatchSlots (hatches : List HatchSlot) (parts : MachineParts) :
    MachineParts :=
  let newCount := parts.container.slotCount.toNat + (totalHatchSlots hatches).toNat
  if newCount = parts.container.slotCount.toNat then parts
  else { parts with container := { parts.container with
    slotCount := UInt16.ofNat newCount
    slots := parts.container.slots.take newCount ++
      List.replicate (newCount - parts.container.slots.length) InventorySlot.empty } }

namespace SimulationEngine

def new : SimulationEngine where
  entities := ∅
  controllers := ∅
  nextMachineId := 1

variable (engine : SimulationEngine)

def findEntityAt (pos : Position) : Option Entity :=
  engine.entities.lookup pos

def putEntity (pos : Position) (entity : Entity) : SimulationEngine :=
  { engine with entities := AList.insert pos entity engine.entities }

/-- The block lookup of the pattern matcher. -/
def blockAt (pos : Position) : UInt16 :=
  match (engine.findEntityAt pos).bind Entity.block with
  | none => 0
  | some block => block.id

def removeBlockFromController (mbId : UInt32) (pos : Position) : SimulationEngine :=
  { engine with
    controllers := engine.controllers.mapValues fun id controller =>
      if id = mbId.toNat then
        { controller with blocks := controller.blocks.filter (· != pos.mbPack) }
      else controller }

def findControllerAt (pos : Position) : Option Nat :=
  (engine.controllers.entries.find? fun entry => pos.mbPack ∈ entry.2.blocks).map Sigma.fst

def collectControllerContents (controller : MultiblockController) : List InventorySlot :=
  match (engine.findEntityAt controller.position).bind Entity.machine with
  | none => []
  | some parts => parts.container.slots.filter fun slot => slot.itemId != 0

def destroyController (id : Nat) : SimulationEngine × List EngineEvent :=
  match engine.controllers.lookup id with
  | none => (engine, [])
  | some controller =>
    let engine := { engine with controllers := engine.controllers.erase id }
    match engine.findEntityAt controller.position with
    | none => (engine, [.multiblockSave id, .multiblockDestroyed id])
    | some entity =>
      (engine.putEntity controller.position { entity with machine := none, heatIntake := none },
        [.multiblockSave id, .machineOwnerRemoved entity.id, .multiblockDestroyed id])

/-- The controller a block belongs to: the one its own `mb_id` names, else the
one that lists its position; 0 for none. -/
def ownerOf (pos : Position) (entity : Entity) : UInt32 :=
  let named := (entity.block.map Block.mbId).getD 0
  if named = 0 then
    match engine.findControllerAt pos with
    | none => 0
    | some id => UInt32.ofNat id
  else named

def leaveController (pos : Position) (mbId : UInt32) : SimulationEngine × List EngineEvent :=
  if mbId = 0 then (engine, [])
  else
    match engine.controllers.lookup mbId.toNat with
    | none => (engine, [])
    | some controller =>
      if controller.position = pos then engine.destroyController mbId.toNat
      else (engine.removeBlockFromController mbId pos, [])

def clearBlock (pos : Position) : SimulationEngine × List EngineEvent :=
  match engine.findEntityAt pos with
  | none => (engine, [])
  | some entity =>
    let (engine, events) := engine.leaveController pos (engine.ownerOf pos entity)
    match engine.findEntityAt pos with
    | none => (engine, events)
    | some entity =>
      if entity.machine.isSome then
        (engine.putEntity pos { entity with block := none, machine := none },
          events ++ [.machineOwnerRemoved entity.id])
      else (engine.putEntity pos { entity with block := none }, events)

/-- An echo without an `mb_id` keeps the membership of an unchanged block. -/
def effectiveMbId (entity : Entity) (blockId : UInt16) (mbId : UInt32) : UInt32 :=
  match entity.block with
  | none => mbId
  | some old => if old.mbId ≠ 0 ∧ mbId = 0 ∧ old.id = blockId then old.mbId else mbId

def leaveOld (pos : Position) (entity : Entity) (blockId : UInt16)
    (mbId : UInt32) : SimulationEngine :=
  match entity.block with
  | none => engine
  | some old =>
    if old.mbId ≠ 0 ∧ ¬(mbId = 0 ∧ old.id = blockId) ∧ old.mbId ≠ mbId then
      engine.removeBlockFromController old.mbId pos
    else engine

def leaveNew (pos : Position) (mbId : UInt32) : SimulationEngine :=
  if mbId ≠ 0 then engine.removeBlockFromController mbId pos else engine

variable (content : Content)

def equip (pos : Position) (blockId : UInt16) (mbId : UInt32)
    (instanceId : Nat) (entity : Entity) : Entity :=
  let slotCount := (content.defaultMachineSlotCount blockId).toUInt16
  let energy := content.newEnergyStorage blockId
  { entity with
    machine := some {
      machine := {
        machineId := blockId
        mbId := mbId
        position := pos
        machineInstanceId := instanceId
        managedExternally := mbId != 0 || content.hasDedicatedSystem blockId }
      container := {
        entityType := if mbId ≠ 0 then 2 else 1
        slotCount := slotCount
        slots := List.replicate slotCount.toNat InventorySlot.empty }
      energy := energy }
    heatIntake := if energy.type = .heat then some {} else entity.heatIntake
    steamOutput := if content.givesSteam blockId then some ⟨0⟩ else entity.steamOutput
    batteryBuffer := (content.newBatteryBuffer blockId).or entity.batteryBuffer }

/-- The controller that the machine just placed at `pos` would anchor. -/
def matchedController (engine : SimulationEngine) (pos : Position)
    (blockId : UInt16) (mbId : UInt32) : Option MultiblockController :=
  if mbId = 0 && content.patterns.isControllerBlock blockId then
    (content.patterns.matchAll pos engine.blockAt).map fun found => {
      id := engine.nextMachineId
      position := pos
      patternId := found.patternId
      blocks := found.blocks
      hatches :=
        match content.patterns.getPattern found.patternId with
        | none => []
        | some pattern => layoutHatches (pattern.findHatches pos engine.blockAt) }
  else none

/-- The anchor of a new controller. -/
def anchorParts (controller : MultiblockController) (parts : MachineParts) : MachineParts :=
  { parts with machine := { parts.machine with
      managedExternally := true
      mbId := UInt32.ofNat controller.id } }.assignHatchSlots controller.hatches

def anchorBlock (controller : MultiblockController) (block : Block) : Block :=
  { block with mbId := UInt32.ofNat controller.id }

def addMachine (engine : SimulationEngine) (pos : Position)
    (blockId : UInt16) (mbId : UInt32) (entity : Entity) :
    SimulationEngine × List EngineEvent :=
  let entity := equip content pos blockId mbId engine.nextMachineId entity
  let engine := { engine with nextMachineId := engine.nextMachineId + 1 }
  match matchedController content engine pos blockId mbId with
  | none => (engine.putEntity pos entity, [.machineCreated pos blockId])
  | some controller =>
    ({ engine with
        controllers := engine.controllers.emplace controller.id controller
        nextMachineId := engine.nextMachineId + 1 }.putEntity pos
        { entity with
          machine := entity.machine.map (anchorParts controller)
          block := entity.block.map (anchorBlock controller) },
      [.machineCreated pos blockId,
        .multiblockCreated controller.id pos (UInt16.ofNat controller.patternId.toNat)])

def hasAnchorAt (pos : Position) : Bool :=
  engine.controllers.values.any fun controller => controller.position == pos

/-- A machine that was already there keeps its components; only what names it is
rewritten. -/
def renameMachine (engine : SimulationEngine) (pos : Position)
    (blockId : UInt16) (mbId : UInt32) (entity : Entity) (parts : MachineParts) :
    SimulationEngine × List EngineEvent :=
  let shouldExternal := mbId != 0 ||
    (content.patterns.isControllerBlock blockId && engine.hasAnchorAt pos)
  (engine.putEntity pos { entity with
      machine := some { parts with machine := { parts.machine with
        machineId := blockId
        mbId := mbId
        position := pos
        managedExternally := shouldExternal } } },
    if parts.machine.managedExternally != shouldExternal && shouldExternal then
      [.machineCreated pos blockId]
    else [])

/-- `onBlockChanged` to a block, for the entity that stands there. The entity is
written back with its block before the machine tail runs. -/
def setBlock (engine : SimulationEngine) (entity : Entity)
    (event : BlockChanged) : SimulationEngine × List EngineEvent :=
  let pos := event.position
  let engine := (engine.leaveOld pos entity event.blockId event.mbId).leaveNew pos event.mbId
  let entity := { entity with
    block := some ⟨event.blockId, event.metadata, effectiveMbId entity event.blockId event.mbId⟩ }
  let engine := engine.putEntity pos entity
  if content.isMachineBlock event.blockId then
    match entity.machine with
    | none => addMachine content engine pos event.blockId event.mbId entity
    | some parts => renameMachine content engine pos event.blockId event.mbId entity parts
  else if entity.machine.isSome then
    (engine.putEntity pos { entity with machine := none }, [.machineOwnerRemoved entity.id])
  else (engine, [])

def newEntity (allocator : Allocator) : Entity where
  id := allocator.1 (engine.entities.values.map Entity.id)

def onBlockChanged (engine : SimulationEngine) (event : BlockChanged) :
    SimulationEngine × List EngineEvent :=
  if event.blockId = 0 then engine.clearBlock event.position
  else
    match engine.findEntityAt event.position with
    | none => setBlock content engine (engine.newEntity event.allocator) event
    | some entity => setBlock content engine entity event

def machine : Machine SimulationEngine BlockChanged EngineEvent :=
  ⟨onBlockChanged content⟩

end SimulationEngine

end GtnhPlatform.Sim
