import GtnhPlatform.Crafting.CraftRequest
import GtnhPlatform.Sim.SimulationEngine
import GtnhPlatform.SimCore.CraftReservation

namespace GtnhPlatform.SimCore

open Common Crafting Inventory Sim

/-! The three systems that tick multiblock controllers. Node and block-entity updates,
which no one reads back, are left out. -/

inductive MultiblockSystem where
  | ebf
  | largeBoiler
  | lcr
  deriving DecidableEq

def MultiblockSystem.owns (system : MultiblockSystem) (patternId : UInt32) : Bool :=
  match system with
  | .ebf => patternId == 1 || patternId == 4
  | .largeBoiler => patternId == 2
  | .lcr => patternId == 3

structure MultiblockSite where
  position : Position
  machineId : UInt16
  energyType : EnergyType
  maxInput : Int

/-- What stands fixed during a tick. `energyCost` is the `float` of a recipe as
`int32_t`; the tick counters are the ones already advanced. -/
structure TickContent where
  manager : RecipeManager
  energyCost : Table String Int
  info : MachineRegistry
  patterns : PatternRegistry
  controllers : Table Nat MultiblockController
  sites : Table Nat MultiblockSite
  blocks : Table Position UInt16
  ebfTicks : Nat
  lcrTicks : Nat

structure MultiblockState where
  client : CraftReservationClient
  registry : Table Nat MachineEntity
  heat : Table Nat HeatIntakeComponent
  overheat : Table Nat OverheatComponent
  ebfPending : Table Nat Int
  lcrPending : Table Nat Int

/-- What a system does for a machine: it asks for energy, advances or starts the
recipe, burns fuel. -/
inductive TickAction where
  | charged
  | advanced
  | started
  | burnt
  deriving DecidableEq

structure TickEvent where
  system : MultiblockSystem
  entity : Nat
  action : TickAction
  deriving DecidableEq

/-- One controller's turn in one system. -/
structure Visit where
  system : MultiblockSystem
  controllerId : Nat
  publish : Nat → Bool

namespace TickContent

def entityAt (content : TickContent) (pos : Position) : Option Nat :=
  (content.sites.entries.find? fun entry => entry.2.position == pos).map Sigma.fst

def blockAt (content : TickContent) (pos : Position) : UInt16 := (content.blocks.lookup pos).getD 0

def perTickCost (content : TickContent) (recipe : Recipe) : Int :=
  if recipe.hasResourceRequirements then wrapI32 recipe.resourceAmountPerTick.toNat
  else (content.energyCost.lookup recipe.id).getD 0

end TickContent

def hatchRange (type : HatchType) (hatches : List HatchSlot) : Nat × Nat :=
  match hatches.find? fun hatch => hatch.type == type with
  | none => (0, 0)
  | some hatch => (hatch.slotStart.toNat, hatch.slotEnd.toNat)

variable (content : TickContent)

variable (controller : MultiblockController)

def inputRange (machineId : UInt16)
    (size : Nat) : Nat × Nat :=
  let range := hatchRange .itemIn controller.hatches
  let last :=
    if range.2 = 0 then
      match content.info.get machineId with
      | none => 0
      | some info => min info.slotsIn.toNat size
    else range.2
  (range.1, min last size)

def outputRange (machineId : UInt16)
    (size : Nat) : Nat × Nat :=
  let range := hatchRange .itemOut controller.hatches
  let range :=
    if range.2 = 0 then
      match content.info.get machineId with
      | none => range
      | some info => (info.slotsIn.toNat, min (info.slotsIn + info.slotsOut).toNat size)
    else range
  (range.1, min range.2 size)

/-- The merging pass: what is left, and the slots. -/
def mergeOutput (output : OutputItem) : UInt8 → List PersistSlot → UInt8 × List PersistSlot
  | remaining, [] => (remaining, [])
  | remaining, slot :: rest =>
    if 0 < remaining && slot.itemId == output.itemId && slot.metadata == output.metadata &&
        decide (slot.count < 64) then
      let add := min remaining (64 - slot.count)
      let merged := mergeOutput output (remaining - add) rest
      (merged.1, { slot with count := slot.count + add } :: merged.2)
    else
      let merged := mergeOutput output remaining rest
      (merged.1, slot :: merged.2)

/-- The rest goes to the first empty slot; without one it is dropped. -/
def placeOutput (output : OutputItem) (remaining : UInt8) : List PersistSlot → List PersistSlot
  | [] => []
  | slot :: rest =>
    if remaining = 0 then slot :: rest
    else if slot.itemId = 0 then ⟨output.itemId, remaining, output.metadata⟩ :: rest
    else slot :: placeOutput output remaining rest

def depositRange (range : Nat × Nat) (outputs : List OutputItem) (slots : List PersistSlot) :
    List PersistSlot :=
  outputs.foldl (fun slots output =>
    let merged := mergeOutput output output.count ((slots.take range.2).drop range.1)
    slots.take range.1 ++ placeOutput output merged.1 merged.2 ++
      slots.drop (max range.1 range.2)) slots

namespace MultiblockState

variable (state : MultiblockState)

def craft (content : TickContent) : CraftSystem where
  client := state.client
  registry := state.registry
  recipes := content.manager.recipes

def withCraft (craft : CraftSystem) : MultiblockState :=
  { state with client := craft.client, registry := craft.registry }

def setMachine (entity : Nat) (machine : MachineEntity) :
    MultiblockState :=
  { state with registry := AList.insert entity machine state.registry }

def setHeat (entity : Nat) (heat : HeatIntakeComponent) :
    MultiblockState :=
  { state with heat := AList.insert entity heat state.heat }

/-- `get_or_emplace` -/
def withHeat (entity : Nat) : MultiblockState :=
  { state with heat := state.heat.emplace entity {} }

def heatOf (entity : Nat) : HeatIntakeComponent :=
  (state.heat.lookup entity).getD {}

/-- `pendingConsumes_`, of which each furnace system has its own. -/
def pending (system : MultiblockSystem) : Table Nat Int :=
  match system with
  | .ebf => state.ebfPending
  | _ => state.lcrPending

def setPending (system : MultiblockSystem) (entity : Nat)
    (amount : Int) : MultiblockState :=
  match system with
  | .ebf => { state with ebfPending := AList.insert entity amount state.ebfPending }
  | _ => { state with lcrPending := AList.insert entity amount state.lcrPending }

end MultiblockState

structure FurnaceRules where
  system : MultiblockSystem
  inputs : Nat × Nat
  outputs : Nat × Nat
  nowTick : Nat
  mayRun : Bool
  mayStart : Bool
  orchestratesCharge : Recipe → Bool
  orchestratesStart : Recipe → Bool
  reserves : ∀ recipe, orchestratesStart recipe = true → recipe.hasResourceRequirements = true
  asksOnce : Bool
  /-- whether the heat follows the energy after a debit -/
  mirrorsHeat : Bool

namespace FurnaceRules

variable (rules : FurnaceRules)

def event (entity : Nat) (action : TickAction) : TickEvent :=
  ⟨rules.system, entity, action⟩

def ask (content : TickContent) (publish : Nat → Bool) (entity : Nat)
    (recipe : Recipe) (state : MultiblockState) : MultiblockState × List TickEvent :=
  if rules.orchestratesCharge recipe then
    if state.client.hasOutstandingCharge entity then (state, [])
    else
      ({ state with client := (state.client.beginPerTickCharge publish entity recipe).1 },
        [rules.event entity .charged])
  else if rules.asksOnce && ((state.pending rules.system).lookup entity).isSome then (state, [])
  else
    (state.setPending rules.system entity (content.perTickCost recipe),
      [rules.event entity .charged])

def advance (content : TickContent) (entity : Nat)
    (machine : MachineEntity) (recipe : Recipe) (state : MultiblockState) : MultiblockState :=
  let current := machine.energy.current - content.perTickCost recipe
  let remainingTicks := machine.progress.remainingTicks - 1
  let progress := { machine.progress with remainingTicks := remainingTicks }
  let machine := { machine with energy := { machine.energy with current := current } }
  let state :=
    if rules.mirrorsHeat then
      state.setHeat entity { state.heatOf entity with heatStored := current }
    else state
  if remainingTicks = 0 then
    state.setMachine entity { machine with
      slots := depositRange rules.outputs recipe.outputs machine.slots
      progress := { progress with isProcessing := false, needsOutput := true, recipeId := "" } }
  else state.setMachine entity { machine with progress := progress }

def run (content : TickContent) (publish : Nat → Bool) (entity : Nat)
    (machine : MachineEntity) (state : MultiblockState) : MultiblockState × List TickEvent :=
  match content.manager.recipes.lookup machine.progress.recipeId with
  | none =>
    (state.setMachine entity { machine with
      progress := { machine.progress with recipeId := "", isProcessing := false } }, [])
  | some recipe =>
    if !rules.mayRun then (state, [])
    else if machine.energy.current < content.perTickCost recipe then
      rules.ask content publish entity recipe state
    else
      (rules.advance content entity machine recipe state, [rules.event entity .advanced])

def found (content : TickContent) (machineId : UInt16)
    (machine : MachineEntity) : Option Recipe :=
  content.manager.findRecipeByInputs machineId
    (((machine.slots.take rules.inputs.2).drop rules.inputs.1).filter fun slot =>
      slot.itemId != 0)

def begin (content : TickContent) (publish : Nat → Bool)
    (machineId : UInt16) (entity : Nat) (machine : MachineEntity) (state : MultiblockState) :
    MultiblockState × List TickEvent :=
  match rules.found content machineId machine with
  | none => (state, [])
  | some recipe =>
    if !rules.mayStart then (state, [])
    else if rules.orchestratesStart recipe then
      (state.withCraft ((state.craft content).tickOrchestratedStart entity recipe rules.nowTick
        rules.inputs.1 rules.inputs.2 publish).1, [])
    else
      (state.setMachine entity { machine with
          slots := consumeRange rules.inputs.1 rules.inputs.2 recipe.inputs machine.slots
          progress := { machine.progress with
            recipeId := recipe.id
            remainingTicks := recipe.duration
            isProcessing := true } },
        [rules.event entity .started])

def tick (content : TickContent) (publish : Nat → Bool)
    (machineId : UInt16) (entity : Nat) (machine : MachineEntity) (state : MultiblockState) :
    MultiblockState × List TickEvent :=
  if machine.progress.recipeId ≠ "" then rules.run content publish entity machine state
  else rules.begin content publish machineId entity machine state

end FurnaceRules

def KANHAL_MAX_HEAT : Int := 1800
def NICHROME_MAX_HEAT : Int := 2700
def TUNGSTENSTEEL_MAX_HEAT : Int := 4500

def getCoilHeat (blockId : UInt16) : Int :=
  if blockId = KANHAL_COIL_BLOCK_ID ∨ blockId = LEGACY_KANHAL_COIL_BLOCK_ID then KANHAL_MAX_HEAT
  else if blockId = NICHROME_COIL_BLOCK_ID ∨ blockId = 1007 then NICHROME_MAX_HEAT
  else if blockId = TUNGSTENSTEEL_COIL_BLOCK_ID ∨ blockId = 1008 then TUNGSTENSTEEL_MAX_HEAT
  else 0

/-- The lower of the two coil layers; 0 when one of them is no coil. -/
def detectHeatTier : Int :=
  match content.patterns.getPattern controller.patternId with
  | none => KANHAL_MAX_HEAT
  | some pattern =>
    let corner := pattern.corner controller.position
    let lower := getCoilHeat (content.blockAt (corner.offset 1 1 1))
    let upper := getCoilHeat (content.blockAt (corner.offset 1 2 1))
    if lower ≤ 0 then 0 else if upper ≤ 0 then 0 else min lower upper

def hasEnergyHatch : Bool :=
  controller.hatches.any fun hatch => hatch.type == .energy && hatch.present

def isElectric : Bool := controller.patternId == 1

def requiredHeat : Int :=
  if isElectric controller then 0 else (detectHeatTier content controller).tdiv 2

def ebfRules (site : MultiblockSite)
    (machine : MachineEntity) (heat : HeatIntakeComponent) : FurnaceRules :=
  let electric := isElectric controller
  let hot := decide (requiredHeat content controller ≤ heat.heatStored)
  {
    system := .ebf
    inputs := inputRange content controller site.machineId machine.slots.length
    outputs := outputRange content controller site.machineId machine.slots.length
    nowTick := content.ebfTicks
    mayRun := hot && site.energyType == if electric then .electricity else .heat
    mayStart := hot
    orchestratesCharge := fun recipe => recipe.hasResourceRequirements && !electric
    orchestratesStart := fun recipe => recipe.hasResourceRequirements
    reserves := fun _ orchestrated => orchestrated
    asksOnce := true
    mirrorsHeat := !electric }

def tickEBF (publish : Nat → Bool) (controller : MultiblockController)
    (entity : Nat) (site : MultiblockSite) (machine : MachineEntity) (state : MultiblockState) :
    MultiblockState × List TickEvent :=
  let state := state.withHeat entity
  -- an EBF needs a physical energy hatch
  if isElectric controller && !hasEnergyHatch controller then (state, [])
  else
    (ebfRules content controller site machine (state.heatOf entity)).tick content publish
      site.machineId entity machine state

def hasNonEuRequirement (recipe : Recipe) : Bool :=
  recipe.resourceRequirements.any fun requirement => requirement.kind != .eu

def lcrRules (site : MultiblockSite)
    (machine : MachineEntity) : FurnaceRules where
  system := .lcr
  inputs := inputRange content controller site.machineId machine.slots.length
  outputs := outputRange content controller site.machineId machine.slots.length
  nowTick := content.lcrTicks
  mayRun := true
  mayStart := true
  orchestratesCharge recipe := recipe.hasResourceRequirements && hasNonEuRequirement recipe
  orchestratesStart recipe := recipe.hasResourceRequirements && hasNonEuRequirement recipe
  reserves _ orchestrated := (Bool.and_eq_true_iff.mp orchestrated).1
  asksOnce := false
  mirrorsHeat := false

def tickLCR (publish : Nat → Bool) (controller : MultiblockController)
    (entity : Nat) (site : MultiblockSite) (machine : MachineEntity) (state : MultiblockState) :
    MultiblockState × List TickEvent :=
  (lcrRules content controller site machine).tick content publish site.machineId entity machine
    state

def COAL_BLOCK_ID : UInt16 := 1010
def CHARCOAL_BLOCK_ID : UInt16 := 1011
def BOILER_HEAT_PER_FUEL : Int := 100
def STEAM_PER_WATER : Int := 10

def isFuel (slot : PersistSlot) : Bool :=
  (slot.itemId == COAL_BLOCK_ID || slot.itemId == CHARCOAL_BLOCK_ID) && decide (0 < slot.count)

def burnSlot (slot : PersistSlot) : PersistSlot :=
  if slot.count - 1 = 0 then ⟨0, 0, 0⟩ else { slot with count := slot.count - 1 }

def addEnergy (energy : EnergyStorage) (maxInput amount : Int) : EnergyStorage :=
  let accepted := min amount (energy.capacity - energy.current)
  { energy with current := energy.current + min (max accepted 0) maxInput }

def burnFuel (entity slot : Nat) (site : MultiblockSite) (machine : MachineEntity)
    (state : MultiblockState) : MultiblockState :=
  let heat := state.heatOf entity
  { (state.setHeat entity { heat with
      heatStored := min (heat.heatStored + BOILER_HEAT_PER_FUEL) heat.heatCapacity }).setMachine
        entity { machine with
          slots := machine.slots.modify slot burnSlot
          energy := addEnergy machine.energy site.maxInput STEAM_PER_WATER } with
    overheat := state.overheat.erase entity }

/-- The comparison with `heat_capacity * 0.8f` is exact here. -/
def coolDown (entity : Nat) (state : MultiblockState) : MultiblockState :=
  let heat := state.heatOf entity
  let heat :=
    if 0 < heat.heatStored then
      { heat with heatStored := heat.heatStored - min 5 heat.heatStored }
    else heat
  let state := if 0 < (state.heatOf entity).heatStored then state.setHeat entity heat else state
  if heat.heatCapacity * 4 < heat.heatStored * 5 then
    { state with overheat := AList.insert entity { state := .warning } state.overheat }
  else state

def tickBoiler (entity : Nat) (site : MultiblockSite) (machine : MachineEntity)
    (state : MultiblockState) : MultiblockState × List TickEvent :=
  let state := state.withHeat entity
  match machine.slots.findIdx? isFuel with
  | some slot => (burnFuel entity slot site machine state, [⟨.largeBoiler, entity, .burnt⟩])
  | none => (coolDown entity state, [])

def MultiblockSystem.takes (system : MultiblockSystem) (id : Nat)
    (controller : MultiblockController) : Bool :=
  match system with
  | .ebf => controller.id != 0 && (controller.patternId == 1 || controller.patternId == 4)
  | .largeBoiler => id != 0 && (content.patterns.getPattern 2).isSome
  | .lcr => controller.id != 0 && (content.patterns.getPattern 3).isSome

def tickController (system : MultiblockSystem) (publish : Nat → Bool)
    (controller : MultiblockController) (entity : Nat) (site : MultiblockSite)
    (machine : MachineEntity) (state : MultiblockState) : MultiblockState × List TickEvent :=
  match system with
  | .ebf => tickEBF content publish controller entity site machine state
  | .largeBoiler => tickBoiler entity site machine state
  | .lcr => tickLCR content publish controller entity site machine state

def visit (content : TickContent) (state : MultiblockState) (visit : Visit) :
    MultiblockState × List TickEvent :=
  match content.controllers.lookup visit.controllerId with
  | none => (state, [])
  | some controller =>
    if visit.system.takes content visit.controllerId controller then
      match content.entityAt controller.position with
      | none => (state, [])
      | some entity =>
        match content.sites.lookup entity, state.registry.lookup entity with
        | some site, some machine =>
          tickController content visit.system visit.publish controller entity site machine
            state
        | _, _ => (state, [])
    else (state, [])

def tickMachine : Machine MultiblockState Visit TickEvent := ⟨visit content⟩

def tickVisits (publish : Nat → Bool) : List Visit :=
  [MultiblockSystem.ebf, .largeBoiler, .lcr].flatMap fun system =>
    content.controllers.keys.map fun id => ⟨system, id, publish⟩

end GtnhPlatform.SimCore
