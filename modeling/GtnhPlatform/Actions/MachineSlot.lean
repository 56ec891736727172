import GtnhPlatform.InventorySync.Persistence
import GtnhPlatform.Sim.SimulationEngine

namespace GtnhPlatform.Actions

open Inventory (PersistSlot kInventorySlots)
open InventorySync (PlayerSlots PlayerInventoryStore)
open Sim (SimulationEngine MachineRegistry Entity MachineParts EnergyType Position)
open World (InventorySlot InventoryContainer)

def stackOf (slot : InventorySlot) : PersistSlot := ⟨slot.itemId, slot.count, slot.metadata⟩

def stacksAt (engine : SimulationEngine) (pos : Position) : List PersistSlot :=
  match (engine.findEntityAt pos).bind Entity.machine with
  | none => []
  | some parts => parts.container.slots.map stackOf

structure SetMachineSlotReq where
  playerId : Nat
  pos : Position
  slotIndex : UInt16
  itemId : UInt16
  count : UInt8
  metadata : UInt16
  playerSlot : UInt8 := 255

structure MachineSlotHandler where
  machineRegistry : Option MachineRegistry
  chunkStore : Bool
  questManager : Bool
  entityState : Bool

structure MachineSlotServer where
  engine : SimulationEngine := .new
  inventoryStore : PlayerInventoryStore := {}

inductive MachineSlotEffect where
  | response (pos : Position) (slotIdx : UInt8) (error : Option String)
  /-- the block is asked for, and its entity made when the answer comes -/
  | getBlock (pos : Position)
  | checkMachineOutput (playerId : Nat) (machineId itemId : UInt16) (count : UInt8)
  | saveEntityState (pos : Position) (machineId slotCount : UInt16) (slots : List InventorySlot)
  | publishBlockEntityUpdate (pos : Position) (machineId : UInt16) (slots : List InventorySlot)
      (type : EnergyType) (slotsIn : Int)

namespace SetMachineSlotReq

variable (req : SetMachineSlotReq)

/-- What the slot is set to: the request's `metadata` is not read. -/
def slot : InventorySlot := ⟨req.itemId, req.count, 0⟩

/-- 255 is no slot, and an id past the inventory is the slot of a machine. -/
def playerIndex : Option (Fin kInventorySlots) :=
  if inBounds : req.playerSlot.toNat < kInventorySlots then some ⟨req.playerSlot.toNat, inBounds⟩
  else none

/-- The player's slot, once `old` was taken out of the machine. -/
def settle (old : InventorySlot) (held : PersistSlot) : PersistSlot :=
  if req.itemId ≠ 0 then
    if old.itemId ≠ 0 then ⟨old.itemId, old.count, 0⟩ else .empty
  else if old.itemId ≠ 0 then ⟨old.itemId, old.count, 0⟩
  else held

end SetMachineSlotReq

namespace MachineSlotServer

variable (handler : MachineSlotHandler) (server : MachineSlotServer) (req : SetMachineSlotReq)

def findSlot : Except String (Entity × MachineParts × InventorySlot) :=
  match server.engine.findEntityAt req.pos with
  | none => .error "No machine"
  | some entity =>
    match entity.machine with
    | none => .error "Invalid slot"
    | some parts =>
      match parts.container.slots[req.slotIndex.toNat]? with
      | none => .error "Invalid slot"
      | some old => .ok (entity, parts, old)

def refused (error : String) : List MachineSlotEffect :=
  (if handler.chunkStore && (server.engine.findEntityAt req.pos).isNone then [.getBlock req.pos]
    else []) ++
    [.response req.pos req.slotIndex.toUInt8 (some error)]

/-- `container->slots[slot_idx] = {item_id, count, 0}` -/
def setMachineSlot (entity : Entity) (parts : MachineParts) : MachineSlotServer :=
  { server with
    engine := server.engine.putEntity req.pos
      { entity with
        machine := some
          { parts with
            container :=
              { parts.container with
                slots := parts.container.slots.set req.slotIndex.toNat req.slot } } } }

def setPlayerSlot (old : InventorySlot) : MachineSlotServer :=
  match req.playerIndex with
  | none => server
  | some index =>
    let inv := server.inventoryStore.getSlots req.playerId
    { server with
      inventoryStore := (server.inventoryStore.setSlots req.playerId
          (inv.set index (req.settle old (inv.get index)))).1 }

def questEffects (parts : MachineParts) (old : InventorySlot) : List MachineSlotEffect :=
  if handler.questManager && req.playerIndex.isSome && req.itemId == 0 && old.itemId != 0 &&
      parts.machine.machineId != 0 then
    [.checkMachineOutput req.playerId parts.machine.machineId old.itemId old.count]
  else []

def slotsIn (parts : MachineParts) : Int :=
  match handler.machineRegistry.bind fun registry => registry.get parts.machine.machineId with
  | none => parts.container.slotCount.toNat
  | some info => info.slotsIn

def published (parts : MachineParts) : List MachineSlotEffect :=
  let slots := parts.container.slots.set req.slotIndex.toNat req.slot
  let saved := parts.machine.position
  (if handler.entityState then
    [.saveEntityState saved parts.machine.machineId parts.container.slotCount slots]
    else []) ++
    [.publishBlockEntityUpdate req.pos parts.machine.machineId slots parts.energy.type
        (slotsIn handler parts),
      .response req.pos req.slotIndex.toUInt8 none]

def handle : MachineSlotServer × List MachineSlotEffect :=
  match server.findSlot req with
  | .error error => (server, server.refused handler req error)
  | .ok (entity, parts, old) =>
    ((server.setMachineSlot req entity parts).setPlayerSlot req old,
      questEffects handler req parts old ++ published handler req parts)

end MachineSlotServer

end GtnhPlatform.Actions
