import GtnhPlatform.Actions.PlaceBlock
import GtnhPlatform.Sim.SimulationEngine

namespace GtnhPlatform.Actions

open Inventory (PersistSlot kInventorySlots kMaxStack topUp topUp_length)
open InventorySync (PlayerSlots PlayerInventoryStore)
open Sim (SimulationEngine MultiblockController Position)
open World (InventorySlot)

/-! Breaking a block: its contents are given out before the chunk store answers. -/

def LEFT_MOUSE_CLICK : UInt8 := 2

def REJECTED : UInt8 := 0

def fillEmpty (itemId metadata : UInt16) : Nat → List PersistSlot → List PersistSlot × Nat
  | remaining, [] => ([], remaining)
  | remaining, slot :: rest =>
    if remaining = 0 then (slot :: rest, 0)
    else if slot.itemId = 0 then
      let add := min remaining 64
      let result := fillEmpty itemId metadata (remaining - add) rest
      (⟨itemId, UInt8.ofNat add, metadata⟩ :: result.1, result.2)
    else
      let result := fillEmpty itemId metadata remaining rest
      (slot :: result.1, result.2)

@[simp] theorem fillEmpty_length (itemId metadata : UInt16) (remaining : Nat)
    (inv : List PersistSlot) : (fillEmpty itemId metadata remaining inv).1.length = inv.length := by
  induction inv generalizing remaining with
  | nil => rfl
  | cons slot rest ih =>
    unfold fillEmpty
    split
    · rfl
    · split <;> simp only [List.length_cons, ih]

def fitStack (stack : InventorySlot) (inv : List PersistSlot) : List PersistSlot × Nat :=
  if stack.itemId = 0 then (inv, 0)
  else
    let topped := topUp stack.itemId stack.count.toNat inv
    fillEmpty stack.itemId stack.metadata topped.2 topped.1

@[simp] theorem fitStack_length (stack : InventorySlot) (inv : List PersistSlot) :
    (fitStack stack inv).1.length = inv.length := by
  unfold fitStack
  split
  · rfl
  · simp only [fillEmpty_length, topUp_length]

def tryFitAll : List InventorySlot → PlayerSlots → Option PlayerSlots
  | [], inv => some inv
  | stack :: rest, inv =>
    if (fitStack stack inv.slots).2 = 0 then
      tryFitAll rest ⟨(fitStack stack inv.slots).1, (fitStack_length _ _).trans inv.size⟩
    else none

structure DropInfo where
  resultId : UInt16
  count : UInt8
  metadata : UInt8

structure BreakBlockHandler where
  drops : Option (Table UInt16 DropInfo)
  onGiveItem : UInt16 → UInt8 → Int → PlayerSlots → PlayerSlots
  onDrillUse : BlockPos → UInt16 → PlayerSlots → PlayerSlots

structure BreakServer where
  engine : SimulationEngine := .new
  inventoryStore : PlayerInventoryStore := {}

structure Break where
  playerId : Nat
  requestId : UInt32
  actionType : UInt8
  pos : BlockPos
  brokenBlock : UInt16

inductive BreakEvent where
  | blockAck (status : UInt8) (pos : BlockPos) (block : Block) (reason : Option String)
      (requestId : UInt32) (actionType : UInt8)
  | setBlockCAS (pos : BlockPos) (expected : UInt16) (final : Block)
  | blockChanged (pos : BlockPos) (block : Block) (requestId : UInt32) (playerId : Nat)
  | engineEvent (event : Sim.EngineEvent)

def BlockPos.cell (pos : BlockPos) : Position :=
  ⟨UInt32.ofInt pos.x, UInt32.ofInt pos.y, UInt32.ofInt pos.z⟩

namespace BreakBlockHandler

variable (handler : BreakBlockHandler)

def dropOf (brokenBlock : UInt16) : UInt16 × UInt8 :=
  match handler.drops.bind fun drops => drops.lookup brokenBlock with
  | none => (brokenBlock, 1)
  | some drop => (drop.resultId, drop.count)

def reward (broken : Break) (inv : PlayerSlots) : PlayerSlots :=
  let drop := handler.dropOf broken.brokenBlock
  let given := if broken.brokenBlock ≠ 0 then handler.onGiveItem drop.1 drop.2 (-1) inv else inv
  handler.onDrillUse broken.pos broken.brokenBlock given

end BreakBlockHandler

namespace BreakServer

variable (server : BreakServer)

def ownerAt (pos : BlockPos) : Option MultiblockController :=
  (server.engine.findControllerAt pos.cell).bind server.engine.controllers.lookup

def contentsAt (pos : BlockPos) : List InventorySlot :=
  match server.ownerAt pos with
  | none => []
  | some controller => server.engine.collectControllerContents controller

def playerSlots (playerId : Nat) : PlayerSlots := server.inventoryStore.getSlots playerId

/-- `BreakBlockHandler::handle`, with the break that now waits for its answer. -/
def handle (action : SetBlockAction) : BreakServer × List BreakEvent × Option Break :=
  if action.action ≠ LEFT_MOUSE_CLICK then (server, [], none)
  else
    match tryFitAll (server.contentsAt action.pos) (server.playerSlots action.playerId) with
    | none =>
      (server, [.blockAck REJECTED action.pos ⟨action.expectedBlockId, 0⟩
          (some "Multiblock contents do not fit in inventory") action.requestId action.action],
        none)
    | some inv =>
      (if server.contentsAt action.pos = [] then server else { server with
          inventoryStore := (server.inventoryStore.setSlots action.playerId inv).1 },
        [.blockAck ACCEPTED action.pos ⟨0, 0⟩ none action.requestId action.action,
          .setBlockCAS action.pos action.effExpected ⟨0, 0⟩],
        some ⟨action.playerId, action.requestId, action.action, action.pos, action.effExpected⟩)

/-- The answer of the chunk store: anything but 0 is a conflict. -/
def processResult (handler : BreakBlockHandler) (broken : Break) (result : CASResult) :
    BreakServer × List BreakEvent :=
  if result.status = 0 then
    let inv := handler.reward broken (server.playerSlots broken.playerId)
    let cleared := server.engine.clearBlock broken.pos.cell
    ({ server with
        engine := cleared.1
        inventoryStore := (server.inventoryStore.setSlots broken.playerId inv).1 },
      .blockChanged broken.pos ⟨0, 0⟩ broken.requestId broken.playerId ::
        cleared.2.map .engineEvent)
  else
    (server, [.blockAck CONFLICT broken.pos result.block none broken.requestId broken.actionType])

def attempt (handler : BreakBlockHandler) (action : SetBlockAction) (result : CASResult) :
    BreakServer × List BreakEvent :=
  match server.handle action with
  | (server, events, none) => (server, events)
  | (server, events, some broken) =>
    let processed := server.processResult handler broken result
    (processed.1, events ++ processed.2)

end BreakServer

end GtnhPlatform.Actions
