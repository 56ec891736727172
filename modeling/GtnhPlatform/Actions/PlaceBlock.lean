import GtnhPlatform.InventorySync.Persistence

namespace GtnhPlatform.Actions

open Inventory (PersistSlot)
open InventorySync (PlayerSlots PlayerInventoryStore)

/-! Placing a block: the item is taken when the chunk store has answered. -/

structure BlockPos where
  x : Int
  y : Int
  z : Int
  deriving DecidableEq

structure Block where
  blockId : UInt16
  metadata : UInt8
  deriving DecidableEq

def faceAdjacentBlock (face : UInt8) (pos : BlockPos) : BlockPos :=
  match face.toNat with
  | 0 => { pos with y := pos.y - 1 }
  | 1 => { pos with y := pos.y + 1 }
  | 2 => { pos with z := pos.z - 1 }
  | 3 => { pos with z := pos.z + 1 }
  | 4 => { pos with x := pos.x - 1 }
  | 5 => { pos with x := pos.x + 1 }
  | _ => pos

def ITEM_DRILL_ULV : UInt16 := 61440
def ITEM_DRILL_LV : UInt16 := 61441
def ITEM_DRILL_MV : UInt16 := 61442
def ITEM_DRILL_HV : UInt16 := 61443
def ITEM_CHAINSAW_LV : UInt16 := 61444
def ITEM_WRENCH : UInt16 := 61445

def isMiningTool (item : UInt16) : Bool :=
  item == ITEM_DRILL_ULV || item == ITEM_DRILL_LV || item == ITEM_DRILL_MV ||
    item == ITEM_DRILL_HV || item == ITEM_CHAINSAW_LV

def RIGHT_MOUSE_CLICK : UInt8 := 1

def SURVIVAL : UInt8 := 0
def CREATIVE : UInt8 := 1
def SPECTATOR : UInt8 := 3

def InfiniteItems (mode : UInt8) : Bool := mode == CREATIVE || mode == SPECTATOR

def CanPlaceBlocksOnServer (storedMode : UInt8) : Bool :=
  storedMode == CREATIVE || storedMode == SURVIVAL

structure SetBlockAction where
  action : UInt8
  pos : BlockPos
  expectedBlockId : UInt16
  playerId : Nat
  requestId : UInt32
  heldItem : UInt16
  face : UInt8

def SetBlockAction.effPos (action : SetBlockAction) : BlockPos :=
  if action.action = RIGHT_MOUSE_CLICK then faceAdjacentBlock action.face action.pos else action.pos

def SetBlockAction.effExpected (action : SetBlockAction) : UInt16 :=
  if action.action = RIGHT_MOUSE_CLICK then 0 else action.expectedBlockId

def isPlacementShape (action : SetBlockAction) : Bool :=
  action.action == RIGHT_MOUSE_CLICK && action.heldItem != 0 && !isMiningTool action.heldItem &&
    action.heldItem != ITEM_WRENCH

abbrev BlockTransforms := Table (UInt16 × UInt16) Block

structure Placement where
  playerId : Nat
  requestId : UInt32
  actionType : UInt8
  pos : BlockPos
  expected : UInt16
  placedBlock : UInt16
  final : Block
  /-- the player's mode when the request was handled -/
  mode : UInt8
  holds : placedBlock ≠ 0
  mayPlace : CanPlaceBlocksOnServer mode = true

def Placement.charge (placement : Placement) : Bool := !InfiniteItems placement.mode

structure CASResult where
  status : UInt8
  block : Block
  deriving DecidableEq

structure PlacementServer where
  inventoryStore : PlayerInventoryStore := {}
  playerModes : Table Nat UInt8 := ∅
  world : BlockPos → Option Block := fun _ => none
  requests : List Placement := []
  results : List (Placement × CASResult) := []

inductive PlacementInput where
  | placeBlock (action : SetBlockAction) (connected : Bool)
  | casBlock (index : Nat)
  | processResult (index : Nat)
  | setSlots (playerId : Nat) (slots : PlayerSlots)
  | setGameMode (playerId : Nat) (mode : UInt8)
  | changeWorld (pos : BlockPos) (block : Option Block)

inductive PlacementEvent where
  | blockAck (status : UInt8) (pos : BlockPos) (block : Block) (requestId : UInt32)
      (actionType : UInt8)
  | charged (playerId : Nat) (before after : PlayerSlots)
  | blockChanged (pos : BlockPos) (block : Block) (requestId : UInt32) (playerId : Nat)
  | onBlockPlaced (placement : Placement)

def ACCEPTED : UInt8 := 1
def CONFLICT : UInt8 := 2

/-- The loop over the slots: one item of the first stack there is. -/
def takePlaced (placedBlock : UInt16) : List PersistSlot → List PersistSlot
  | [] => []
  | slot :: rest =>
    if slot.itemId = placedBlock ∧ 0 < slot.count then
      (if slot.count - 1 = 0 then PersistSlot.empty
        else { slot with count := slot.count - 1 }) :: rest
    else slot :: takePlaced placedBlock rest

theorem length_takePlaced (placedBlock : UInt16) (slots : List PersistSlot) :
    (takePlaced placedBlock slots).length = slots.length := by
  induction slots with
  | nil => rfl
  | cons slot rest ih =>
    unfold takePlaced
    split
    · rfl
    · exact congrArg Nat.succ ih

def chargeSlots (placedBlock : UInt16) (slots : PlayerSlots) : PlayerSlots :=
  ⟨takePlaced placedBlock slots.slots, (length_takePlaced _ _).trans slots.size⟩

def casBlock (world : BlockPos → Option Block) (pos : BlockPos) (expected : UInt16)
    (new : Block) : (BlockPos → Option Block) × CASResult :=
  match world pos with
  | none => (world, ⟨1, ⟨0, 0⟩⟩)
  | some block =>
    if block.blockId ≠ expected then (world, ⟨1, block⟩)
    else (Function.update world pos (some new), ⟨0, new⟩)

namespace PlacementServer

variable (transforms : Option BlockTransforms)

variable (server : PlacementServer)

def getGameMode (playerId : Nat) : UInt8 :=
  (server.playerModes.lookup playerId).getD SURVIVAL

def finalBlock (action : SetBlockAction) : Block :=
  (transforms.bind fun rules => rules.lookup (action.effExpected, action.heldItem)).getD
    ⟨action.heldItem, 0⟩

/-- `PlaceBlockHandler`, where `canHandle` lets it; without a connection the
result is a conflict at once. -/
def placeBlock (action : SetBlockAction) (connected : Bool) :
    PlacementServer × List PlacementEvent :=
  if handles : isPlacementShape action = true ∧
      CanPlaceBlocksOnServer (server.getGameMode action.playerId) = true then
    let placement : Placement :=
      { playerId := action.playerId
        requestId := action.requestId
        actionType := action.action
        pos := action.effPos
        expected := action.effExpected
        placedBlock := action.heldItem
        final := finalBlock transforms action
        mode := server.getGameMode action.playerId
        holds := by
          have shape := handles.1
          simp only [isPlacementShape, Bool.and_eq_true, bne_iff_ne] at shape
          exact shape.1.1.2
        mayPlace := handles.2 }
    (if connected then { server with requests := server.requests ++ [placement] }
      else { server with results := server.results ++ [(placement, ⟨1, ⟨0, 0⟩⟩)] },
      [.blockAck ACCEPTED placement.pos placement.final placement.requestId placement.actionType])
  else (server, [])

def onCommitted (placement : Placement) :
    PlacementServer × List PlacementEvent :=
  let before := server.inventoryStore.getSlots placement.playerId
  let after := chargeSlots placement.placedBlock before
  let hooks : List PlacementEvent :=
    [.blockChanged placement.pos placement.final placement.requestId placement.playerId,
      .onBlockPlaced placement]
  if placement.charge && placement.placedBlock != 0 then
    ({ server with inventoryStore := (server.inventoryStore.setSlots placement.playerId after).1 },
      .charged placement.playerId before after :: hooks)
  else (server, hooks)

def processResult (placement : Placement) (result : CASResult) :
    PlacementServer × List PlacementEvent :=
  if result.status = 0 then server.onCommitted placement
  else
    (server,
      [.blockAck CONFLICT placement.pos result.block placement.requestId placement.actionType])

def step : PlacementInput → PlacementServer × List PlacementEvent
  | .placeBlock action connected => server.placeBlock transforms action connected
  | .casBlock index =>
    match server.requests[index]? with
    | none => (server, [])
    | some placement =>
      let result := Actions.casBlock server.world placement.pos placement.expected placement.final
      ({ server with
          world := result.1
          requests := server.requests.eraseIdx index
          results := server.results ++ [(placement, result.2)] }, [])
  | .processResult index =>
    match server.results[index]? with
    | none => (server, [])
    | some (placement, result) =>
      { server with results := server.results.eraseIdx index }.processResult placement result
  | .setSlots playerId slots =>
    ({ server with inventoryStore := (server.inventoryStore.setSlots playerId slots).1 }, [])
  | .setGameMode playerId mode =>
    ({ server with playerModes := AList.insert playerId mode server.playerModes }, [])
  | .changeWorld pos block =>
    ({ server with world := Function.update server.world pos block }, [])

def machine : Machine PlacementServer PlacementInput PlacementEvent := ⟨step transforms⟩

end PlacementServer

end GtnhPlatform.Actions
