import GtnhPlatform.Data.Machine
import GtnhPlatform.Inventory.GiveItem
import GtnhPlatform.MetaDb.Exchange

namespace GtnhPlatform.InventorySync

open Inventory (PersistSlot giveItem giveItem_length kInventorySlots)
open MetaDb List

/-! One player's inventory: SimCore saves all slots after each change, MetaDB changes
rows of its own and sends them at a join. -/

structure PlayerSlots where
  slots : List PersistSlot
  size : slots.length = kInventorySlots

namespace PlayerSlots

def empty : PlayerSlots := ⟨replicate kInventorySlots PersistSlot.empty, length_replicate⟩

def get (slots : PlayerSlots) (index : Fin kInventorySlots) : PersistSlot :=
  slots.slots.get (index.cast slots.size.symm)

def set (slots : PlayerSlots) (index : Fin kInventorySlots) (slot : PersistSlot) : PlayerSlots :=
  ⟨slots.slots.set index.val slot, length_set.trans slots.size⟩

def give (itemId : UInt16) (count : UInt8) (targetSlot : Int) (slots : PlayerSlots) :
    PlayerSlots :=
  ⟨(giveItem itemId count targetSlot slots.slots).1, (giveItem_length _ _ _ _).trans slots.size⟩

def amount (item : UInt16) (slots : PlayerSlots) : Nat :=
  (slots.slots.map fun slot => if slot.itemId = item then slot.count.toNat else 0).sum

end PlayerSlots

structure SetInventorySlotReq where
  slotIndex : Fin kInventorySlots
  itemId : UInt16
  count : UInt8

def onChange (slots : PlayerSlots) : List SetInventorySlotReq :=
  (finRange kInventorySlots).map fun index =>
    ⟨index, (slots.get index).itemId, (slots.get index).count⟩

def updateInventorySlot (rows : SlotRows) (req : SetInventorySlotReq) : SlotRows :=
  AList.insert (req.slotIndex.val : Int) ⟨req.itemId.toNat, req.count.toNat⟩ rows

def publishedSlot (rows : SlotRows) (index : Fin kInventorySlots) : PersistSlot :=
  match rows.lookup (index.val : Int) with
  | none => PersistSlot.empty
  | some inv =>
    ⟨UInt16.ofNat (inv.blockID % 65536).toNat, UInt8.ofNat (inv.count % 256).toNat, 0⟩

def publishInventory (rows : SlotRows) : PlayerSlots :=
  ⟨(finRange kInventorySlots).map (publishedSlot rows), by simp⟩

/-- The two copies, the messages on their way, and what gameplay, grants and
deductions have come to so far. -/
structure System where
  inventory : Option PlayerSlots
  rows : SlotRows
  saves : List SetInventorySlotReq
  loads : List PlayerSlots
  joinedMetaDB : Nat
  joinedSimCore : Nat
  owed : UInt16 → Int

inductive SyncInput where
  | setSlots (slots : PlayerSlots)
  | giveItem (itemId : UInt16) (count : UInt8) (targetSlot : Int)
  | deliverSave
  | playerJoined
  | deliverJoinedToMetaDB
  | deliverJoinedToSimCore
  | deliverLoad
  | grant (itemId : UInt16) (count : UInt8) (order : List Int) (commits : Bool)
  | exchange (costItemId : UInt16) (costCount : UInt8) (rewardItemId : UInt16)
      (rewardCount : UInt8) (order : List Int) (commits : Bool)

namespace System

variable (state : System)

def getSlots : PlayerSlots := state.inventory.getD PlayerSlots.empty

def setSlots (slots : PlayerSlots) : System :=
  { state with
    inventory := some slots
    saves := state.saves ++ onChange slots
    owed := fun item => state.owed item + slots.amount item - state.getSlots.amount item }

/-- A transaction in MetaDB, which tells SimCore nothing. -/
def transact (gain : Int → Int) : Option SlotRows → System
  | none => state
  | some rows =>
    { state with
      rows := rows
      owed := fun item => state.owed item + gain item.toNat }

def handle : SyncInput → System
  | .setSlots slots => state.setSlots slots
  | .giveItem itemId count targetSlot =>
    if count = 0 then state else state.setSlots (state.getSlots.give itemId count targetSlot)
  | .deliverSave =>
    match state.saves with
    | [] => state
    | req :: rest => { state with rows := updateInventorySlot state.rows req, saves := rest }
  | .playerJoined =>
    { state with
      joinedMetaDB := state.joinedMetaDB + 1
      joinedSimCore := state.joinedSimCore + 1 }
  | .deliverJoinedToMetaDB =>
    if state.joinedMetaDB = 0 then state
    else
      { state with
        joinedMetaDB := state.joinedMetaDB - 1
        loads :=
          if state.rows.keys = [] then state.loads
          else state.loads ++ [publishInventory state.rows] }
  | .deliverJoinedToSimCore =>
    if state.joinedSimCore = 0 then state
    else
      { state with
        joinedSimCore := state.joinedSimCore - 1
        inventory := some state.getSlots }
  | .deliverLoad =>
    match state.loads with
    | [] => state
    | slots :: rest => { state with inventory := some slots, loads := rest }
  | .grant itemId count order commits =>
    if commits then
      state.transact (grantGain itemId.toNat count.toNat)
        (grantItemToInventory order state.rows itemId.toNat count.toNat)
    else state
  | .exchange costItemId costCount rewardItemId rewardCount order commits =>
    if commits then
      state.transact
        (exchangeGain costItemId.toNat costCount.toNat rewardItemId.toNat rewardCount.toNat)
        (exchangeItems order state.rows costItemId.toNat costCount.toNat rewardItemId.toNat
          rewardCount.toNat)
    else state

def machine : Machine System SyncInput Unit := ⟨fun state input => (state.handle input, [])⟩

structure StoredInventory where
  rows : SlotRows
  fits : RowsFit rows

def start (stored : StoredInventory) : System where
  inventory := none
  rows := stored.rows
  saves := []
  loads := []
  joinedMetaDB := 0
  joinedSimCore := 0
  owed := fun item => amountOf item.toNat stored.rows

def savedRows : SlotRows := state.saves.foldl updateInventorySlot state.rows

def loadedSlots : Option PlayerSlots := state.loads.getLast?.or state.inventory

structure NothingLost (state : System) : Prop where
  metaDB : ∀ item ≠ 0, (amountOf item.toNat state.savedRows : Int) = state.owed item
  simCore : state.joinedMetaDB = 0 → ∀ slots ∈ state.loadedSlots, ∀ item ≠ 0,
    (slots.amount item : Int) = state.owed item

def SameItems (slots : PlayerSlots) (rows : SlotRows) : Prop :=
  ∀ item ≠ 0, slots.amount item = amountOf item.toNat rows

/-- SimCore changes a copy that is current, and what is on its way does not undo
the change. -/
def CurrentFor (slots : PlayerSlots) : Prop :=
  SameItems state.getSlots state.savedRows ∧ (state.joinedMetaDB = 0 → state.loads ≠ [] →
      ∀ item ≠ 0, slots.amount item = state.getSlots.amount item)

def Undisturbed (touches : Int → Prop) : Prop :=
  (state.joinedMetaDB = 0 → state.loadedSlots = none) ∧
    ∀ req ∈ state.saves, ¬ touches req.slotIndex.val

def HasRoom (rows : SlotRows) (itemId : UInt16) (count : UInt8) : Prop :=
  stacksNeeded (roomFor itemId.toNat rows) count.toNat ≤ freeSlots rows slotNumbers

def CanExchange (rows : SlotRows) (costItemId : UInt16) (costCount : UInt8)
    (rewardItemId : UInt16) (rewardCount : UInt8) : Prop :=
  let held := costRows rows costItemId.toNat
  costItemId ≠ 0 ∧ costCount ≠ 0 ∧ (costCount.toNat : Int) ≤ (held.map (·.2)).sum ∧
    (rewardItemId ≠ 0 → rewardCount ≠ 0 →
      HasRoom (deductCost held costCount.toNat rows) rewardItemId rewardCount)

def InStep : SyncInput → Prop
  | .setSlots slots => state.CurrentFor slots
  | .giveItem itemId count targetSlot =>
    count ≠ 0 → state.CurrentFor (state.getSlots.give itemId count targetSlot)
  | .deliverJoinedToMetaDB =>
    state.joinedMetaDB = 1 →
      if state.rows.keys = [] then ∀ slots ∈ state.loadedSlots, SameItems slots state.savedRows
      else ∀ item : UInt16, item ≠ 0 →
        amountOf item.toNat state.rows = amountOf item.toNat state.savedRows
  | .deliverJoinedToSimCore =>
    state.joinedSimCore ≠ 0 → state.joinedMetaDB = 0 → state.loadedSlots = none →
      SameItems PlayerSlots.empty state.savedRows
  | .grant itemId count _ commits =>
    commits = true → itemId ≠ 0 → count ≠ 0 → HasRoom state.rows itemId count →
      state.Undisturbed (MayFill itemId.toNat state.rows)
  | .exchange costItemId costCount rewardItemId rewardCount _ commits =>
    commits = true → CanExchange state.rows costItemId costCount rewardItemId rewardCount →
      state.Undisturbed fun slot =>
        MayTake costItemId.toNat state.rows slot ∨ MayFill rewardItemId.toNat state.rows slot
  | _ => True

end System

end GtnhPlatform.InventorySync
