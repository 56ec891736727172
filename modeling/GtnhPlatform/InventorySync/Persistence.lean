import GtnhPlatform.InventorySync.System
import GtnhPlatform.MetaDb.Rewards

namespace GtnhPlatform.InventorySync

open Inventory (PersistSlot kInventorySlots)
open MetaDb List

structure PlayerInventoryStore where
  inventories : Table Nat PlayerSlots := ∅

def CreateSetInventorySlotReq (playerId : Nat) (slotIndex : Fin kInventorySlots)
    (slot : PersistSlot) : FlatTable :=
  FlatTable.build [(0, playerId), (1, slotIndex.val), (2, slot.itemId.toNat),
    (3, slot.count.toNat), (4, slot.metadata.toNat)]

def CreateInventorySlot (slot : PersistSlot) : FlatTable :=
  FlatTable.build [(0, slot.itemId.toNat), (1, slot.count.toNat), (2, slot.metadata.toNat)]

namespace PlayerInventoryStore

variable (store : PlayerInventoryStore)

def getSlots (playerId : Nat) : PlayerSlots :=
  (store.inventories.lookup playerId).getD PlayerSlots.empty

/-- Every slot is saved after a change, with `onChange_` as `main` sets it. -/
def setSlots (playerId : Nat) (slots : PlayerSlots) :
    PlayerInventoryStore × List FlatTable :=
  (⟨AList.insert playerId slots store.inventories⟩, (finRange kInventorySlots).map fun index =>
      CreateSetInventorySlotReq playerId index (slots.get index))

def saving : Machine PlayerInventoryStore (Nat × PlayerSlots) FlatTable :=
  ⟨fun store change => store.setSlots change.1 change.2⟩

def initPlayer (playerId : Nat) : PlayerInventoryStore :=
  ⟨store.inventories.emplace playerId PlayerSlots.empty⟩

def applyUpdate (playerId : Nat) (slots : List PersistSlot) :
    PlayerInventoryStore :=
  ⟨AList.insert playerId
    ⟨slots.take kInventorySlots ++ (store.getSlots playerId).slots.drop slots.length, by
      have size := (store.getSlots playerId).size
      simp only [length_append, length_take, length_drop]
      omega⟩
    store.inventories⟩

def loadInventory (playerId : Nat) (slots : List FlatTable) :
    PlayerInventoryStore :=
  store.applyUpdate playerId (slots.map fun slot =>
    ⟨UInt16.ofNat (slot.getField 0), UInt8.ofNat (slot.getField 1), UInt16.ofNat (slot.getField 2)⟩)

end PlayerInventoryStore

/-- A row as it is read back. The table has no column for `metadata`. -/
structure SlotData where
  slot : Int
  blockID : UInt16
  count : UInt8
  metadata : UInt16 := 0

def SlotData.ofRow (row : (_ : Int) × InvSlot) : SlotData where
  slot := row.1
  blockID := UInt16.ofNat (row.2.blockID % 65536).toNat
  count := UInt8.ofNat (row.2.count % 256).toNat

def placeSlot (allSlots : List PersistSlot) (data : SlotData) : List PersistSlot :=
  if 0 ≤ data.slot ∧ data.slot < 40 then
    allSlots.set data.slot.toNat ⟨data.blockID, data.count, data.metadata⟩
  else allSlots

/-- The slots of a `player.inventory.load` message, each in its position. -/
def publishInventoryTo (slots : List SlotData) : List FlatTable :=
  (slots.foldl placeSlot (replicate 40 PersistSlot.empty)).map CreateInventorySlot

def upsertSlot (db : MetaDB) (playerID : Nat) (slotNum blockID count : Int) : MetaDB :=
  { db with
    inventory := Function.update db.inventory playerID
      (AList.insert slotNum ⟨blockID, count⟩ (db.inventory playerID)) }

def handleSetInventorySlotReq (db : MetaDB) (req : FlatTable) : MetaDB :=
  upsertSlot db (req.getField 0) (req.getField 1) (req.getField 2) (req.getField 3)

def getInventory (db : MetaDB) (playerID : Nat) : List SlotData :=
  ((db.inventory playerID).entries.map SlotData.ofRow).mergeSort fun first second =>
    first.slot ≤ second.slot

def handlePlayerJoined (db : MetaDB) (playerID : Nat) : Option (List FlatTable) :=
  let slots := getInventory db playerID
  if slots.isEmpty then none else some (publishInventoryTo slots)

def rejoin (db : MetaDB) (store : PlayerInventoryStore) (playerId : Nat) : PlayerInventoryStore :=
  match handlePlayerJoined db playerId with
  | none => store.initPlayer playerId
  | some slots => (store.initPlayer playerId).loadInventory playerId slots

end GtnhPlatform.InventorySync
