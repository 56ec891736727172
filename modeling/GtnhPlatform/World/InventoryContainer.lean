import Mathlib.Algebra.Order.Ring.Nat

namespace GtnhPlatform.World

structure InventorySlot where
  itemId : UInt16 := 0
  count : UInt8 := 0
  metadata : UInt16 := 0
  deriving DecidableEq

def InventorySlot.empty : InventorySlot := {}

structure InventoryContainer where
  entityType : UInt16 := 0
  slotCount : UInt16 := 0
  slots : List InventorySlot := []
  deriving DecidableEq

def kMaxStackSize : UInt8 := 64

def slotCountForType (entityType : UInt16) : UInt16 :=
  if entityType = 1 then 3 else if entityType = 2 then 9 else 27

namespace InventoryContainer

variable (container : InventoryContainer)

def getSlot (index : UInt8) : InventorySlot := container.slots.getD index.toNat .empty

/-- A slot past the end makes the container longer. -/
def setSlot (index : UInt8) (slot : InventorySlot) : InventoryContainer :=
  let missing := index.toNat + 1 - container.slots.length
  { container with
    slots := (container.slots ++ List.replicate missing InventorySlot.empty).set index.toNat slot }

/-- Whether `addItem` tops the slot up. -/
def stackable (itemId : UInt16) (slot : InventorySlot) : Bool := slot.itemId = itemId && slot.count < 64

def vacant (slot : InventorySlot) : Bool := slot.itemId = 0

def addItem (itemId : UInt16) (count : UInt8) (metadata : UInt16) : InventoryContainer × Int :=
  let slots := container.slots
  match slots.find? (stackable itemId) with
  | some slot =>
    let added : UInt8 := slot.count + count - 64
    let sum := slot.count + count
    let topped :=
      if 64 < sum then { slot with count := 64, metadata } else { slot with count := sum }
    ({ container with slots := slots.set (slots.findIdx (stackable itemId)) topped }, added.toNat)
  | none =>
    match slots.find? vacant with
    | some _ =>
      let filled := ⟨itemId, if 64 < count then 64 else count, metadata⟩
      ({ container with slots := slots.set (slots.findIdx vacant) filled }, 0)
    | none => (container, count.toNat)

def drainSlot (index count : UInt8) : InventoryContainer :=
  let slot := container.getSlot index
  if slot.count ≤ count then container.setSlot index .empty
  else container.setSlot index { slot with count := slot.count - count }

/-- The part that `MOVE` and `SPLIT` share: into an empty slot, onto the same
item, or an exchange. -/
def transfer (srcSlot dstSlot amount : UInt8) : InventoryContainer :=
  let src := container.getSlot srcSlot
  let dst := container.getSlot dstSlot
  if dst.itemId = 0 then
    (container.setSlot dstSlot { src with count := amount }).drainSlot srcSlot amount
  else if dst.itemId = src.itemId ∧ dst.metadata = src.metadata ∧ dst.count < kMaxStackSize then
    let n := min (kMaxStackSize - dst.count) amount
    (container.setSlot dstSlot { dst with count := dst.count + n }).drainSlot srcSlot n
  else (container.setSlot srcSlot dst).setSlot dstSlot src

def syncSlotCount : InventoryContainer :=
  { container with slotCount := UInt16.ofNat container.slots.length }

/-- `amount` of nothing, or from an empty slot, returns before the slot count is
brought up to date. -/
def transferSome (srcSlot dstSlot amount : UInt8) : InventoryContainer :=
  if (container.getSlot srcSlot).itemId = 0 then container
  else if amount = 0 then container
  else (container.transfer srcSlot dstSlot amount).syncSlotCount

def move (srcSlot dstSlot count : UInt8) : InventoryContainer :=
  let src := container.getSlot srcSlot
  container.transferSome srcSlot dstSlot (if count = 0 then src.count else min count src.count)

/-- Without a count half the stack moves. -/
def split (srcSlot dstSlot count : UInt8) : InventoryContainer :=
  let src := container.getSlot srcSlot
  container.transferSome srcSlot dstSlot
    (if count = 0 then UInt8.ofNat ((src.count.toNat + 1) / 2) else min count src.count)

def act (action srcSlot dstSlot count : UInt8) : InventoryContainer :=
  if action = 0 then container.move srcSlot dstSlot count
  else if action = 1 then container.split srcSlot dstSlot count
  else container.syncSlotCount

end InventoryContainer

/-- Counts are stored with 16 bits. -/
structure MachineInventorySlot where
  itemId : UInt16
  count : UInt16
  metadata : UInt16
  deriving DecidableEq

structure MachineInventory where
  size : UInt8
  slots : Option (List MachineInventorySlot)
  deriving DecidableEq

inductive StoredState where
  | empty
  | invalid
  | state (inventory : Option MachineInventory)
  deriving DecidableEq

def serializeToBlob (container : InventoryContainer) : StoredState := .state (some
    { size := container.slotCount.toUInt8
      slots := some (container.slots.map fun slot =>
        ⟨slot.itemId, slot.count.toUInt16, slot.metadata⟩) })

def deserializeFromBlob (blob : StoredState) (container : InventoryContainer) :
    InventoryContainer :=
  match blob with
  | .state (some { size := size, slots := some slots }) =>
    { container with
      slotCount := UInt16.ofNat (max size.toNat slots.length)
      slots := slots.map fun slot => ⟨slot.itemId, slot.count.toUInt8, slot.metadata⟩ }
  | _ => container

end GtnhPlatform.World
