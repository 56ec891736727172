import Mathlib.Algebra.Order.Ring.Nat
import Mathlib.Algebra.BigOperators.Group.List.Basic

namespace GtnhPlatform.Inventory

structure PersistSlot where
  itemId : UInt16
  count : UInt8
  metadata : UInt16
  deriving DecidableEq

namespace PersistSlot

def empty : PersistSlot := ⟨0, 0, 0⟩

def isEmpty (slot : PersistSlot) : Bool := slot.itemId == 0 || slot.count == 0

end PersistSlot

def kInventorySlots : Nat := 40
def kMaxStack : UInt8 := 64
def kHotbarCount : Nat := 10

def sameStack (a b : PersistSlot) : Bool :=
  a.itemId != 0 && a.itemId == b.itemId && a.metadata == b.metadata

structure MergeResult where
  dst : PersistSlot
  src : PersistSlot
  moved : UInt8

def mergeInto (dst src : PersistSlot) : MergeResult :=
  let space := kMaxStack - dst.count
  let moved := if src.count < space then src.count else space
  let dst := { dst with
    count := dst.count + moved
    metadata := if dst.itemId != 0 then dst.metadata else src.metadata }
  let src := { src with count := src.count - moved }
  { dst := dst
    src := if src.count == 0 then PersistSlot.empty else src
    moved := moved }

/-- What a count is kept of. Item 0 is no item. -/
structure ItemKey where
  itemId : UInt16
  metadata : UInt16
  real : itemId ≠ 0

def amountOf (item : ItemKey) (slot : PersistSlot) : Nat :=
  if slot.itemId = item.itemId ∧ slot.metadata = item.metadata then slot.count.toNat else 0

def totalOf (item : ItemKey) (slots : List PersistSlot) : Nat := (slots.map (amountOf item)).sum

variable (item : ItemKey)

@[simp] theorem totalOf_nil : totalOf item [] = 0 := rfl

@[simp] theorem totalOf_cons (slot : PersistSlot) (slots : List PersistSlot) :
    totalOf item (slot :: slots) = amountOf item slot + totalOf item slots := by
  simp [totalOf]

@[simp] theorem totalOf_append (first second : List PersistSlot) :
    totalOf item (first ++ second) = totalOf item first + totalOf item second := by
  simp [totalOf]

theorem totalOf_set {slots : List PersistSlot} (found : slots[index]? = some old)
    (slot : PersistSlot) : totalOf item (slots.set index slot) + amountOf item old =
      totalOf item slots + amountOf item slot := by
  induction slots generalizing index with
  | nil => simp at found
  | cons head rest ih =>
    cases index with
    | zero =>
      obtain rfl : head = old := by simpa using found
      simp only [List.set_cons_zero, totalOf_cons]
      omega
    | succ index =>
      have tail := ih (by simpa using found)
      simp only [List.set_cons_succ, totalOf_cons]
      omega

@[simp] theorem amountOf_empty : amountOf item PersistSlot.empty = 0 := by
  simp [amountOf, PersistSlot.empty]

theorem amountOf_of_isEmpty {slot : PersistSlot} (vacant : slot.isEmpty) :
    amountOf item slot = 0 := by
  simp only [PersistSlot.isEmpty, Bool.or_eq_true, beq_iff_eq] at vacant
  cases vacant with
  | inl noItem =>
    have other : slot.itemId ≠ item.itemId := fun same => item.real (same ▸ noItem)
    simp [amountOf, other]
  | inr nothing => simp [amountOf, nothing]

theorem amountOf_of_same {slot other : PersistSlot} (itemId : slot.itemId = other.itemId)
    (metadata : slot.metadata = other.metadata) : amountOf item slot =
      if other.itemId = item.itemId ∧ other.metadata = item.metadata then slot.count.toNat
      else 0 := by
  rw [amountOf, itemId, metadata]

theorem sameStack_iff {a b : PersistSlot} :
    sameStack a b = true ↔ a.itemId ≠ 0 ∧ a.itemId = b.itemId ∧ a.metadata = b.metadata := by
  simp [sameStack, and_assoc]

section Merge

variable {dst : PersistSlot}

variable (src : PersistSlot)

theorem mergeInto_moved (space : dst.count < kMaxStack) :
    (mergeInto dst src).moved.toNat = min (64 - dst.count.toNat) src.count.toNat := by
  have room : (kMaxStack - dst.count).toNat = 64 - dst.count.toNat :=
    UInt8.toNat_sub_of_le kMaxStack dst.count (UInt8.le_of_lt space)
  simp only [mergeInto]
  split
  · next fewer =>
    have less : src.count.toNat < (kMaxStack - dst.count).toNat := fewer
    omega
  · next enough =>
    have more : ¬ src.count.toNat < (kMaxStack - dst.count).toNat := enough
    omega

theorem mergeInto_dst_count (space : dst.count < kMaxStack) :
    (mergeInto dst src).dst.count.toNat = min 64 (dst.count.toNat + src.count.toNat) := by
  have bound : dst.count.toNat < 64 := space
  have moved := mergeInto_moved src space
  have sum : (mergeInto dst src).dst.count = dst.count + (mergeInto dst src).moved := rfl
  rw [sum, UInt8.toNat_add, moved]
  omega

theorem mergeInto_dst_kind {src : PersistSlot} (same : sameStack dst src) :
    (mergeInto dst src).dst.itemId = dst.itemId ∧
      (mergeInto dst src).dst.metadata = dst.metadata := by
  have live : (dst.itemId != 0) = true := by
    simpa using (sameStack_iff.mp same).1
  exact ⟨rfl, by simp only [mergeInto, live, if_true]⟩

theorem mergeInto_left_count (space : dst.count < kMaxStack) :
    (src.count - (mergeInto dst src).moved).toNat = src.count.toNat - (64 - dst.count.toNat) := by
  have moved := mergeInto_moved src space
  have le : (mergeInto dst src).moved ≤ src.count := by
    rw [UInt8.le_iff_toNat_le, moved]
    omega
  rw [UInt8.toNat_sub_of_le _ _ le, moved]
  omega

theorem mergeInto_src (space : dst.count < kMaxStack) :
    if src.count.toNat ≤ 64 - dst.count.toNat then (mergeInto dst src).src = PersistSlot.empty
    else (mergeInto dst src).src.itemId = src.itemId ∧
      (mergeInto dst src).src.metadata = src.metadata ∧
      (mergeInto dst src).src.count.toNat = src.count.toNat - (64 - dst.count.toNat) := by
  have left := mergeInto_left_count src space
  have srcEq : (mergeInto dst src).src =
      if src.count - (mergeInto dst src).moved == 0 then PersistSlot.empty
      else { src with count := src.count - (mergeInto dst src).moved } := rfl
  have zero : (src.count - (mergeInto dst src).moved == 0) = true ↔
      src.count.toNat ≤ 64 - dst.count.toNat := by
    rw [beq_iff_eq, ← UInt8.toNat_inj, left]
    simp only [UInt8.toNat_zero]
    omega
  rw [srcEq]
  split
  · next fits => rw [if_pos (zero.mpr fits)]
  · next excess =>
    rw [if_neg (fun none => excess (zero.mp none))]
    exact ⟨rfl, rfl, left⟩

theorem mergeInto_amount {src : PersistSlot} (same : sameStack dst src)
    (space : dst.count < kMaxStack) (item : ItemKey) :
    amountOf item (mergeInto dst src).dst + amountOf item (mergeInto dst src).src =
      amountOf item dst + amountOf item src := by
  obtain ⟨_, itemId, metadata⟩ := sameStack_iff.mp same
  have bound : dst.count.toNat < 64 := space
  have kind := mergeInto_dst_kind same
  have count := mergeInto_dst_count src space
  have left := mergeInto_src src space
  rw [amountOf_of_same item kind.1 kind.2, amountOf_of_same item itemId.symm metadata.symm, count]
  split at left
  · next fits =>
    rw [left, amountOf_empty, amountOf]
    split <;> omega
  rename_i excess
  rw [amountOf_of_same item (left.1.trans itemId.symm) (left.2.1.trans metadata.symm),
    left.2.2, amountOf]
  split <;> omega

end Merge

end GtnhPlatform.Inventory
