import GtnhPlatform.Inventory.Slots

namespace GtnhPlatform.Inventory

/-! Taking a number of items of one kind out of a row of slots. -/

def PersistSlot.less (slot : PersistSlot) (take : Nat) : PersistSlot :=
  let count := slot.count - UInt8.ofNat take
  if count = 0 then ⟨0, count, 0⟩ else { slot with count := count }

def withdraw (itemId metadata : UInt16) : Nat → List PersistSlot → List PersistSlot
  | _, [] => []
  | remaining, slot :: rest =>
    if remaining = 0 then slot :: rest
    else if slot.itemId = itemId ∧ slot.metadata = metadata then
      let take := min slot.count.toNat remaining
      slot.less take :: withdraw itemId metadata (remaining - take) rest
    else slot :: withdraw itemId metadata remaining rest

structure Shrinks (item : ItemKey) (before after : PersistSlot) : Prop where
  count : after.count.toNat ≤ before.count.toNat
  fresh : after.itemId = item.itemId ∧ after.metadata = item.metadata →
    before.itemId = item.itemId ∧ before.metadata = item.metadata
  kept : before.itemId = item.itemId ∧ before.metadata = item.metadata →
    (after.itemId = item.itemId ∧ after.metadata = item.metadata) ∨ after.count = 0

namespace Shrinks

variable {item : ItemKey}

theorem refl (slot : PersistSlot) : Shrinks item slot slot := ⟨Nat.le_refl _, id, Or.inl⟩

theorem trans (former : Shrinks item first second) (latter : Shrinks item second third) :
    Shrinks item first third where
  count := Nat.le_trans latter.count former.count
  fresh := fun held => former.fresh (latter.fresh held)
  kept := fun held => by
    rcases former.kept held with same | gone
    · exact latter.kept same
    have bound := latter.count
    rw [gone] at bound
    refine Or.inr (UInt8.toNat_inj.mp ?_)
    simpa using bound

theorem amount {before after : PersistSlot} (shrinks : Shrinks item before after) :
    amountOf item after + (if before.itemId = item.itemId ∧ before.metadata = item.metadata then
        before.count.toNat - after.count.toNat else 0) = amountOf item before := by
  have bound := shrinks.count
  by_cases held : before.itemId = item.itemId ∧ before.metadata = item.metadata
  · rw [if_pos held, amountOf, amountOf, if_pos held]
    rcases shrinks.kept held with same | gone
    · rw [if_pos same]
      omega
    · rw [gone]
      split <;> simp
  · have other : ¬ (after.itemId = item.itemId ∧ after.metadata = item.metadata) :=
      fun same => held (shrinks.fresh same)
    rw [if_neg held, amountOf, amountOf, if_neg held, if_neg other]

end Shrinks

theorem forall₂_shrinks_trans (former : List.Forall₂ (Shrinks item) first second)
    (latter : List.Forall₂ (Shrinks item) second third) :
    List.Forall₂ (Shrinks item) first third := by
  induction former generalizing third with
  | nil => exact latter
  | cons head tail ih =>
    cases latter with
    | cons nextHead nextTail =>
      exact List.Forall₂.cons (head.trans nextHead) (ih nextTail)

section Withdraw

variable {slot : PersistSlot} {take : Nat}

theorem less_count (enough : take ≤ slot.count.toNat) :
    (slot.less take).count.toNat = slot.count.toNat - take := by
  have width := slot.count.toNat_lt
  have takeEq : (UInt8.ofNat take).toNat = take := by
    rw [UInt8.toNat_ofNat']
    omega
  have below : UInt8.ofNat take ≤ slot.count := by
    rw [UInt8.le_iff_toNat_le, takeEq]
    exact enough
  have left : (slot.count - UInt8.ofNat take).toNat = slot.count.toNat - take := by
    rw [UInt8.toNat_sub_of_le _ _ below, takeEq]
  simp only [PersistSlot.less]
  split <;> exact left

theorem less_shrinks (item : ItemKey) (enough : take ≤ slot.count.toNat) :
    Shrinks item slot (slot.less take) where
  count := by
    rw [less_count enough]
    omega
  fresh := fun held => by
    simp only [PersistSlot.less] at held
    split at held
    · exact absurd held.1.symm item.real
    · exact held
  kept := fun held => by
    simp only [PersistSlot.less]
    split
    · next gone => exact Or.inr gone
    · exact Or.inl held

theorem less_amount (item : ItemKey) (enough : take ≤ slot.count.toNat) :
    amountOf item (slot.less take) =
      if slot.itemId = item.itemId ∧ slot.metadata = item.metadata then slot.count.toNat - take
      else 0 := by
  have booked := (less_shrinks item enough).amount
  have before : amountOf item slot =
      if slot.itemId = item.itemId ∧ slot.metadata = item.metadata then slot.count.toNat else 0 :=
    rfl
  rw [less_count enough, before] at booked
  split at booked
  · next held =>
    rw [if_pos held]
    omega
  · next other =>
    rw [if_neg other]
    omega

end Withdraw

variable (item : ItemKey)

theorem totalOf_withdraw_self (remaining : Nat) (slots : List PersistSlot) :
    totalOf item (withdraw item.itemId item.metadata remaining slots) =
      totalOf item slots - remaining := by
  induction slots generalizing remaining with
  | nil => simp [withdraw]
  | cons slot rest ih =>
    unfold withdraw
    split
    · next done => simp [done]
    split
    · next held =>
      simp only [totalOf_cons, ih]
      rw [less_amount item (Nat.min_le_left _ _), if_pos held, amountOf, if_pos held]
      omega
    · next other =>
      simp only [totalOf_cons, ih, amountOf, if_neg other]
      omega

theorem totalOf_withdraw_of_ne (other : ¬ (itemId = item.itemId ∧ metadata = item.metadata)) (remaining : Nat)
    (slots : List PersistSlot) :
    totalOf item (withdraw itemId metadata remaining slots) = totalOf item slots := by
  induction slots generalizing remaining with
  | nil => rfl
  | cons slot rest ih =>
    unfold withdraw
    split
    · rfl
    split
    · next held =>
      have apart : ¬ (slot.itemId = item.itemId ∧ slot.metadata = item.metadata) := by
        rwa [held.1, held.2]
      simp only [totalOf_cons, ih]
      rw [less_amount item (Nat.min_le_left _ _), if_neg apart, amountOf, if_neg apart]
    · simp only [totalOf_cons, ih]

theorem withdraw_shrinks (itemId metadata : UInt16) (remaining : Nat)
    (slots : List PersistSlot) :
    List.Forall₂ (Shrinks item) slots (withdraw itemId metadata remaining slots) := by
  induction slots generalizing remaining with
  | nil => exact List.Forall₂.nil
  | cons slot rest ih =>
    unfold withdraw
    split
    · exact List.forall₂_same.mpr fun slot _ => Shrinks.refl slot
    · split
      · exact List.Forall₂.cons (less_shrinks item (Nat.min_le_left _ _)) (ih _)
      · exact List.Forall₂.cons (Shrinks.refl slot) (ih _)

@[simp] theorem length_withdraw (itemId metadata : UInt16) (remaining : Nat)
    (slots : List PersistSlot) :
    (withdraw itemId metadata remaining slots).length = slots.length := by
  induction slots generalizing remaining with
  | nil => rfl
  | cons slot rest ih =>
    unfold withdraw
    split
    · rfl
    · split <;> simp only [List.length_cons, ih]

end GtnhPlatform.Inventory
