import GtnhPlatform.Inventory.Slots

namespace GtnhPlatform.Inventory

open List

/-! Granting items to a player; what fits nowhere is dropped. -/

def topUp (itemId : UInt16) : Nat → List PersistSlot → List PersistSlot × Nat
  | remaining, [] => ([], remaining)
  | remaining, slot :: rest =>
    if remaining = 0 then (slot :: rest, 0)
    else if slot.itemId = itemId ∧ slot.count < kMaxStack then
      let add := min remaining (64 - slot.count.toNat)
      let result := topUp itemId (remaining - add) rest
      ({ slot with count := slot.count + UInt8.ofNat add } :: result.1, result.2)
    else
      let result := topUp itemId remaining rest
      (slot :: result.1, result.2)

def fillFree (itemId : UInt16) : Nat → List PersistSlot → List PersistSlot × Nat
  | remaining, [] => ([], remaining)
  | remaining, slot :: rest =>
    if remaining = 0 then (slot :: rest, 0)
    else if slot.itemId = 0 then
      let add := min remaining 64
      let result := fillFree itemId (remaining - add) rest
      (⟨itemId, UInt8.ofNat add, 0⟩ :: result.1, result.2)
    else
      let result := fillFree itemId remaining rest
      (slot :: result.1, result.2)

def giveTarget (itemId : UInt16) (targetSlot : Int) (remaining : Nat) (slots : List PersistSlot) :
    List PersistSlot × Nat :=
  if 0 ≤ targetSlot ∧ targetSlot < kInventorySlots then
    match slots[targetSlot.toNat]? with
    | none => (slots, remaining)
    | some dst =>
      if dst.itemId = 0 then
        let add := min remaining 64
        (slots.set targetSlot.toNat ⟨itemId, UInt8.ofNat add, 0⟩, remaining - add)
      else if dst.itemId = itemId ∧ dst.count < kMaxStack then
        let add := min remaining (64 - dst.count.toNat)
        (slots.set targetSlot.toNat { dst with count := dst.count + UInt8.ofNat add },
          remaining - add)
      else (slots, remaining)
  else (slots, remaining)

def giveItem (itemId : UInt16) (count : UInt8) (targetSlot : Int) (slots : List PersistSlot) :
    List PersistSlot × Bool :=
  if count = 0 then (slots, true)
  else
    let targeted := giveTarget itemId targetSlot count.toNat slots
    let topped := topUp itemId targeted.2 targeted.1
    let filled := fillFree itemId topped.2 topped.1
    (filled.1, filled.2 == 0)

variable (itemId : UInt16)

@[simp] theorem topUp_length (remaining : Nat) (slots : List PersistSlot) :
    (topUp itemId remaining slots).1.length = slots.length := by
  induction slots generalizing remaining with
  | nil => rfl
  | cons slot rest ih =>
    unfold topUp
    split
    · rfl
    · split <;> simp only [length_cons, ih]

@[simp] theorem fillFree_length (remaining : Nat) (slots : List PersistSlot) :
    (fillFree itemId remaining slots).1.length = slots.length := by
  induction slots generalizing remaining with
  | nil => rfl
  | cons slot rest ih =>
    unfold fillFree
    split
    · rfl
    · split <;> simp only [length_cons, ih]

@[simp] theorem giveTarget_length (targetSlot : Int) (remaining : Nat) (slots : List PersistSlot) :
    (giveTarget itemId targetSlot remaining slots).1.length = slots.length := by
  unfold giveTarget
  split
  · split
    · rfl
    split
    · exact length_set
    · split
      · exact length_set
      · rfl
  · rfl

@[simp] theorem giveItem_length (count : UInt8) (targetSlot : Int) (slots : List PersistSlot) :
    (giveItem itemId count targetSlot slots).1.length = slots.length := by
  unfold giveItem
  split
  · rfl
  · simp only [fillFree_length, topUp_length, giveTarget_length]

section Untargeted

variable {itemId : UInt16} {remaining : Nat} {slot : PersistSlot} {slots rest : List PersistSlot}

def spaceOn (itemId : UInt16) (slots : List PersistSlot) : Nat :=
  (slots.map fun slot => if slot.itemId = itemId then 64 - slot.count.toNat else 0).sum

def freeSpace (slots : List PersistSlot) : Nat :=
  (slots.map fun slot => if slot.itemId = 0 then 64 else 0).sum

def grantRoom (itemId : UInt16) (slots : List PersistSlot) : Nat :=
  spaceOn itemId slots + freeSpace slots

def Plain (itemId : UInt16) (slots : List PersistSlot) : Prop :=
  ∀ slot ∈ slots, slot.itemId = itemId → slot.metadata = 0

/-- A stack of another variant of the item, with room left on it. -/
def ChargedStack (itemId : UInt16) (slot : PersistSlot) : Prop :=
  slot.itemId = itemId ∧ slot.metadata ≠ 0 ∧ slot.count < kMaxStack

def stackSpace (itemId : UInt16) (slot : PersistSlot) : Nat :=
  if slot.itemId = itemId then 64 - slot.count.toNat else 0

def ReachesCharged (itemId : UInt16) (remaining : Nat) (slots : List PersistSlot) : Prop :=
  ∃ front slot back, slots = front ++ slot :: back ∧ ChargedStack itemId slot ∧
    spaceOn itemId front < remaining

theorem topped_count {slot : PersistSlot} (add : Nat) (space : slot.count < kMaxStack)
    (fits : add ≤ 64 - slot.count.toNat) :
    (slot.count + UInt8.ofNat add).toNat = slot.count.toNat + add := by
  have bound : slot.count.toNat < 64 := space
  rw [UInt8.toNat_add, UInt8.toNat_ofNat']
  omega

theorem spaceOn_cons (itemId : UInt16) (slot : PersistSlot) (slots : List PersistSlot) :
    spaceOn itemId (slot :: slots) = stackSpace itemId slot + spaceOn itemId slots := by
  rw [spaceOn, map_cons, sum_cons, stackSpace, spaceOn]

theorem reachesCharged_cons : ReachesCharged itemId remaining (slot :: rest) ↔
    ChargedStack itemId slot ∧ 0 < remaining ∨
      ReachesCharged itemId (remaining - stackSpace itemId slot) rest := by
  constructor
  · rintro ⟨front, charged, back, split, found, left⟩
    cases front with
    | nil =>
      cases split
      exact .inl ⟨found, left⟩
    | cons first front =>
      cases split
      rw [spaceOn_cons] at left
      exact .inr ⟨front, charged, back, rfl, found, by omega⟩
  · rintro (⟨found, left⟩ | ⟨front, charged, back, rfl, found, left⟩)
    · exact ⟨[], slot, rest, rfl, found, left⟩
    · refine ⟨slot :: front, charged, back, rfl, found, ?_⟩
      rw [spaceOn_cons]
      omega

def grown (slot : PersistSlot) (add : Nat) : PersistSlot :=
  { slot with count := slot.count + UInt8.ofNat add }

variable (item : ItemKey)

theorem grown_amount (space : slot.count < kMaxStack) (fits : add ≤ 64 - slot.count.toNat) :
    amountOf item (grown slot add) = amountOf item slot +
      (if slot.itemId = item.itemId ∧ slot.metadata = item.metadata then add else 0) := by
  have count : (grown slot add).count.toNat = slot.count.toNat + add := topped_count add space fits
  rw [@amountOf_of_same item (grown slot add) slot rfl rfl, amountOf, count]
  by_cases kind : slot.itemId = item.itemId ∧ slot.metadata = item.metadata
  · rw [if_pos kind, if_pos kind, if_pos kind]
  · rw [if_neg kind, if_neg kind, if_neg kind]

theorem topUp_nil (itemId : UInt16) (remaining : Nat) :
    topUp itemId remaining [] = ([], remaining) := rfl

theorem topUp_zero (itemId : UInt16) (slots : List PersistSlot) :
    topUp itemId 0 slots = (slots, 0) := by
  cases slots with
  | nil => rfl
  | cons slot rest => rw [topUp, if_pos rfl]

theorem topUp_cons (itemId : UInt16) (remaining : Nat) (slot : PersistSlot)
    (rest : List PersistSlot) : topUp itemId remaining (slot :: rest) =
      (grown slot (min remaining (stackSpace itemId slot)) ::
          (topUp itemId (remaining - stackSpace itemId slot) rest).1,
        (topUp itemId (remaining - stackSpace itemId slot) rest).2) := by
  have nothing : ∀ rest, (slot :: rest : List PersistSlot) = grown slot 0 :: rest := by
    intro rest
    simp [grown]
  rw [topUp]
  split
  · next done =>
    rw [done, Nat.zero_sub, topUp_zero, Nat.zero_min, nothing]
  split
  · next chosen =>
    have left : remaining - min remaining (64 - slot.count.toNat) =
        remaining - (64 - slot.count.toNat) := by omega
    rw [stackSpace, if_pos chosen.1, ← left]
    rfl
  · next passed =>
    have full : stackSpace itemId slot = 0 := by
      rw [stackSpace]
      split
      · next same =>
        have above : ¬ slot.count.toNat < 64 := fun space => passed ⟨same, space⟩
        omega
      · rfl
    rw [full, Nat.sub_zero, Nat.min_zero, ← nothing]

theorem grown_min_amount (itemId : UInt16) (remaining : Nat) (slot : PersistSlot) :
    amountOf item (grown slot (min remaining (stackSpace itemId slot))) = amountOf item slot +
      (if slot.itemId = item.itemId ∧ slot.metadata = item.metadata then
        min remaining (stackSpace itemId slot) else 0) := by
  by_cases space : slot.count < kMaxStack
  · refine grown_amount item space ?_
    rw [stackSpace]
    split <;> omega
  have none : stackSpace itemId slot = 0 := by
    have above : ¬ slot.count.toNat < 64 := space
    rw [stackSpace]
    split <;> omega
  rw [none, Nat.min_zero]
  simp [grown]

theorem Plain.spared (plain : Plain itemId slots) : ¬ ReachesCharged itemId remaining slots := by
  rintro ⟨front, slot, back, rfl, ⟨same, variant, _⟩, _⟩
  exact variant (plain slot (by simp) same)

theorem topUp_total_of_spared (other : item.itemId = itemId → item.metadata ≠ 0)
    (spared : item.itemId = itemId → ¬ ReachesCharged itemId remaining slots) :
    totalOf item (topUp itemId remaining slots).1 = totalOf item slots := by
  induction slots generalizing remaining with
  | nil => rfl
  | cons slot rest ih =>
    simp only [reachesCharged_cons, not_or] at spared
    have later := ih fun given => (spared given).2
    rw [topUp_cons, totalOf_cons, totalOf_cons, grown_min_amount, later]
    split
    · next kind =>
      have none : min remaining (stackSpace itemId slot) = 0 := by
        rw [stackSpace]
        split
        · next same =>
          have variant : slot.metadata ≠ 0 := kind.2 ▸ other (kind.1.symm.trans same)
          by_contra some
          refine (spared (kind.1.symm.trans same)).1 ⟨⟨same, variant, ?_⟩, by omega⟩
          show slot.count.toNat < 64
          omega
        · exact Nat.min_zero _
      omega
    · rfl

theorem topUp_plain_total (given : item.itemId = itemId) (variant : item.metadata = 0)
    (spared : ¬ ReachesCharged itemId remaining slots) :
    totalOf item (topUp itemId remaining slots).1 + (topUp itemId remaining slots).2 =
      totalOf item slots + remaining := by
  induction slots generalizing remaining with
  | nil => rfl
  | cons slot rest ih =>
    rw [reachesCharged_cons, not_or] at spared
    have later := ih spared.2
    have here : (if slot.itemId = item.itemId ∧ slot.metadata = item.metadata then
        min remaining (stackSpace itemId slot) else 0) =
          min remaining (stackSpace itemId slot) := by
      split
      · rfl
      rename_i foreign
      rw [stackSpace]
      split
      · next same =>
        have charged : slot.metadata ≠ 0 := fun none =>
          foreign ⟨same.trans given.symm, none.trans variant.symm⟩
        by_contra some
        refine spared.1 ⟨⟨same, charged, ?_⟩, by omega⟩
        show slot.count.toNat < 64
        omega
      · exact (Nat.min_zero _).symm
    rw [topUp_cons, totalOf_cons, totalOf_cons, grown_min_amount, here]
    omega

theorem topUp_left (itemId : UInt16) (remaining : Nat) (slots : List PersistSlot) :
    (topUp itemId remaining slots).2 = remaining - spaceOn itemId slots := by
  induction slots generalizing remaining with
  | nil => simp [topUp, spaceOn]
  | cons slot rest ih =>
    unfold topUp
    simp only [spaceOn, map_cons, sum_cons] at ih ⊢
    split
    · next done => simp [done]
    split
    · next chosen =>
      rw [if_pos chosen.1]
      simp only [ih]
      omega
    · next passed =>
      simp only [ih]
      split
      · next same =>
        have full : ¬ slot.count.toNat < 64 := fun space => passed ⟨same, space⟩
        omega
      · omega

theorem fillFree_left (itemId : UInt16) (remaining : Nat) (slots : List PersistSlot) :
    (fillFree itemId remaining slots).2 = remaining - freeSpace slots := by
  induction slots generalizing remaining with
  | nil => simp [fillFree, freeSpace]
  | cons slot rest ih =>
    unfold fillFree
    simp only [freeSpace, map_cons, sum_cons] at ih ⊢
    split
    · next done => simp [done]
    split
    · simp only [ih]
      omega
    · simp only [ih]
      omega

theorem topUp_freeSpace (remaining : Nat) (slots : List PersistSlot) :
    freeSpace (topUp itemId remaining slots).1 = freeSpace slots := by
  induction slots generalizing remaining with
  | nil => rfl
  | cons slot rest ih =>
    unfold topUp
    simp only [freeSpace] at ih ⊢
    split
    · rfl
    · split <;> simp only [map_cons, sum_cons, ih]

theorem fillFree_total_of_other (other : item.itemId = itemId → item.metadata ≠ 0) (remaining : Nat)
    (slots : List PersistSlot) :
    totalOf item (fillFree itemId remaining slots).1 = totalOf item slots := by
  induction slots generalizing remaining with
  | nil => rfl
  | cons slot rest ih =>
    unfold fillFree
    split
    · rfl
    split
    · next free =>
      have foreign : ∀ count, amountOf item ⟨itemId, count, 0⟩ = 0 := fun count =>
        if_neg fun kind => other kind.1.symm kind.2.symm
      have nothing : amountOf item slot = 0 :=
        amountOf_of_isEmpty item (by simp [PersistSlot.isEmpty, free])
      simp only [totalOf_cons, ih, nothing, foreign]
    · simp only [totalOf_cons, ih]

theorem fillFree_total (given : item.itemId = itemId) (variant : item.metadata = 0)
    (remaining : Nat) (slots : List PersistSlot) :
    totalOf item (fillFree itemId remaining slots).1 + (fillFree itemId remaining slots).2 =
      totalOf item slots + remaining := by
  induction slots generalizing remaining with
  | nil => simp [fillFree]
  | cons slot rest ih =>
    unfold fillFree
    split
    · next done => simp [done]
    split
    · next free =>
      have left := ih (remaining - min remaining 64)
      have width : (UInt8.ofNat (min remaining 64)).toNat = min remaining 64 := by
        rw [UInt8.toNat_ofNat']
        omega
      have nothing : amountOf item slot = 0 :=
        amountOf_of_isEmpty item (by simp [PersistSlot.isEmpty, free])
      rw [totalOf_cons, totalOf_cons, nothing]
      simp only [amountOf, given, variant, and_self, if_true, width]
      omega
    · have left := ih remaining
      simp only [totalOf_cons]
      omega

theorem giveItem_total (variant : item.metadata = 0) {count : UInt8} {slots : List PersistSlot}
    (plain : Plain item.itemId slots) (room : count.toNat ≤ grantRoom item.itemId slots) :
    totalOf item (giveItem item.itemId count (-1) slots).1 = totalOf item slots + count.toNat := by
  unfold giveItem
  split
  · next nothing => simp [nothing]
  simp only [giveTarget, Int.reduceNeg, Int.neg_nonneg, Int.reduceLE, false_and, if_false]
  have topped := @topUp_plain_total _ count.toNat _ item rfl variant plain.spared
  have left := topUp_left item.itemId count.toNat slots
  have filled := fillFree_total item rfl variant (topUp item.itemId count.toNat slots).2
    (topUp item.itemId count.toNat slots).1
  have rest := fillFree_left item.itemId (topUp item.itemId count.toNat slots).2
    (topUp item.itemId count.toNat slots).1
  rw [topUp_freeSpace] at rest
  unfold grantRoom at room
  omega

theorem giveItem_total_of_other (other : item.itemId = itemId → item.metadata ≠ 0)
    (plain : item.itemId = itemId → Plain itemId slots) (count : UInt8) :
    totalOf item (giveItem itemId count (-1) slots).1 = totalOf item slots := by
  unfold giveItem
  split
  · rfl
  · simp only [giveTarget, Int.reduceNeg, Int.neg_nonneg, Int.reduceLE, false_and, if_false]
    rw [fillFree_total_of_other item other,
      topUp_total_of_spared item other fun given => (plain given).spared]

end Untargeted

end GtnhPlatform.Inventory
