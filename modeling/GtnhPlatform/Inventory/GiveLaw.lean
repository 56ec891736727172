import GtnhPlatform.Inventory.GiveItem

namespace GtnhPlatform.Inventory

open List

variable {itemId : UInt16} {remaining : Nat} {slot : PersistSlot} {slots rest : List PersistSlot}

theorem not_reachesCharged_zero (itemId : UInt16) (slots : List PersistSlot) :
    ¬ ReachesCharged itemId 0 slots := by
  rintro ⟨_, _, _, _, _, left⟩
  exact absurd left (Nat.not_lt_zero _)

theorem topUp_total_le (item : ItemKey) (itemId : UInt16) (remaining : Nat)
    (slots : List PersistSlot) :
    totalOf item slots ≤ totalOf item (topUp itemId remaining slots).1 := by
  induction slots generalizing remaining with
  | nil => exact Nat.le_refl _
  | cons slot rest ih =>
    have later := ih (remaining - stackSpace itemId slot)
    rw [topUp_cons, totalOf_cons, totalOf_cons, grown_min_amount]
    omega

theorem topUp_total_of_reached (given : itemId ≠ 0)
    (reached : ReachesCharged itemId remaining slots) :
    ∃ item : ItemKey, item.itemId = itemId ∧ item.metadata ≠ 0 ∧
      totalOf item slots < totalOf item (topUp itemId remaining slots).1 := by
  induction slots generalizing remaining with
  | nil =>
    obtain ⟨front, _, _, split, -⟩ := reached
    exact absurd split.symm (append_ne_nil_of_right_ne_nil front (cons_ne_nil _ _))
  | cons slot rest ih =>
    rcases reachesCharged_cons.mp reached with ⟨⟨same, variant, space⟩, some⟩ | later
    · refine ⟨⟨slot.itemId, slot.metadata, same ▸ given⟩, same, variant, ?_⟩
      have others := topUp_total_le ⟨slot.itemId, slot.metadata, same ▸ given⟩ itemId
        (remaining - stackSpace itemId slot) rest
      have below : slot.count.toNat < 64 := space
      have room : 0 < stackSpace itemId slot := by
        rw [stackSpace, if_pos same]
        omega
      rw [topUp_cons, totalOf_cons, totalOf_cons, grown_min_amount, if_pos ⟨rfl, rfl⟩]
      omega
    · obtain ⟨item, kind, variant, more⟩ := ih later
      refine ⟨item, kind, variant, ?_⟩
      rw [topUp_cons, totalOf_cons, totalOf_cons, grown_min_amount]
      omega

theorem grown_count_le (within : slot.count.toNat ≤ 64) (itemId : UInt16) (remaining : Nat) :
    (grown slot (min remaining (stackSpace itemId slot))).count.toNat ≤ 64 := by
  have add : min remaining (stackSpace itemId slot) ≤ 64 - slot.count.toNat := by
    rw [stackSpace]
    split <;> omega
  rw [grown, UInt8.toNat_add, UInt8.toNat_ofNat']
  omega

theorem topUp_count_le (itemId : UInt16) (remaining : Nat)
    (within : ∀ slot ∈ slots, slot.count.toNat ≤ 64) :
    ∀ slot ∈ (topUp itemId remaining slots).1, slot.count.toNat ≤ 64 := by
  induction slots generalizing remaining with
  | nil => exact nofun
  | cons slot rest ih =>
    obtain ⟨head, others⟩ := forall_mem_cons.mp within
    rw [topUp_cons]
    exact forall_mem_cons.mpr
      ⟨grown_count_le head itemId remaining, ih _ others⟩

theorem topUp_full (left : (topUp itemId remaining slots).2 ≠ 0)
    (within : ∀ slot ∈ slots, slot.count.toNat ≤ 64) :
    ∀ slot ∈ (topUp itemId remaining slots).1, slot.itemId = itemId → slot.count.toNat = 64 := by
  induction slots generalizing remaining with
  | nil => exact nofun
  | cons slot rest ih =>
    obtain ⟨head, others⟩ := forall_mem_cons.mp within
    have leaves := topUp_left itemId (remaining - stackSpace itemId slot) rest
    rw [topUp_cons] at left ⊢
    refine forall_mem_cons.mpr ⟨fun same => ?_, ih left others⟩
    have room : stackSpace itemId slot = 64 - slot.count.toNat := if_pos same
    have add : min remaining (stackSpace itemId slot) = 64 - slot.count.toNat := by
      omega
    rw [grown, add, UInt8.toNat_add, UInt8.toNat_ofNat']
    omega

theorem fillFree_count_le (itemId : UInt16) (remaining : Nat)
    (within : ∀ slot ∈ slots, slot.count.toNat ≤ 64) :
    ∀ slot ∈ (fillFree itemId remaining slots).1, slot.count.toNat ≤ 64 := by
  induction slots generalizing remaining with
  | nil => exact nofun
  | cons slot rest ih =>
    obtain ⟨head, others⟩ := forall_mem_cons.mp within
    unfold fillFree
    split
    · exact within
    split
    · refine forall_mem_cons.mpr ⟨?_, ih _ others⟩
      rw [UInt8.toNat_ofNat']
      omega
    · exact forall_mem_cons.mpr ⟨head, ih _ others⟩

theorem fillFree_full (left : (fillFree itemId remaining slots).2 ≠ 0) :
    ∀ slot ∈ (fillFree itemId remaining slots).1,
      (slot.itemId ≠ 0 ∧ slot ∈ slots) ∨ slot = ⟨itemId, 64, 0⟩ := by
  induction slots generalizing remaining with
  | nil => exact nofun
  | cons slot rest ih =>
    have leaves := fillFree_left itemId (remaining - min remaining 64) rest
    have later : ∀ {remaining}, (fillFree itemId remaining rest).2 ≠ 0 →
        ∀ other ∈ (fillFree itemId remaining rest).1,
          (other.itemId ≠ 0 ∧ other ∈ slot :: rest) ∨ other = ⟨itemId, 64, 0⟩ :=
      fun left other mem =>
        (ih left other mem).imp_left fun old => ⟨old.1, mem_cons_of_mem _ old.2⟩
    unfold fillFree at left ⊢
    split at left
    · exact absurd rfl left
    rename_i some
    rw [if_neg some]
    split at left
    · next free =>
      rw [if_pos free]
      refine forall_mem_cons.mpr ⟨.inr ?_, later left⟩
      simp only at left
      have all : min remaining 64 = 64 := by omega
      rw [all]
      rfl
    · next taken =>
      rw [if_neg taken]
      exact forall_mem_cons.mpr ⟨.inl ⟨taken, mem_cons_self⟩, later left⟩

def targetAt (targetSlot : Int) (slots : List PersistSlot) : Option PersistSlot :=
  if 0 ≤ targetSlot ∧ targetSlot < kInventorySlots then slots[targetSlot.toNat]? else none

def targetRoom (itemId : UInt16) (targetSlot : Int) (slots : List PersistSlot) : Nat :=
  match targetAt targetSlot slots with
  | none => 0
  | some dst => if dst.itemId = 0 then 64 else stackSpace itemId dst

def besideTarget (targetSlot : Int) (slots : List PersistSlot) : List PersistSlot :=
  match targetAt targetSlot slots with
  | none => slots
  | some _ => slots.set targetSlot.toNat PersistSlot.empty

def targetGiven (itemId : UInt16) (remaining : Nat) (dst : PersistSlot) : PersistSlot :=
  if dst.itemId = 0 then ⟨itemId, UInt8.ofNat (min remaining 64), 0⟩
  else grown dst (min remaining (stackSpace itemId dst))

theorem giveTarget_eq (itemId : UInt16) (targetSlot : Int) (remaining : Nat)
    (slots : List PersistSlot) :
    giveTarget itemId targetSlot remaining slots =
      match targetAt targetSlot slots with
      | none => (slots, remaining)
      | some dst => (slots.set targetSlot.toNat (targetGiven itemId remaining dst),
          remaining - targetRoom itemId targetSlot slots) := by
  unfold giveTarget targetRoom targetAt
  split
  · next inside =>
    cases found : slots[targetSlot.toNat]? with
    | none => rfl
    | some dst =>
      simp only [targetGiven]
      split
      · have left : remaining - min remaining 64 = remaining - 64 := by omega
        rw [left]
      split
      · next chosen =>
        have left : remaining - min remaining (64 - dst.count.toNat) =
            remaining - (64 - dst.count.toNat) := by omega
        rw [left, stackSpace, if_pos chosen.1]
        rfl
      · next passed =>
        have full : stackSpace itemId dst = 0 := by
          rw [stackSpace]
          split
          · next same =>
            have above : ¬ dst.count.toNat < 64 := fun space => passed ⟨same, space⟩
            omega
          · rfl
        obtain ⟨below, at_⟩ := List.getElem?_eq_some_iff.mp found
        have same : grown dst 0 = dst := by simp [grown]
        rw [full, Nat.min_zero, Nat.sub_zero, same, ← at_, set_getElem_self]
  · rfl

theorem targetAt_some {targetSlot : Int} (found : targetAt targetSlot slots = some dst) :
    slots[targetSlot.toNat]? = some dst := by
  unfold targetAt at found
  split at found
  · exact found
  · exact absurd found nofun

variable {index : Nat} {old : PersistSlot}

theorem spaceOn_set (found : slots[index]? = some old) (value : PersistSlot) :
    spaceOn itemId (slots.set index value) + stackSpace itemId old =
      spaceOn itemId slots + stackSpace itemId value := by
  induction slots generalizing index with
  | nil => exact absurd found nofun
  | cons head rest ih =>
    cases index with
    | zero =>
      obtain rfl : head = old := Option.some.inj found
      rw [set_cons_zero, spaceOn_cons, spaceOn_cons]
      omega
    | succ index =>
      have tail := ih found
      rw [set_cons_succ, spaceOn_cons, spaceOn_cons]
      omega

theorem freeSpace_set (found : slots[index]? = some old) (value : PersistSlot) :
    freeSpace (slots.set index value) + (if old.itemId = 0 then 64 else 0) =
      freeSpace slots + (if value.itemId = 0 then 64 else 0) := by
  unfold freeSpace
  induction slots generalizing index with
  | nil => exact absurd found nofun
  | cons head rest ih =>
    cases index with
    | zero =>
      obtain rfl : head = old := Option.some.inj found
      rw [set_cons_zero, map_cons, map_cons, sum_cons, sum_cons]
      omega
    | succ index =>
      have tail := ih found
      rw [set_cons_succ, map_cons, map_cons, sum_cons, sum_cons]
      omega

theorem reachesCharged_set (full : stackSpace itemId first = 0)
    (other : stackSpace itemId second = 0) :
    ReachesCharged itemId remaining (slots.set index first) →
      ReachesCharged itemId remaining (slots.set index second) := by
  have never : ∀ {slot}, stackSpace itemId slot = 0 → ¬ ChargedStack itemId slot := by
    rintro slot none ⟨same, -, space⟩
    have below : slot.count.toNat < 64 := space
    rw [stackSpace, if_pos same] at none
    omega
  induction slots generalizing index remaining with
  | nil => exact id
  | cons head rest ih =>
    cases index with
    | zero =>
      rw [set_cons_zero, set_cons_zero, reachesCharged_cons, reachesCharged_cons, full, other]
      exact fun reached => .inr (reached.resolve_left fun found => never full found.1)
    | succ index =>
      rw [set_cons_succ, set_cons_succ, reachesCharged_cons, reachesCharged_cons]
      exact Or.imp_right ih

section Target

variable {dst : PersistSlot} {targetSlot : Int}

theorem targetRoom_some (found : targetAt targetSlot slots = some dst) :
    targetRoom itemId targetSlot slots = if dst.itemId = 0 then 64 else stackSpace itemId dst := by
  rw [targetRoom, found]

theorem placed_count (remaining : Nat) :
    (UInt8.ofNat (min remaining 64)).toNat = min remaining 64 := by
  rw [UInt8.toNat_ofNat']
  omega

theorem not_reachesCharged_single (spared : ¬ (ChargedStack itemId dst ∧ 0 < remaining)) :
    ¬ ReachesCharged itemId remaining [dst] := by
  rw [reachesCharged_cons]
  rintro (found | ⟨front, _, _, split, -⟩)
  · exact spared found
  · exact absurd split.symm (append_ne_nil_of_right_ne_nil front (cons_ne_nil _ _))

variable (item : ItemKey)

theorem targetGiven_other (other : item.itemId = itemId → item.metadata ≠ 0)
    (spared : ¬ (ChargedStack itemId dst ∧ 0 < remaining)) :
    amountOf item (targetGiven itemId remaining dst) = amountOf item dst := by
  unfold targetGiven
  split
  · next free =>
    have nothing : amountOf item dst = 0 :=
      amountOf_of_isEmpty item (by simp [PersistSlot.isEmpty, free])
    rw [nothing]
    exact if_neg fun kind => other kind.1.symm kind.2.symm
  · have alone := topUp_total_of_spared item other fun _ => not_reachesCharged_single spared
    rw [topUp_cons, totalOf_cons, totalOf_cons] at alone
    exact Nat.add_right_cancel alone

theorem targetGiven_plain (given : item.itemId = itemId) (variant : item.metadata = 0)
    (spared : ¬ (ChargedStack itemId dst ∧ 0 < remaining)) :
    amountOf item (targetGiven itemId remaining dst) = amountOf item dst +
      min remaining (if dst.itemId = 0 then 64 else stackSpace itemId dst) := by
  unfold targetGiven
  split
  · next free =>
    have nothing : amountOf item dst = 0 :=
      amountOf_of_isEmpty item (by simp [PersistSlot.isEmpty, free])
    have placed : amountOf item ⟨itemId, UInt8.ofNat (min remaining 64), 0⟩ =
        (UInt8.ofNat (min remaining 64)).toNat := if_pos ⟨given.symm, variant.symm⟩
    rw [nothing, placed, placed_count, Nat.zero_add]
  · have alone := topUp_plain_total item given variant (not_reachesCharged_single spared)
    rw [topUp_cons, topUp_nil, totalOf_cons, totalOf_cons] at alone
    simp only [totalOf_nil, Nat.add_zero] at alone
    omega

theorem targetGiven_le (itemId : UInt16) (remaining : Nat) (dst : PersistSlot) :
    amountOf item dst ≤ amountOf item (targetGiven itemId remaining dst) := by
  unfold targetGiven
  split
  · next free =>
    rw [amountOf_of_isEmpty item (by simp [PersistSlot.isEmpty, free])]
    exact Nat.zero_le _
  · rw [grown_min_amount]
    exact Nat.le_add_right _ _

theorem targetGiven_count_le (within : dst.count.toNat ≤ 64) (itemId : UInt16) (remaining : Nat) :
    (targetGiven itemId remaining dst).count.toNat ≤ 64 := by
  unfold targetGiven
  split
  · rw [placed_count]
    exact Nat.min_le_right _ _
  · exact grown_count_le within itemId remaining

theorem targetGiven_charged (given : itemId ≠ 0) (charged : ChargedStack itemId dst)
    (some : 0 < remaining) : amountOf ⟨dst.itemId, dst.metadata, charged.1 ▸ given⟩ dst <
      amountOf ⟨dst.itemId, dst.metadata, charged.1 ▸ given⟩
        (targetGiven itemId remaining dst) := by
  obtain ⟨same, -, space⟩ := charged
  have below : dst.count.toNat < 64 := space
  have room : stackSpace itemId dst = 64 - dst.count.toNat := if_pos same
  rw [targetGiven, if_neg (same ▸ given), grown_min_amount, if_pos ⟨rfl, rfl⟩]
  omega

theorem targetGiven_full (within : dst.count.toNat ≤ 64)
    (left : remaining - (if dst.itemId = 0 then 64 else stackSpace itemId dst) ≠ 0) :
    stackSpace itemId (targetGiven itemId remaining dst) = 0 := by
  unfold targetGiven
  split
  · next free =>
    rw [if_pos free] at left
    have all : min remaining 64 = 64 := by omega
    rw [stackSpace, if_pos rfl, placed_count, all]
  · next taken =>
    rw [if_neg taken] at left
    by_cases same : dst.itemId = itemId
    · have room : stackSpace itemId dst = 64 - dst.count.toNat := if_pos same
      have count : (grown dst (min remaining (stackSpace itemId dst))).count.toNat = 64 := by
        rw [grown, UInt8.toNat_add, UInt8.toNat_ofNat']
        omega
      rw [stackSpace, count]
      split
      · rfl
      · rfl
    · exact if_neg same

theorem targetGiven_room (given : itemId ≠ 0) (remaining : Nat) (dst : PersistSlot) :
    stackSpace itemId (targetGiven itemId remaining dst) +
        (if (targetGiven itemId remaining dst).itemId = 0 then 64 else 0) =
      (if dst.itemId = 0 then 64 else stackSpace itemId dst) -
        min remaining (if dst.itemId = 0 then 64 else stackSpace itemId dst) := by
  unfold targetGiven
  by_cases free : dst.itemId = 0
  · have room : stackSpace itemId ⟨itemId, UInt8.ofNat (min remaining 64), 0⟩ =
        64 - min remaining 64 := by
      rw [stackSpace, if_pos rfl, placed_count]
    rw [if_pos free, if_pos free, if_neg given, room, Nat.add_zero]
  · have same : (grown dst (min remaining (stackSpace itemId dst))).itemId = dst.itemId := rfl
    rw [if_neg free, if_neg free, same, if_neg free, Nat.add_zero, stackSpace, same, stackSpace]
    by_cases kind : dst.itemId = itemId
    · rw [if_pos kind, if_pos kind, grown, UInt8.toNat_add, UInt8.toNat_ofNat']
      have small := dst.count.toNat_lt
      omega
    · rw [if_neg kind, if_neg kind, Nat.zero_sub]

theorem giveTarget_total_le (itemId : UInt16) (targetSlot : Int) (remaining : Nat)
    (slots : List PersistSlot) :
    totalOf item slots ≤ totalOf item (giveTarget itemId targetSlot remaining slots).1 := by
  rw [giveTarget_eq]
  cases found : targetAt targetSlot slots with
  | none => exact Nat.le_refl _
  | some dst =>
    have moved := totalOf_set item (targetAt_some found) (targetGiven itemId remaining dst)
    have more := targetGiven_le item itemId remaining dst
    simp only
    omega

theorem giveTarget_count_le (itemId : UInt16) (targetSlot : Int) (remaining : Nat)
    (within : ∀ slot ∈ slots, slot.count.toNat ≤ 64) :
    ∀ slot ∈ (giveTarget itemId targetSlot remaining slots).1, slot.count.toNat ≤ 64 := by
  rw [giveTarget_eq]
  cases found : targetAt targetSlot slots with
  | none => exact within
  | some dst =>
    have old := within dst (mem_of_getElem? (targetAt_some found))
    intro slot mem
    rcases mem_or_eq_of_mem_set mem with kept | rfl
    · exact within slot kept
    · exact targetGiven_count_le old itemId remaining

theorem giveTarget_room (given : itemId ≠ 0) (targetSlot : Int) (remaining : Nat)
    (slots : List PersistSlot) : (giveTarget itemId targetSlot remaining slots).2 -
        grantRoom itemId (giveTarget itemId targetSlot remaining slots).1 =
      remaining - grantRoom itemId slots := by
  rw [giveTarget_eq]
  cases found : targetAt targetSlot slots with
  | none => rfl
  | some dst =>
    have space := @spaceOn_set itemId _ _ _ (targetAt_some found)
      (targetGiven itemId remaining dst)
    have free := freeSpace_set (targetAt_some found) (targetGiven itemId remaining dst)
    have room := targetGiven_room given remaining dst
    have vacant : dst.itemId = 0 → stackSpace itemId dst = 0 := fun none =>
      if_neg fun same => given (same.symm.trans none)
    simp only [targetRoom_some found, grantRoom]
    by_cases none : dst.itemId = 0
    · rw [if_pos none] at free room ⊢
      have nothing := vacant none
      omega
    · rw [if_neg none] at free room ⊢
      omega

def TargetCharged (itemId : UInt16) (targetSlot : Int) (slots : List PersistSlot) : Prop :=
  ∃ dst, targetAt targetSlot slots = some dst ∧ ChargedStack itemId dst

theorem giveTarget_other (other : item.itemId = itemId → item.metadata ≠ 0)
    (spared : ¬ TargetCharged itemId targetSlot slots) :
    totalOf item (giveTarget itemId targetSlot remaining slots).1 = totalOf item slots := by
  rw [giveTarget_eq]
  cases found : targetAt targetSlot slots with
  | none => rfl
  | some dst =>
    have moved := totalOf_set item (targetAt_some found) (targetGiven itemId remaining dst)
    have same := @targetGiven_other itemId remaining dst item other fun charged =>
      spared ⟨dst, found, charged.1⟩
    simp only
    omega

theorem giveTarget_plain (given : item.itemId = itemId) (variant : item.metadata = 0)
    (spared : ¬ TargetCharged itemId targetSlot slots) :
    totalOf item (giveTarget itemId targetSlot remaining slots).1 +
        (giveTarget itemId targetSlot remaining slots).2 = totalOf item slots + remaining := by
  rw [giveTarget_eq]
  cases found : targetAt targetSlot slots with
  | none => rfl
  | some dst =>
    have moved := totalOf_set item (targetAt_some found) (targetGiven itemId remaining dst)
    have more := @targetGiven_plain itemId remaining dst item given variant fun charged =>
      spared ⟨dst, found, charged.1⟩
    simp only [targetRoom_some found]
    omega

theorem giveTarget_charged (given : itemId ≠ 0) (some : 0 < remaining)
    (charged : TargetCharged itemId targetSlot slots) :
    ∃ item : ItemKey, item.itemId = itemId ∧ item.metadata ≠ 0 ∧
      totalOf item slots < totalOf item (giveTarget itemId targetSlot remaining slots).1 := by
  obtain ⟨dst, found, stack⟩ := charged
  refine ⟨⟨dst.itemId, dst.metadata, stack.1 ▸ given⟩, stack.1, stack.2.1, ?_⟩
  have more := targetGiven_charged given stack some
  have moved := totalOf_set ⟨dst.itemId, dst.metadata, stack.1 ▸ given⟩ (targetAt_some found)
    (targetGiven itemId remaining dst)
  rw [giveTarget_eq, found]
  simp only
  omega

theorem giveTarget_reaches (given : itemId ≠ 0) (targetSlot : Int) (remaining : Nat)
    (within : ∀ slot ∈ slots, slot.count.toNat ≤ 64) :
    ReachesCharged itemId (giveTarget itemId targetSlot remaining slots).2
        (giveTarget itemId targetSlot remaining slots).1 ↔
      ReachesCharged itemId (remaining - targetRoom itemId targetSlot slots)
        (besideTarget targetSlot slots) := by
  rw [giveTarget_eq]
  cases found : targetAt targetSlot slots with
  | none => simp only [targetRoom, besideTarget, found, Nat.sub_zero]
  | some dst =>
    simp only [besideTarget, found]
    by_cases left : remaining - targetRoom itemId targetSlot slots = 0
    · rw [left]
      exact iff_of_false (not_reachesCharged_zero _ _) (not_reachesCharged_zero _ _)
    have full : stackSpace itemId (targetGiven itemId remaining dst) = 0 :=
      targetGiven_full (within dst (mem_of_getElem? (targetAt_some found)))
        (targetRoom_some found ▸ left)
    have none : stackSpace itemId PersistSlot.empty = 0 := if_neg fun same => given same.symm
    exact ⟨reachesCharged_set full none, reachesCharged_set none full⟩

end Target

def Husk (itemId : UInt16) (slot : PersistSlot) : Prop :=
  slot.itemId ≠ 0 ∧ slot.itemId ≠ itemId ∧ slot.count = 0

variable {husk : PersistSlot}

variable (other : Husk itemId husk)

include other

variable (remaining : Nat)

theorem grown_husk : grown slot (min remaining (stackSpace itemId slot)) = husk ↔ slot = husk := by
  have untouched : slot.itemId ≠ itemId →
      grown slot (min remaining (stackSpace itemId slot)) = slot := by
    intro foreign
    have none : stackSpace itemId slot = 0 := if_neg foreign
    rw [none, Nat.min_zero]
    simp [grown]
  constructor
  · intro same
    have foreign : slot.itemId ≠ itemId := by
      intro kind
      have grownKind : (grown slot (min remaining (stackSpace itemId slot))).itemId = itemId := kind
      exact other.2.1 (same ▸ grownKind)
    exact (untouched foreign).symm.trans same
  · rintro rfl
    exact untouched other.2.1

theorem topUp_husk (slots : List PersistSlot) :
    husk ∈ (topUp itemId remaining slots).1 ↔ husk ∈ slots := by
  induction slots generalizing remaining with
  | nil => exact Iff.rfl
  | cons slot rest ih =>
    rw [topUp_cons, mem_cons, mem_cons, ih, eq_comm, grown_husk other, eq_comm]

theorem fillFree_husk (slots : List PersistSlot) :
    husk ∈ (fillFree itemId remaining slots).1 ↔ husk ∈ slots := by
  induction slots generalizing remaining with
  | nil => exact Iff.rfl
  | cons slot rest ih =>
    unfold fillFree
    split
    · rfl
    split
    · next free =>
      have placed : husk ≠ ⟨itemId, UInt8.ofNat (min remaining 64), 0⟩ :=
        fun same => other.2.1 (same ▸ rfl)
      have vacant : husk ≠ slot := fun same => other.1 (same ▸ free)
      rw [mem_cons, mem_cons, ih, or_iff_right placed, or_iff_right vacant]
    · rw [mem_cons, mem_cons, ih]

theorem giveTarget_husk (targetSlot : Int) (remaining : Nat) (slots : List PersistSlot) :
    husk ∈ (giveTarget itemId targetSlot remaining slots).1 ↔ husk ∈ slots := by
  have written : ∀ dst, targetGiven itemId remaining dst = husk ↔ dst = husk := by
    intro dst
    unfold targetGiven
    split
    · next free =>
      exact iff_of_false (fun same => other.2.1 (same ▸ rfl)) fun same =>
        other.1 (same ▸ free)
    · exact grown_husk other remaining
  rw [giveTarget_eq]
  cases found : targetAt targetSlot slots with
  | none => rfl
  | some dst =>
    have old := targetAt_some found
    simp only [mem_iff_getElem?, getElem?_set]
    refine exists_congr fun index => ?_
    split
    · next chosen =>
      obtain ⟨below, -⟩ := List.getElem?_eq_some_iff.mp old
      rw [if_pos below, ← chosen, old, Option.some_inj, Option.some_inj]
      exact written dst
    · rfl

omit other

def HoldsOneMore (itemId : UInt16) (slot : PersistSlot) : Prop :=
  slot.itemId = 0 ∨ (slot.itemId = itemId ∧ slot.metadata = 0 ∧ slot.count < kMaxStack)

def HoldsOneMoreOrEmpty (itemId : UInt16) (slot : PersistSlot) : Prop :=
  slot.isEmpty ∨ HoldsOneMore itemId slot

/-- Exactness per item and metadata; `could` says which slots could hold one more. -/
structure GivesExactly (could : PersistSlot → Prop) (given : itemId ≠ 0) (count : UInt8)
    (targetSlot : Int) (slots : List PersistSlot) : Prop where
  others : ∀ item : ItemKey, item ≠ ⟨itemId, 0, given⟩ →
    totalOf item (giveItem itemId count targetSlot slots).1 = totalOf item slots
  limit : ∀ slot ∈ (giveItem itemId count targetSlot slots).1, slot.count.toNat ≤ 64
  complete : (giveItem itemId count targetSlot slots).2 = true →
    totalOf ⟨itemId, 0, given⟩ (giveItem itemId count targetSlot slots).1 =
      totalOf ⟨itemId, 0, given⟩ slots + count.toNat
  refused : (giveItem itemId count targetSlot slots).2 = false →
    ∀ slot ∈ (giveItem itemId count targetSlot slots).1, ¬ could slot

/-- No stack of another variant is in the grant's way: not the slot asked for, and
none before the rest of the grant has found room on stacks of the item. -/
def Spares (itemId : UInt16) (count : UInt8) (targetSlot : Int) (slots : List PersistSlot) :
    Prop :=
  count = 0 ∨ (¬ TargetCharged itemId targetSlot slots ∧
    ¬ ReachesCharged itemId (count.toNat - targetRoom itemId targetSlot slots)
      (besideTarget targetSlot slots))

section Grant

variable {count : UInt8} {targetSlot : Int}

theorem giveItem_zero (itemId : UInt16) (targetSlot : Int) (slots : List PersistSlot) :
    giveItem itemId 0 targetSlot slots = (slots, true) := if_pos rfl

theorem giveItem_some (some : count ≠ 0) (targetSlot : Int) (slots : List PersistSlot) :
    giveItem itemId count targetSlot slots =
      ((fillFree itemId (topUp itemId (giveTarget itemId targetSlot count.toNat slots).2
            (giveTarget itemId targetSlot count.toNat slots).1).2
          (topUp itemId (giveTarget itemId targetSlot count.toNat slots).2
            (giveTarget itemId targetSlot count.toNat slots).1).1).1,
        (fillFree itemId (topUp itemId (giveTarget itemId targetSlot count.toNat slots).2
            (giveTarget itemId targetSlot count.toNat slots).1).2
          (topUp itemId (giveTarget itemId targetSlot count.toNat slots).2
            (giveTarget itemId targetSlot count.toNat slots).1).1).2 == 0) := if_neg some

theorem giveItem_limit (itemId : UInt16) (count : UInt8) (targetSlot : Int)
    (within : ∀ slot ∈ slots, slot.count.toNat ≤ 64) :
    ∀ slot ∈ (giveItem itemId count targetSlot slots).1, slot.count.toNat ≤ 64 := by
  by_cases none : count = 0
  · rw [none, giveItem_zero]
    exact within
  · rw [giveItem_some none]
    exact fillFree_count_le _ _ (topUp_count_le _ _ (giveTarget_count_le _ _ _ within))

theorem giveItem_complete_iff (given : itemId ≠ 0) (count : UInt8) (targetSlot : Int)
    (slots : List PersistSlot) : (giveItem itemId count targetSlot slots).2 = true ↔
      count.toNat ≤ grantRoom itemId slots := by
  by_cases none : count = 0
  · rw [none, giveItem_zero]
    exact iff_of_true rfl (Nat.zero_le _)
  have room := giveTarget_room given targetSlot count.toNat slots
  rw [giveItem_some none, beq_iff_eq, fillFree_left, topUp_left, topUp_freeSpace]
  simp only [grantRoom] at room ⊢
  omega

variable {given : itemId ≠ 0}

theorem other_of_ne {item : ItemKey} (apart : item ≠ ⟨itemId, 0, given⟩) :
    item.itemId = itemId → item.metadata ≠ 0 := by
  rintro rfl plain
  apply apart
  cases item
  subst plain
  rfl

theorem giveItem_others (given : itemId ≠ 0) (within : ∀ slot ∈ slots, slot.count.toNat ≤ 64)
    (spares : Spares itemId count targetSlot slots) (item : ItemKey)
    (apart : item ≠ ⟨itemId, 0, given⟩) :
    totalOf item (giveItem itemId count targetSlot slots).1 = totalOf item slots := by
  rcases spares with rfl | ⟨target, loops⟩
  · rw [giveItem_zero]
  by_cases none : count = 0
  · rw [none, giveItem_zero]
  have other := other_of_ne apart
  have reaches := mt (giveTarget_reaches given targetSlot count.toNat within).mp loops
  rw [giveItem_some none, fillFree_total_of_other item other,
    topUp_total_of_spared item other (fun _ => reaches), giveTarget_other item other target]

theorem giveItem_plain (given : itemId ≠ 0) (within : ∀ slot ∈ slots, slot.count.toNat ≤ 64)
    (spares : Spares itemId count targetSlot slots)
    (all : (giveItem itemId count targetSlot slots).2 = true) :
    totalOf ⟨itemId, 0, given⟩ (giveItem itemId count targetSlot slots).1 =
      totalOf ⟨itemId, 0, given⟩ slots + count.toNat := by
  by_cases none : count = 0
  · rw [none, giveItem_zero]
    rfl
  obtain ⟨target, loops⟩ := spares.resolve_left none
  have reaches := mt (giveTarget_reaches given targetSlot count.toNat within).mp loops
  have targeted := @giveTarget_plain itemId count.toNat slots targetSlot ⟨itemId, 0, given⟩
    rfl rfl target
  have topped := @topUp_plain_total itemId _ _ ⟨itemId, 0, given⟩ rfl rfl reaches
  have filled := @fillFree_total itemId ⟨itemId, 0, given⟩ rfl rfl
    (topUp itemId (giveTarget itemId targetSlot count.toNat slots).2
      (giveTarget itemId targetSlot count.toNat slots).1).2
    (topUp itemId (giveTarget itemId targetSlot count.toNat slots).2
      (giveTarget itemId targetSlot count.toNat slots).1).1
  rw [giveItem_some none] at all ⊢
  have done := beq_iff_eq.mp all
  simp only
  omega

theorem giveItem_refused (given : itemId ≠ 0) (within : ∀ slot ∈ slots, slot.count.toNat ≤ 64)
    (refused : (giveItem itemId count targetSlot slots).2 = false) :
    ∀ slot ∈ (giveItem itemId count targetSlot slots).1,
      slot.itemId ≠ 0 ∧ (slot.itemId = itemId → slot.count = 64) := by
  have some : count ≠ 0 := by
    rintro rfl
    rw [giveItem_zero] at refused
    exact absurd refused nofun
  rw [giveItem_some some] at refused ⊢
  have left := beq_eq_false_iff_ne.mp refused
  have topped : (topUp itemId (giveTarget itemId targetSlot count.toNat slots).2
      (giveTarget itemId targetSlot count.toNat slots).1).2 ≠ 0 := by
    rw [fillFree_left] at left
    omega
  have full := topUp_full topped (giveTarget_count_le itemId targetSlot count.toNat within)
  intro slot mem
  rcases fillFree_full left slot mem with ⟨taken, old⟩ | rfl
  · exact ⟨taken, fun same => UInt8.toNat_inj.mp (full slot old same)⟩
  · exact ⟨given, fun _ => rfl⟩

theorem giveItem_husk {husk : PersistSlot} (other : Husk itemId husk) (count : UInt8)
    (targetSlot : Int) (slots : List PersistSlot) :
    husk ∈ (giveItem itemId count targetSlot slots).1 ↔ husk ∈ slots := by
  by_cases none : count = 0
  · rw [none, giveItem_zero]
  · rw [giveItem_some none, fillFree_husk other, topUp_husk other, giveTarget_husk other]

theorem giveItem_charged (given : itemId ≠ 0) (within : ∀ slot ∈ slots, slot.count.toNat ≤ 64)
    (reached : ¬ Spares itemId count targetSlot slots) :
    ∃ item : ItemKey, item ≠ ⟨itemId, 0, given⟩ ∧
      totalOf item slots < totalOf item (giveItem itemId count targetSlot slots).1 := by
  unfold Spares at reached
  rw [not_or, not_and_or, not_not, not_not] at reached
  obtain ⟨some, target | loops⟩ := reached
  · have positive : 0 < count.toNat := Nat.pos_of_ne_zero fun none => some (UInt8.toNat_inj.mp none)
    obtain ⟨item, same, variant, more⟩ := giveTarget_charged given positive target
    refine ⟨item, fun plain => variant (plain ▸ rfl), ?_⟩
    have later := topUp_total_le item itemId
      (giveTarget itemId targetSlot count.toNat slots).2
      (giveTarget itemId targetSlot count.toNat slots).1
    rw [giveItem_some some, fillFree_total_of_other item fun _ => variant]
    omega
  · obtain ⟨item, same, variant, more⟩ := topUp_total_of_reached given
      ((giveTarget_reaches given targetSlot count.toNat within).mpr loops)
    refine ⟨item, fun plain => variant (plain ▸ rfl), ?_⟩
    have before := giveTarget_total_le item itemId targetSlot count.toNat slots
    rw [giveItem_some some, fillFree_total_of_other item fun _ => variant]
    omega

variable {could : PersistSlot → Prop}

theorem giveItem_exact (given : itemId ≠ 0) (within : ∀ slot ∈ slots, slot.count.toNat ≤ 64)
    (spares : Spares itemId count targetSlot slots)
    (refused : (giveItem itemId count targetSlot slots).2 = false →
      ∀ slot ∈ (giveItem itemId count targetSlot slots).1, ¬ could slot) :
    GivesExactly could given count targetSlot slots where
  others := giveItem_others given within spares
  limit := giveItem_limit itemId count targetSlot within
  complete := giveItem_plain given within spares
  refused := refused

theorem GivesExactly.spares (within : ∀ slot ∈ slots, slot.count.toNat ≤ 64)
    (exact_ : GivesExactly could given count targetSlot slots) :
    Spares itemId count targetSlot slots := by
  by_contra reached
  obtain ⟨item, apart, more⟩ := giveItem_charged given within reached
  exact absurd (exact_.others item apart) (Nat.ne_of_gt more)

theorem not_holdsOneMore {slot : PersistSlot} (taken : slot.itemId ≠ 0)
    (full : slot.itemId = itemId → slot.count = 64) : ¬ HoldsOneMore itemId slot := by
  rintro (free | ⟨same, -, space⟩)
  · exact taken free
  · rw [full same] at space
    exact absurd space (UInt8.lt_irrefl 64)

theorem giveItem_exact_iff (given : itemId ≠ 0) (count : UInt8) (targetSlot : Int)
    {slots : List PersistSlot} (within : ∀ slot ∈ slots, slot.count.toNat ≤ 64) :
    (GivesExactly (HoldsOneMore itemId) given count targetSlot slots ↔
        Spares itemId count targetSlot slots) ∧
      (GivesExactly (HoldsOneMoreOrEmpty itemId) given count targetSlot slots ↔
        Spares itemId count targetSlot slots ∧
          (count.toNat ≤ grantRoom itemId slots ∨ ∀ slot ∈ slots, ¬ Husk itemId slot)) := by
  constructor
  · constructor
    · exact fun exact_ => exact_.spares within
    intro spares
    refine giveItem_exact given within spares fun refused slot mem => ?_
    obtain ⟨taken, full⟩ := giveItem_refused given within refused slot mem
    exact not_holdsOneMore taken full
  · constructor
    · intro exact_
      refine ⟨exact_.spares within, or_iff_not_imp_left.mpr fun short husk mem other => ?_⟩
      have refused : (giveItem itemId count targetSlot slots).2 = false :=
        Bool.eq_false_iff.mpr (mt (giveItem_complete_iff given count targetSlot slots).mp short)
      exact exact_.refused refused husk ((giveItem_husk other count targetSlot slots).mpr mem)
        (.inl (by simp [PersistSlot.isEmpty, other.2.2]))
    · rintro ⟨spares, room⟩
      refine giveItem_exact given within spares fun refused slot mem could => ?_
      obtain ⟨taken, full⟩ := giveItem_refused given within refused slot mem
      have none := room.resolve_left fun enough => Bool.false_ne_true
        (refused.symm.trans ((giveItem_complete_iff given count targetSlot slots).mpr enough))
      rcases could with empty | holds
      · simp only [PersistSlot.isEmpty, Bool.or_eq_true, beq_iff_eq] at empty
        have nothing : slot.count = 0 := empty.resolve_left taken
        have foreign : slot.itemId ≠ itemId := by
          intro same
          rw [full same] at nothing
          exact absurd nothing (by decide)
        have other : Husk itemId slot := ⟨taken, foreign, nothing⟩
        exact none slot ((giveItem_husk other count targetSlot slots).mp mem) other
      · exact not_holdsOneMore taken full holds

def chargedInventory : List PersistSlot := ⟨5, 10, 3⟩ :: replicate 39 PersistSlot.empty

theorem giveItem_exact_iff_charged : (∀ slot ∈ chargedInventory, slot.count.toNat ≤ 64) ∧
      (GivesExactly (HoldsOneMore 7) (by decide : (7 : UInt16) ≠ 0) 100 0 chargedInventory ↔
        Spares 7 100 0 chargedInventory) ∧
      (GivesExactly (HoldsOneMoreOrEmpty 7) (by decide : (7 : UInt16) ≠ 0) 100 0 chargedInventory ↔
        Spares 7 100 0 chargedInventory ∧ ((100 : UInt8).toNat ≤ grantRoom 7 chargedInventory ∨
          ∀ slot ∈ chargedInventory, ¬ Husk 7 slot)) :=
  ⟨by decide, giveItem_exact_iff (by decide) 100 0 (by decide)⟩

theorem giveItem_charges_plain :
    ¬ GivesExactly (HoldsOneMore 5) (by decide : (5 : UInt16) ≠ 0) 4 (-1) chargedInventory := by
  intro exact_
  have before : totalOf ⟨5, 3, by decide⟩ chargedInventory = 10 := by decide
  have after : totalOf ⟨5, 3, by decide⟩ (giveItem 5 4 (-1) chargedInventory).1 = 14 := by
    decide
  have same := exact_.others ⟨5, 3, by decide⟩ fun plain =>
    absurd (congrArg ItemKey.metadata plain) (by decide)
  rw [before, after] at same
  exact absurd same (by decide)

end Grant

end GtnhPlatform.Inventory
