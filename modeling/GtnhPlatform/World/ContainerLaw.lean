import GtnhPlatform.World.WorldContainers

namespace GtnhPlatform.World

open List

abbrev ItemKind := UInt16 × UInt16

namespace InventorySlot

def kind (slot : InventorySlot) : ItemKind := (slot.itemId, slot.metadata)

variable {slot : InventorySlot} {kind : ItemKind} {first second amount : UInt8}

/-- Item 0 is an empty slot. -/
def held (slot : InventorySlot) (kind : ItemKind) : Nat :=
  if kind.1 ≠ 0 ∧ slot.kind = kind then slot.count.toNat else 0

theorem held_of_count (nothing : slot.count = 0) : slot.held kind = 0 := by
  simp [held, nothing]

theorem held_of_itemId (vacant : slot.itemId = 0) : slot.held kind = 0 :=
  if_neg fun same => same.1 ((congrArg Prod.fst same.2).symm.trans vacant)

theorem held_parts (parts : first.toNat + second.toNat = slot.count.toNat) :
    { slot with count := first }.held kind + { slot with count := second }.held kind =
      slot.held kind := by
  by_cases mine : kind.1 ≠ 0 ∧ slot.kind = kind
  · exact (congrArg₂ (· + ·) (if_pos mine) (if_pos mine)).trans (parts.trans (if_pos mine).symm)
  · exact (congrArg₂ (· + ·) (if_neg mine) (if_neg mine)).trans (if_neg mine).symm

/-- What `drainSlot` leaves. -/
def drained (slot : InventorySlot) (amount : UInt8) : InventorySlot :=
  if slot.count ≤ amount then .empty else { slot with count := slot.count - amount }

theorem held_drained (holds : amount ≤ slot.count) :
    (slot.drained amount).held kind + { slot with count := amount }.held kind =
      slot.held kind := by
  unfold drained
  split
  · next empties =>
    rw [held_of_itemId rfl, UInt8.le_antisymm holds empties, Nat.zero_add]
  · have fits := UInt8.le_iff_toNat_le.mp holds
    exact held_parts (by rw [UInt8.toNat_sub_of_le _ _ holds]; omega)

theorem count_drained_le : (slot.drained amount).count.toNat ≤ slot.count.toNat := by
  unfold drained
  split
  · exact Nat.zero_le _
  · next stays =>
    exact UInt8.le_iff_toNat_le.mp (UInt8.sub_le (UInt8.le_of_lt (UInt8.not_le.mp stays)))

end InventorySlot

namespace InventoryContainer

open InventorySlot

variable (container : InventoryContainer)

def slotAt (index : Nat) : InventorySlot :=
  container.slots.getD index .empty

def total (kind : ItemKind) : Nat :=
  (container.slots.map fun slot => slot.held kind).sum

def put (index : Nat) (slot : InventorySlot) : InventoryContainer :=
  { container with slots := container.slots.set index slot }

variable {container : InventoryContainer} {index : Nat} {slot : InventorySlot}
variable {srcSlot dstSlot amount count : UInt8}

theorem total_put (inside : index < container.slots.length) (slot : InventorySlot) (kind : ItemKind) :
    (container.put index slot).total kind + (container.slotAt index).held kind =
      container.total kind + slot.held kind := by
  unfold total put slotAt
  simp only
  generalize container.slots = slots at *
  induction slots generalizing index with
  | nil => exact absurd inside (Nat.not_lt_zero index)
  | cons first rest ih =>
    cases index with
    | zero =>
      simp only [set_cons_zero, map_cons, sum_cons, getD_cons_zero]
      omega
    | succ index =>
      have shifted := ih (Nat.lt_of_succ_lt_succ inside)
      simp only [set_cons_succ, map_cons, sum_cons, getD_cons_succ]
      omega

theorem slotAt_put (inside : index < container.slots.length) (slot : InventorySlot) (other : Nat) :
    (container.put index slot).slotAt other =
      if other = index then slot else container.slotAt other := by
  rw [slotAt, slotAt, getD_eq_getElem?_getD, getD_eq_getElem?_getD, put, getElem?_set]
  by_cases here : other = index
  · rw [if_pos here.symm, if_pos here, if_pos inside]
    rfl
  · rw [if_neg (Ne.symm here), if_neg here]

theorem length_put (container : InventoryContainer) (index : Nat) (slot : InventorySlot) :
    (container.put index slot).slots.length = container.slots.length :=
  length_set

theorem setSlot_eq_put {index : UInt8} (inside : index.toNat < container.slots.length)
    (slot : InventorySlot) : container.setSlot index slot = container.put index.toNat slot := by
  rw [setSlot, put, Nat.sub_eq_zero_of_le inside, replicate_zero, append_nil]

theorem length_setSlot (index : UInt8) : (container.setSlot index slot).slots.length =
    max container.slots.length (index.toNat + 1) := by
  simp only [setSlot, length_set, length_append, length_replicate]
  omega

theorem drainSlot_eq (container : InventoryContainer) (index count : UInt8) :
    container.drainSlot index count =
      container.setSlot index ((container.getSlot index).drained count) := by
  rw [drainSlot, InventorySlot.drained]
  split <;> rfl

theorem lt_length_of_itemId {index : UInt8} (real : (container.getSlot index).itemId ≠ 0) :
    index.toNat < container.slots.length := by
  refine Nat.lt_of_not_le fun outside => real ?_
  rw [getSlot, getD_eq_getElem?_getD, getElem?_eq_none outside]
  rfl

structure KeepsItems (before after : InventoryContainer) (srcSlot dstSlot : UInt8) : Prop where
  totals : ∀ kind, after.total kind = before.total kind
  others : ∀ index, index ≠ srcSlot.toNat → index ≠ dstSlot.toNat →
    after.slotAt index = before.slotAt index
  length : after.slots.length = before.slots.length
  slotCount : after.slotCount = before.slotCount
  limit : ∀ index, (after.slotAt index).count.toNat ≤ max 64 (before.slotAt index).count.toNat

/-- No stack over the limit goes where there was a smaller one. -/
def Fits (src dst : InventorySlot) (amount : UInt8) : Prop :=
  if dst.itemId = 0 then amount.toNat ≤ max 64 dst.count.toNat
  else if dst.itemId = src.itemId ∧ dst.metadata = src.metadata ∧ dst.count < kMaxStackSize then True
  else dst.count.toNat ≤ max 64 src.count.toNat ∧ src.count.toNat ≤ max 64 dst.count.toNat

def Careful (srcSlot dstSlot amount : UInt8) : Prop :=
  let src := container.getSlot srcSlot
  let dst := container.getSlot dstSlot
  src.itemId = 0 ∨ amount = 0 ∨
    (container.slotCount = UInt16.ofNat container.slots.length ∧
      dstSlot.toNat < container.slots.length) ∧ Fits src dst amount

variable {src dst left placed : InventorySlot}

theorem puts_keep_iff (source : srcSlot.toNat < container.slots.length)
    (target : dstSlot.toNat < container.slots.length)
    (kept : ∀ kind, left.held kind + placed.held kind =
      (if srcSlot = dstSlot then placed else container.slotAt srcSlot.toNat).held kind +
        (container.slotAt dstSlot.toNat).held kind) :
    KeepsItems container
        ((container.put dstSlot.toNat placed).put srcSlot.toNat left).syncSlotCount srcSlot dstSlot ↔
      container.slotCount = UInt16.ofNat container.slots.length ∧
        left.count.toNat ≤ max 64 (container.slotAt srcSlot.toNat).count.toNat ∧
        (srcSlot ≠ dstSlot →
          placed.count.toNat ≤ max 64 (container.slotAt dstSlot.toNat).count.toNat) := by
  have again : srcSlot.toNat < (container.put dstSlot.toNat placed).slots.length :=
    (length_put ..).symm ▸ source
  have sized : ((container.put dstSlot.toNat placed).put srcSlot.toNat left).slots.length =
      container.slots.length := by
    rw [length_put, length_put]
  have place : ∀ index, slotAt (syncSlotCount
      ((container.put dstSlot.toNat placed).put srcSlot.toNat left)) index =
        if index = srcSlot.toNat then left else
          if index = dstSlot.toNat then placed else container.slotAt index := by
    intro index
    exact (slotAt_put again left index).trans (by rw [slotAt_put target])
  constructor
  · rintro ⟨-, -, -, counted, limit⟩
    refine ⟨counted.symm.trans (congrArg UInt16.ofNat sized), ?_, fun apart => ?_⟩
    · have here := limit srcSlot.toNat
      rwa [place, if_pos rfl] at here
    · have here := limit dstSlot.toNat
      rwa [place, if_neg fun same => apart (UInt8.toNat_inj.mp same).symm, if_pos rfl] at here
  · rintro ⟨counted, first, second⟩
    refine ⟨fun kind => ?_, fun index notSrc notDst => ?_, sized,
      (congrArg UInt16.ofNat sized).trans counted.symm, fun index => ?_⟩
    · have one := total_put target placed kind
      have two := total_put again left kind
      have parts := kept kind
      rw [slotAt_put target] at two
      simp only [UInt8.toNat_inj] at two
      change total ((container.put dstSlot.toNat placed).put srcSlot.toNat left) kind = _
      omega
    · rw [place, if_neg notSrc, if_neg notDst]
    · rw [place]
      split
      · next here => exact here ▸ first
      split
      · next apart here => exact here ▸ second fun same => apart (same ▸ here)
      · exact Nat.le_max_right _ _

theorem drainSlot_setSlot (source : srcSlot.toNat < container.slots.length)
    (target : dstSlot.toNat < container.slots.length) :
    (container.setSlot dstSlot placed).drainSlot srcSlot amount =
      (container.put dstSlot.toNat placed).put srcSlot.toNat
        ((if srcSlot = dstSlot then placed else container.getSlot srcSlot).drained amount) := by
  have found := slotAt_put target placed srcSlot.toNat
  simp only [UInt8.toNat_inj] at found
  rw [setSlot_eq_put target, drainSlot_eq, setSlot_eq_put ((length_put ..).symm ▸ source)]
  exact congrArg (fun slot => (container.put dstSlot.toNat placed).put srcSlot.toNat
    (slot.drained amount)) found

theorem toNat_min (first second : UInt8) :
    (min first second).toNat = min first.toNat second.toNat := by
  change (if first ≤ second then first else second).toNat = _
  simp only [UInt8.le_iff_toNat_le]
  split <;> omega

theorem transfer_keeps_iff (real : (container.getSlot srcSlot).itemId ≠ 0)
    (holds : amount ≤ (container.getSlot srcSlot).count) :
    KeepsItems container (container.transfer srcSlot dstSlot amount).syncSlotCount srcSlot dstSlot ↔
      (container.slotCount = UInt16.ofNat container.slots.length ∧
          dstSlot.toNat < container.slots.length) ∧
        Fits (container.getSlot srcSlot) (container.getSlot dstSlot) amount := by
  have source := lt_length_of_itemId real
  have most := UInt8.le_iff_toNat_le.mp holds
  unfold transfer Fits
  simp only
  by_cases target : dstSlot.toNat < container.slots.length
  · rw [and_iff_left target]
    have atSrc : container.slotAt srcSlot.toNat = container.getSlot srcSlot := rfl
    have atDst : container.slotAt dstSlot.toNat = container.getSlot dstSlot := rfl
    generalize fromSlot : container.getSlot srcSlot = src at *
    generalize toSlot : container.getSlot dstSlot = dst at *
    split
    · next vacant =>
      have apart : srcSlot ≠ dstSlot := by
        rintro rfl
        exact real ((fromSlot.symm.trans toSlot) ▸ vacant)
      rw [drainSlot_setSlot source target, if_neg apart, puts_keep_iff source target, atSrc, atDst,
        fromSlot]
      · exact and_congr_right fun _ => (and_iff_right (count_drained_le.trans (Nat.le_max_right ..))).trans
          (forall_prop_of_true apart)
      · intro kind
        rw [if_neg apart, atSrc, atDst, held_of_itemId vacant, fromSlot, held_drained holds,
          Nat.add_zero]
    split
    · next merges =>
      obtain ⟨item, variant, room⟩ := merges
      have small : dst.count.toNat < 64 := UInt8.lt_iff_toNat_lt.mp room
      have size : (min (kMaxStackSize - dst.count) amount).toNat =
          min (64 - dst.count.toNat) amount.toNat := by
        rw [toNat_min, UInt8.toNat_sub_of_le _ _ (UInt8.le_of_lt room)]
        rfl
      generalize min (kMaxStackSize - dst.count) amount = n at *
      have sum : (dst.count + n).toNat = dst.count.toNat + n.toNat := by
        rw [UInt8.toNat_add, Nat.mod_eq_of_lt (by omega)]
      rw [drainSlot_setSlot source target, fromSlot]
      generalize fromThere : (if srcSlot = dstSlot then { dst with count := dst.count + n } else src) =
        there
      obtain ⟨alike, covers, limited⟩ : there.kind = dst.kind ∧ n ≤ there.count ∧
          there.count.toNat ≤ max 64 src.count.toNat := by
        rw [← fromThere, UInt8.le_iff_toNat_le]
        split
        · exact ⟨rfl, by simp only; omega, by simp only; omega⟩
        · exact ⟨by rw [kind, kind, item, variant], by omega, Nat.le_max_right _ _⟩
      rw [puts_keep_iff source target, atSrc, atDst]
      · refine and_congr_right fun _ => iff_of_true ⟨count_drained_le.trans limited, fun _ => ?_⟩ trivial
        simp only
        omega
      · intro kind
        have taken : { there with count := n }.held kind = { dst with count := n }.held kind :=
          congrArg (fun own => if kind.1 ≠ 0 ∧ own = kind then n.toNat else 0) alike
        have first := @held_drained _ kind _ covers
        have second := @held_parts { dst with count := dst.count + n } kind n dst.count
          (by simp only; omega)
        rw [atSrc, fromThere, atDst, ← first, taken, Nat.add_assoc]
        exact congrArg _ second.symm
    have swapped : (container.setSlot srcSlot dst).setSlot dstSlot src =
        (container.put dstSlot.toNat src).put srcSlot.toNat dst := by
      rw [setSlot_eq_put source, setSlot_eq_put ((length_put ..).symm ▸ target)]
      by_cases same : srcSlot = dstSlot
      · subst same
        rw [← fromSlot.symm.trans toSlot]
      · exact congrArg (fun slots => { container with slots := slots })
          (set_comm _ _ fun alike => same (UInt8.toNat_inj.mp alike))
    rw [swapped, puts_keep_iff source target, atSrc, atDst]
    · refine and_congr_right fun _ => and_congr_right fun back =>
        ⟨fun forth => ?_, fun forth _ => forth⟩
      by_cases same : srcSlot = dstSlot
      · subst same
        rwa [← fromSlot.symm.trans toSlot] at back ⊢
      · exact forth same
    · intro kind
      rw [atSrc, atDst, ite_self, Nat.add_comm]
  · have vacant : (container.getSlot dstSlot).itemId = 0 :=
      not_not.mp fun taken => target (lt_length_of_itemId taken)
    refine iff_of_false (fun keeps => ?_) fun careful => target careful.1.2
    have same := keeps.length
    rw [if_pos vacant, syncSlotCount, drainSlot_eq] at same
    simp only [length_setSlot] at same
    omega

theorem transferSome_keeps_iff (holds : amount ≤ (container.getSlot srcSlot).count) :
    KeepsItems container (container.transferSome srcSlot dstSlot amount) srcSlot dstSlot ↔
      container.Careful srcSlot dstSlot amount := by
  have stays : KeepsItems container container srcSlot dstSlot :=
    ⟨fun _ => rfl, fun _ _ _ => rfl, rfl, rfl, fun _ => Nat.le_max_right _ _⟩
  unfold transferSome Careful
  simp only
  split
  · next vacant => exact iff_of_true stays (Or.inl vacant)
  · next real =>
    split
    · next nothing => exact iff_of_true stays (Or.inr (Or.inl nothing))
    · next some =>
      rw [or_iff_right real, or_iff_right some]
      exact transfer_keeps_iff real holds

def HasRoom (slot : InventorySlot) (kind : ItemKind) : Prop :=
  slot.itemId = 0 ∨ slot.kind = kind ∧ slot.count < 64

structure Adds (before after : InventoryContainer) (kind : ItemKind) (count : UInt8)
    (leftover : Int) : Prop where
  totals : ∀ other, (after.total other : Int) =
    before.total other + if other = kind then count.toNat - leftover else 0
  limit : ∀ index, (after.slotAt index).count.toNat ≤ max 64 (before.slotAt index).count.toNat
  full : 0 < leftover → ∀ index < after.slots.length, ¬HasRoom (after.slotAt index) kind

def TopsUpExactly (kind : ItemKind) (count : UInt8) (slot : InventorySlot) : Prop :=
  let sum := slot.count.toNat + count.toNat
  kind.1 ≠ 0 ∧ (slot.kind = kind ∧ sum = 64 ∨
    (64 < sum ∧ sum < 256) ∧ (slot.kind = kind ∨ slot.count = 0) ∧
      ∀ index < container.slots.length, index ≠ container.slots.findIdx (stackable kind.1) →
        ¬HasRoom (container.slotAt index) kind)

def AddsExactly (kind : ItemKind) (count : UInt8) : Prop :=
  match container.slots.find? (stackable kind.1) with
  | some slot => container.TopsUpExactly kind count slot
  | none =>
    (container.slots.find? vacant).isSome → count.toNat ≤ 64 ∧ (kind.1 = 0 → count = 0)

variable {changed : InventorySlot} {leftover : Int} {kind : ItemKind}

theorem adds_put_iff (inside : index < container.slots.length)
    (limited : changed.count.toNat ≤ max 64 (container.slotAt index).count.toNat) :
    Adds container (container.put index changed) kind count leftover ↔
      (∀ other, (changed.held other : Int) = (container.slotAt index).held other +
          if other = kind then count.toNat - leftover else 0) ∧
        (0 < leftover → ¬HasRoom changed kind ∧ ∀ other < container.slots.length,
          other ≠ index → ¬HasRoom (container.slotAt other) kind) := by
  have moved := total_put inside changed
  constructor
  · rintro ⟨totals, -, full⟩
    refine ⟨fun other => ?_, fun left => ⟨?_, fun other small apart => ?_⟩⟩
    · have here := totals other
      have there := moved other
      omega
    · simpa [slotAt_put inside] using full left index ((length_put ..).symm ▸ inside)
    · simpa [slotAt_put inside, apart] using full left other ((length_put ..).symm ▸ small)
  · rintro ⟨totals, full⟩
    refine ⟨fun other => ?_, fun other => ?_, fun left other small => ?_⟩
    · have here := totals other
      have there := moved other
      omega
    · rw [slotAt_put inside]
      split
      · next there => exact there ▸ limited
      · exact Nat.le_max_right _ _
    · rw [slotAt_put inside]
      split
      · exact (full left).1
      · next apart => exact (full left).2 other (length_put .. ▸ small) apart

theorem held_shift_iff {d : Int} (own : slot.itemId = kind.1)
    (variant : changed.kind = kind ∨ changed.kind = slot.kind) :
    (∀ other, (changed.held other : Int) = slot.held other + if other = kind then d else 0) ↔
      if kind.1 = 0 then d = 0
      else if slot.kind = kind then (changed.count.toNat : Int) = slot.count.toNat + d
      else if changed.kind = kind then slot.count.toNat = 0 ∧ (changed.count.toNat : Int) = d
      else d = 0 ∧ changed.count.toNat = slot.count.toNat := by
  have same : slot.kind.1 = kind.1 := own
  simp only [held]
  constructor
  · intro shifts
    have here := shifts kind
    have there := shifts slot.kind
    grind
  · intro counts other
    grind

theorem slotAt_findIdx {chosen : InventorySlot → Bool}
    (found : container.slots.find? chosen = some slot) :
    container.slots.findIdx chosen < container.slots.length ∧
      container.slotAt (container.slots.findIdx chosen) = slot := by
  refine ⟨findIdx_lt_length_of_exists ⟨slot, mem_of_find?_eq_some found, find?_some found⟩, ?_⟩
  rw [slotAt, getD_eq_getElem?_getD, ← find?_eq_getElem?_findIdx, found]
  rfl

theorem adds_topped_iff (found : container.slots.find? (stackable kind.1) = some slot) :
    Adds container (container.addItem kind.1 count kind.2).1 kind count
        (container.addItem kind.1 count kind.2).2 ↔ container.TopsUpExactly kind count slot := by
  obtain ⟨inside, place⟩ := slotAt_findIdx found
  have chosen := find?_some found
  simp only [stackable, Bool.and_eq_true, decide_eq_true_eq] at chosen
  obtain ⟨item, room⟩ := chosen
  have small : slot.count.toNat < 64 := UInt8.lt_iff_toNat_lt.mp room
  have width := count.toNat_lt
  have sum : (slot.count + count).toNat = (slot.count.toNat + count.toNat) % 256 :=
    UInt8.toNat_add _ _
  have added : (slot.count + count - 64).toNat = (slot.count.toNat + count.toNat + 192) % 256 := by
    rw [UInt8.toNat_sub, sum]
    change (256 - 64 + _) % 256 = _
    omega
  unfold addItem TopsUpExactly
  simp only [found]
  by_cases past : 64 < slot.count.toNat + count.toNat ∧ slot.count.toNat + count.toNat < 256
  · rw [if_pos (UInt8.lt_iff_toNat_lt.mpr (by change 64 < _; omega))]
    generalize toppedEq : ({ slot with count := 64, metadata := kind.2 } : InventorySlot) = topped
    have full : topped.count = 64 := toppedEq ▸ rfl
    have alike : topped.kind = kind := toppedEq ▸ Prod.ext item rfl
    have sixtyFour : topped.count.toNat = 64 := full ▸ rfl
    refine (adds_put_iff inside (sixtyFour ▸ Nat.le_max_left _ _)).trans ?_
    have same : topped.itemId = kind.1 := congrArg Prod.fst alike
    have short : ¬HasRoom topped kind ↔ kind.1 ≠ 0 := by
      rw [HasRoom, full, same]
      simp [UInt8.lt_irrefl]
    have nothing : slot.count = 0 ↔ slot.count.toNat = 0 := UInt8.toNat_inj.symm
    rw [place, held_shift_iff item (Or.inl alike), short, alike, sixtyFour, nothing]
    grind
  · rw [if_neg (by rw [UInt8.lt_iff_toNat_lt]; change ¬64 < _; omega)]
    generalize toppedEq : ({ slot with count := slot.count + count } : InventorySlot) = topped
    have size : topped.count.toNat = (slot.count.toNat + count.toNat) % 256 := toppedEq ▸ sum
    have alike : topped.kind = slot.kind := toppedEq ▸ rfl
    refine (adds_put_iff inside (by omega)).trans ?_
    rw [place, held_shift_iff item (Or.inr alike), alike]
    grind

theorem addItem_adds_iff (container : InventoryContainer) (kind : ItemKind) (count : UInt8) :
    Adds container (container.addItem kind.1 count kind.2).1 kind count
        (container.addItem kind.1 count kind.2).2 ↔ container.AddsExactly kind count := by
  unfold AddsExactly
  cases chosen : container.slots.find? (stackable kind.1) with
  | some slot => exact adds_topped_iff chosen
  | none =>
    unfold addItem
    simp only [chosen]
    have none : ∀ slot ∈ container.slots, ¬(slot.itemId = kind.1 ∧ slot.count < 64) := by
      simpa [stackable] using find?_eq_none.mp chosen
    cases free : container.slots.find? vacant with
    | none =>
      refine iff_of_true ⟨fun other => ?_, fun _ => Nat.le_max_right _ _,
        fun _ index inside => ?_⟩ nofun
      · simp
      have mem : container.slotAt index ∈ container.slots := by
        rw [slotAt, getD_eq_getElem?_getD, getElem?_eq_getElem inside]
        exact getElem_mem inside
      rintro (empty | ⟨own, room⟩)
      · exact find?_eq_none.mp free _ mem (by simpa [vacant] using empty)
      · exact none _ mem ⟨congrArg Prod.fst own, room⟩
    | some slot =>
      obtain ⟨inside, place⟩ := slotAt_findIdx free
      have empty : slot.itemId = 0 := by simpa [vacant] using find?_some free
      have most : (if 64 < count then 64 else count).toNat = min 64 count.toNat := by
        have sixtyFour : (64 : UInt8).toNat = 64 := rfl
        simp only [UInt8.lt_iff_toNat_lt]
        split <;> omega
      generalize (if 64 < count then 64 else count) = size at most
      have none : ∀ other, slot.held other = held ⟨kind.1, 0, kind.2⟩ other :=
        fun other => (held_of_itemId empty).trans (held_of_count rfl).symm
      have nothing : count = 0 ↔ count.toNat = 0 := UInt8.toNat_inj.symm
      refine (@adds_put_iff _ _ _ ⟨kind.1, size, kind.2⟩ 0 _ inside (by simp only; omega)).trans ?_
      simp only [place, none]
      rw [@held_shift_iff ⟨kind.1, 0, kind.2⟩ ⟨kind.1, size, kind.2⟩ kind _ rfl (Or.inl rfl), nothing]
      have exactly : (InventorySlot.mk kind.1 0 kind.2).kind = kind := rfl
      rw [if_pos exactly]
      grind

theorem addItem_misreports : ¬∀ (container : InventoryContainer) (kind : ItemKind) (count : UInt8),
    Adds container (container.addItem kind.1 count kind.2).1 kind count
      (container.addItem kind.1 count kind.2).2 :=
  fun all => absurd ((all ⟨0, 1, [⟨5, 10, 0⟩]⟩ (5, 0) 5).totals (5, 0)) (by decide)

end InventoryContainer

open InventoryContainer

/-- `MOVE`, or `SPLIT`. -/
structure ContainerAction where
  splits : Bool
  srcSlot : UInt8
  dstSlot : UInt8
  count : UInt8

def ContainerAction.code (action : ContainerAction) : UInt8 := if action.splits then 1 else 0

def ContainerAction.amount (action : ContainerAction) (container : InventoryContainer) : UInt8 :=
  let held := (container.getSlot action.srcSlot).count
  if action.count ≠ 0 then min action.count held
  else if action.splits then UInt8.ofNat ((held.toNat + 1) / 2)
  else held

theorem act_eq (container : InventoryContainer) (action : ContainerAction) :
    container.act action.code action.srcSlot action.dstSlot action.count =
      container.transferSome action.srcSlot action.dstSlot (action.amount container) := by
  obtain ⟨splits, srcSlot, dstSlot, count⟩ := action
  cases splits with
  | false =>
    refine (if_pos rfl).trans (congrArg (container.transferSome srcSlot dstSlot) ?_)
    exact (ite_not ..).symm
  | true =>
    refine (if_neg (by simp [ContainerAction.code])).trans ((if_pos rfl).trans
      (congrArg (container.transferSome srcSlot dstSlot) ?_))
    exact (ite_not ..).symm

theorem amount_le (container : InventoryContainer) (action : ContainerAction) :
    action.amount container ≤ (container.getSlot action.srcSlot).count := by
  unfold ContainerAction.amount
  simp only
  generalize (container.getSlot action.srcSlot).count = held
  rw [UInt8.le_iff_toNat_le]
  split
  · rw [toNat_min]
    exact Nat.min_le_right _ _
  split
  · rw [UInt8.toNat_ofNat']
    omega
  · exact Nat.le_refl _

namespace WorldContainers

def opened (world : WorldContainers) (playerId : UInt64) (pos : BlockPos) :
    Option InventoryContainer :=
  (world.entryOf playerId pos).map fun entry => (world.entities.lookup entry.entity).getD {}

def actions (playerId : UInt64) (pos : BlockPos) :
    Machine WorldContainers ContainerAction ContainerEvent where
  step world action := (world.onContainerAction playerId pos action.code action.srcSlot
    action.dstSlot action.count, [])

def ActKeeps (playerId : UInt64) (pos : BlockPos) (world : WorldContainers)
    (action : ContainerAction) : Prop :=
  ∀ container, world.opened playerId pos = some container →
    ∃ after, ((actions playerId pos).step world action).1.opened playerId pos = some after ∧
      KeepsItems container after action.srcSlot action.dstSlot

def ActsCarefully (playerId : UInt64) (pos : BlockPos) (world : WorldContainers)
    (action : ContainerAction) : Prop :=
  ∀ container, world.opened playerId pos = some container →
    container.Careful action.srcSlot action.dstSlot (action.amount container)

variable {playerId : UInt64} {pos : BlockPos} {world : WorldContainers}

theorem opened_action {container : InventoryContainer}
    (opens : world.opened playerId pos = some container) (action : ContainerAction) :
    ((actions playerId pos).step world action).1.opened playerId pos =
      some (container.act action.code action.srcSlot action.dstSlot action.count) := by
  obtain ⟨entry, found, rfl⟩ := Option.map_eq_some_iff.mp opens
  have owned := (Option.filter_eq_some_iff.mp found).2
  change (world.onContainerAction playerId pos action.code action.srcSlot action.dstSlot
    action.count).opened playerId pos = _
  rw [onContainerAction, found]
  simp only [opened, entryOf, AList.lookup_insert, Option.filter_some, owned, if_true, Option.map_some]
  rfl

theorem actions_keep_iff (playerId : UInt64) (pos : BlockPos) (world : WorldContainers)
    (inputs : List ContainerAction) :
    (actions playerId pos).Along (ActKeeps playerId pos) world inputs ↔
      (actions playerId pos).Along (ActsCarefully playerId pos) world inputs := by
  refine (actions playerId pos).along_congr (fun _ _ (_ : True) => trivial)
    (fun world action _ => forall₂_congr fun container opens => ?_) trivial inputs
  rw [opened_action opens, act_eq]
  simp only [Option.some.injEq, exists_eq_left']
  exact transferSome_keeps_iff (amount_le container action)

def openedFurnace : WorldContainers where
  openContainers := AList.singleton 0 ⟨0, 7, 0, ⟨0, 0, 0⟩, 0⟩
  entities := AList.singleton 0 ⟨1, 3, [⟨5, 4, 0⟩, .empty, .empty]⟩

theorem move_lengthens_furnace : ¬∀ (playerId : UInt64) (pos : BlockPos) (world : WorldContainers)
    (inputs : List ContainerAction),
      (actions playerId pos).Along (ActKeeps playerId pos) world inputs := by
  intro all
  obtain ⟨after, found, keeps⟩ := (all 7 ⟨0, 0, 0⟩ openedFurnace [⟨false, 0, 3, 0⟩]).1 _ rfl
  have counted := keeps.slotCount
  cases found.symm.trans (@opened_action _ _ openedFurnace _ rfl _)
  exact absurd counted (by decide)

end WorldContainers

end GtnhPlatform.World
