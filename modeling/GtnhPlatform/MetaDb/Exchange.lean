import GtnhPlatform.MetaDb.Inventory
import Mathlib.Algebra.Order.BigOperators.Group.List
import Mathlib.Algebra.Order.Group.Int
import Mathlib.Data.List.Sort

namespace GtnhPlatform.MetaDb

open List

def costRows (rows : SlotRows) (costItemID : Int) : List (Int × Int) :=
  (rows.keys.insertionSort (· ≤ ·)).filterMap fun slot =>
    match rows.lookup slot with
    | none => none
    | some inv =>
      if inv.blockID = costItemID ∧ 0 < inv.count then some (slot, inv.count) else none

def setCount (rows : SlotRows) (slot newCount : Int) : SlotRows :=
  match rows.lookup slot with
  | none => rows
  | some inv => AList.insert slot { inv with count := newCount } rows

def leaveInSlot (rows : SlotRows) (slot newCount : Int) : SlotRows :=
  if newCount = 0 then rows.erase slot else setCount rows slot newCount

def deductCost : List (Int × Int) → Int → SlotRows → SlotRows
  | [], _, rows => rows
  | (slot, count) :: rest, remaining, rows =>
    if remaining ≤ 0 then rows
    else
      let take := if remaining < count then remaining else count
      deductCost rest (remaining - take) (leaveInSlot rows slot (count - take))

def exchangeItems (order : List Int) (rows : SlotRows)
    (costItemID costCount rewardItemID rewardCount : Nat) : Option SlotRows :=
  if costItemID = 0 ∨ costCount = 0 then none
  else
    let held := costRows rows costItemID
    if (held.map (·.2)).sum < costCount then none
    else grantItemToInventory order (deductCost held costCount rows) rewardItemID rewardCount

def MayFill (item : Int) (rows : SlotRows) (slot : Int) : Prop :=
  freeSlot rows slot = true ∨ roomAt item rows slot ≠ 0

def MayTake (item : Int) (rows : SlotRows) (slot : Int) : Prop :=
  ∃ inv, rows.lookup slot = some inv ∧ inv.blockID = item ∧ 0 < inv.count

theorem mayFill_congr {item slot : Int} {rows other : SlotRows}
    (same : other.lookup slot = rows.lookup slot) :
    MayFill item other slot ↔ MayFill item rows slot := by
  rw [MayFill, freeSlot, roomAt, same, ← freeSlot, ← roomAt, MayFill]

variable {target slot : Int}

theorem mergeStacks_frame (visit : List Int) (rows : SlotRows) (remaining : Nat)
    (full : roomAt target rows slot = 0) :
    (mergeStacks target visit rows remaining).1.lookup slot = rows.lookup slot := by
  induction visit generalizing rows remaining with
  | nil => rfl
  | cons visited rest ih =>
    unfold mergeStacks
    by_cases none : remaining = 0
    · rw [if_pos none]
    rw [if_neg none]
    cases found : rows.lookup visited with
    | none => exact ih rows remaining full
    | some inv =>
      dsimp only
      by_cases partly : inv.blockID = target ∧ 0 < inv.count ∧ inv.count < maxStackSize
      · rw [if_pos partly]
        have distinct : slot ≠ visited := by
          rintro rfl
          rw [roomAt, found, Option.map_some, Option.getD_some, stackRoom, if_pos partly]
            at full
          omega
        rw [ih, Table.lookup_insert_of_ne _ _ distinct]
        rw [roomAt, Table.lookup_insert_of_ne _ _ distinct, ← roomAt]
        exact full
      · rw [if_neg partly]
        exact ih rows remaining full

theorem fillFreeSlots_frame (slots : List Int) (rows : SlotRows) (remaining : Nat)
    (taken : freeSlot rows slot = false) :
    (fillFreeSlots target slots rows remaining).1.lookup slot = rows.lookup slot := by
  induction slots generalizing rows remaining with
  | nil => rfl
  | cons visited rest ih =>
    unfold fillFreeSlots
    by_cases none : remaining = 0
    · rw [if_pos none]
    rw [if_neg none]
    by_cases free : freeSlot rows visited = true
    · rw [if_pos free]
      have distinct : slot ≠ visited := by
        rintro rfl
        rw [free] at taken
        cases taken
      rw [ih, Table.lookup_insert_of_ne _ _ distinct]
      rw [freeSlot, Table.lookup_insert_of_ne _ _ distinct, ← freeSlot]
      exact taken
    · rw [if_neg free]
      exact ih rows remaining taken

variable {rows result : SlotRows} {order : List Int}

theorem grantItemToInventory_frame {item count : Nat} {slot : Int}
    (granted : grantItemToInventory order rows item count = some result)
    (closed : ¬ MayFill item rows slot) : result.lookup slot = rows.lookup slot := by
  obtain ⟨taken, full⟩ := not_or.mp closed
  rw [grantItemToInventory] at granted
  by_cases nothing : item = 0 ∨ count = 0
  · rw [if_pos nothing] at granted
    rw [Option.some.inj granted]
  rw [if_neg nothing] at granted
  have merged : (mergeStacks item (visitOrder order rows.keys) rows count).1.lookup slot = _ :=
    mergeStacks_frame _ rows count (not_not.mp full)
  generalize mergeStacks item (visitOrder order rows.keys) rows count = after at granted merged
  have stillTaken : freeSlot after.1 slot = false := by
    rw [freeSlot, merged, ← freeSlot]
    exact Bool.eq_false_iff.mpr taken
  have filled : (fillFreeSlots item slotNumbers after.1 after.2).1.lookup slot = _ :=
    fillFreeSlots_frame slotNumbers after.1 after.2 stillTaken
  by_cases left : 0 < (fillFreeSlots item slotNumbers after.1 after.2).2
  · rw [if_pos left] at granted
    cases granted
  · rw [if_neg left] at granted
    rw [← Option.some.inj granted, filled, merged]

section Deduction

variable {cost : Int} {rows : SlotRows}

theorem leaveInSlot_lookup_of_ne {slot other : Int} (newCount : Int) (distinct : other ≠ slot) :
    (leaveInSlot rows slot newCount).lookup other = rows.lookup other := by
  unfold leaveInSlot
  split
  · exact AList.lookup_erase_ne distinct
  unfold setCount
  split
  · rfl
  · exact Table.lookup_insert_of_ne _ _ distinct

theorem leaveInSlot_total (weight : InvSlot → Nat) {slot : Int} {inv : InvSlot} (newCount : Int)
    (found : rows.lookup slot = some inv)
    (used : newCount = 0 → weight { inv with count := newCount } = 0) :
    Table.total weight (leaveInSlot rows slot newCount) + weight inv =
      Table.total weight rows + weight { inv with count := newCount } := by
  unfold leaveInSlot
  split
  · next empty =>
    have erased := Table.total_erase weight rows slot
    rw [found, Option.map_some, Option.getD_some] at erased
    rw [used empty]
    omega
  · have inserted := Table.total_insert weight rows slot { inv with count := newCount }
    rw [found, Option.map_some, Option.getD_some] at inserted
    rw [setCount, found]
    exact inserted

structure Holds (cost : Int) (rows : SlotRows) (held : List (Int × Int)) : Prop where
  distinct : (held.map (·.1)).Nodup
  rows : ∀ slot count, (slot, count) ∈ held →
    ∃ inv, rows.lookup slot = some inv ∧ inv.blockID = cost ∧ inv.count = count ∧ 0 < count

theorem costRows_holds (rows : SlotRows) : Holds cost rows (costRows rows cost) := by
  have listed : ∀ slot count, (slot, count) ∈ costRows rows cost →
      ∃ inv, rows.lookup slot = some inv ∧ inv.blockID = cost ∧ inv.count = count ∧ 0 < count := by
    intro slot count mem
    obtain ⟨visited, _, chosen⟩ := mem_filterMap.mp mem
    cases found : rows.lookup visited with
    | none =>
      rw [found] at chosen
      cases chosen
    | some inv =>
      rw [found] at chosen
      dsimp only at chosen
      by_cases held : inv.blockID = cost ∧ 0 < inv.count
      · rw [if_pos held] at chosen
        cases chosen
        exact ⟨inv, found, held.1, rfl, held.2⟩
      · rw [if_neg held] at chosen
        cases chosen
  refine ⟨?_, listed⟩
  have sorted : (rows.keys.insertionSort (· ≤ ·)).Nodup :=
    (perm_insertionSort _ _).nodup_iff.mpr rows.keys_nodup
  refine List.Nodup.sublist ?_ sorted
  unfold costRows
  induction rows.keys.insertionSort (· ≤ ·) with
  | nil => exact List.Sublist.slnil
  | cons slot rest ih =>
    rw [filterMap_cons]
    cases chosen : (match rows.lookup slot with
      | none => none
      | some inv =>
        if inv.blockID = cost ∧ 0 < inv.count then some (slot, inv.count) else none) with
    | none => exact ih.cons slot
    | some entry =>
      have same : entry.1 = slot := by
        cases found : rows.lookup slot with
        | none =>
          rw [found] at chosen
          cases chosen
        | some inv =>
          rw [found] at chosen
          dsimp only at chosen
          split at chosen
          · rw [← Option.some.inj chosen]
          · cases chosen
      rw [map_cons, same]
      exact ih.cons_cons slot

structure Deducts (cost : Int) (held : List (Int × Int)) (remaining : Int)
    (rows result : SlotRows) : Prop where
  amount : (amountOf cost result : Int) + min remaining (held.map (·.2)).sum = amountOf cost rows
  otherAmount : ∀ other ≠ cost, amountOf other result = amountOf other rows
  outside : ∀ slot ∉ held.map (·.1), result.lookup slot = rows.lookup slot

theorem Holds.tail {slot count : Int} (holds : Holds cost rows ((slot, count) :: rest))
    (newCount : Int) : Holds cost (leaveInSlot rows slot newCount) rest := by
  obtain ⟨distinct, listed⟩ := holds
  rw [map_cons, nodup_cons] at distinct
  refine ⟨distinct.2, ?_⟩
  intro other held mem
  have apart : other ≠ slot := by
    rintro rfl
    exact distinct.1 (mem_map.mpr ⟨_, mem, rfl⟩)
  rw [leaveInSlot_lookup_of_ne newCount apart]
  exact listed other held (mem_cons_of_mem _ mem)

variable {held : List (Int × Int)}

theorem Holds.sum_nonneg (holds : Holds cost rows held) : 0 ≤ (held.map (·.2)).sum := by
  apply List.sum_nonneg
  intro count mem
  obtain ⟨entry, listed, rfl⟩ := List.mem_map.mp mem
  obtain ⟨_, _, _, _, positive⟩ := holds.rows entry.1 entry.2 listed
  exact positive.le

theorem deductCost_spec (owing : 0 ≤ remaining) (holds : Holds cost rows held) :
    Deducts cost held remaining rows (deductCost held remaining rows) := by
  induction held generalizing remaining rows with
  | nil =>
    refine ⟨?_, fun _ _ => rfl, fun _ _ => rfl⟩
    rw [map_nil, sum_nil, min_eq_right owing, add_zero]
    rfl
  | cons entry rest ih =>
    obtain ⟨slot, count⟩ := entry
    obtain ⟨inv, found, same, rfl, positive⟩ := holds.rows slot count mem_cons_self
    have sum := (holds.tail 0).sum_nonneg
    rw [deductCost]
    by_cases paid : remaining ≤ 0
    · rw [if_pos paid]
      refine ⟨?_, fun _ _ => rfl, fun _ _ => rfl⟩
      rw [map_cons, sum_cons]
      omega
    · rw [if_neg paid]
      generalize size : (if remaining < inv.count then remaining else inv.count) = take
      have owed : 0 ≤ remaining - take := by omega
      have later := ih owed (holds.tail (inv.count - take))
      have amount := leaveInSlot_total (amountIn cost) (inv.count - take) found
        (fun empty => by simp [amountIn, empty])
      refine ⟨?_, ?_, ?_⟩
      · have left := later.amount
        simp only [amountIn, same, if_true] at amount
        rw [map_cons, sum_cons]
        simp only [amountOf] at left ⊢
        omega
      · intro other distinct
        have apart : inv.blockID ≠ other := by
          rw [same]
          exact distinct.symm
        have kept := leaveInSlot_total (amountIn other) (inv.count - take) found
          (fun empty => by simp [amountIn, empty])
        simp only [amountIn, if_neg apart, Nat.add_zero] at kept
        rw [later.otherAmount other distinct]
        exact kept
      · intro other absent
        rw [map_cons, mem_cons, not_or] at absent
        rw [later.outside other absent.2, leaveInSlot_lookup_of_ne _ absent.1]

end Deduction

structure RowFits (slot : Int) (inv : InvSlot) : Prop where
  slot : 0 ≤ slot ∧ slot < inventorySlotCount
  blockID : 0 ≤ inv.blockID ∧ inv.blockID < 65536
  count : 0 ≤ inv.count ∧ inv.count < 256

def RowsFit (rows : SlotRows) : Prop := ∀ slot inv, rows.lookup slot = some inv → RowFits slot inv

variable {inv : InvSlot}

variable {rows : SlotRows}

theorem RowsFit.insert (fit : RowsFit rows) {slot : Int}
    (new : RowFits slot inv) : RowsFit (AList.insert slot inv rows) := by
  intro other found stored
  rw [Table.lookup_insert_eq] at stored
  split at stored
  · next same =>
    cases stored
    rwa [same]
  · exact fit other found stored

theorem RowsFit.leaveInSlot (fit : RowsFit rows) {slot newCount : Int}
    (found : rows.lookup slot = some inv) (less : 0 ≤ newCount ∧ newCount ≤ inv.count) :
    RowsFit (leaveInSlot rows slot newCount) := by
  have old := fit slot inv found
  unfold MetaDb.leaveInSlot
  split
  · intro other row stored
    by_cases same : other = slot
    · rw [same, AList.lookup_erase] at stored
      cases stored
    · rw [AList.lookup_erase_ne same] at stored
      exact fit other row stored
  · rw [setCount, found]
    exact fit.insert ⟨old.slot, old.blockID, less.1, less.2.trans_lt old.count.2⟩

theorem RowsFit.deductCost (fit : RowsFit rows) (holds : Holds cost rows held) :
    RowsFit (deductCost held remaining rows) := by
  induction held generalizing remaining rows with
  | nil => exact fit
  | cons entry rest ih =>
    obtain ⟨slot, count⟩ := entry
    obtain ⟨inv, found, _, rfl, positive⟩ := holds.rows slot count mem_cons_self
    rw [MetaDb.deductCost]
    by_cases paid : remaining ≤ 0
    · rw [if_pos paid]
      exact fit
    · rw [if_neg paid]
      refine ih (fit.leaveInSlot found ?_) (holds.tail _)
      split <;> omega

theorem RowsFit.mergeStacks {target : Int} (fit : RowsFit rows) (visit : List Int)
    (remaining : Nat) : RowsFit (mergeStacks target visit rows remaining).1 := by
  induction visit generalizing rows remaining with
  | nil => exact fit
  | cons slot rest ih =>
    unfold MetaDb.mergeStacks
    by_cases none : remaining = 0
    · rw [if_pos none]
      exact fit
    rw [if_neg none]
    cases found : rows.lookup slot with
    | none => exact ih fit remaining
    | some inv =>
      dsimp only
      by_cases partly : inv.blockID = target ∧ 0 < inv.count ∧ inv.count < maxStackSize
      · rw [if_pos partly]
        have old := fit slot inv found
        generalize size : min (maxStackSize - inv.count).toNat remaining = add
        have fits : add ≤ (maxStackSize - inv.count).toNat := size ▸ Nat.min_le_left _ _
        have topped : RowFits slot { inv with count := inv.count + add } := by
          refine ⟨old.slot, old.blockID, ?_⟩
          simp only [maxStackSize] at fits partly ⊢
          omega
        exact ih (fit.insert topped) _
      · rw [if_neg partly]
        exact ih fit remaining

theorem RowsFit.fillFreeSlots {target : Int} (named : 0 ≤ target ∧ target < 65536)
    {slots : List Int} (numbers : ∀ slot ∈ slots, 0 ≤ slot ∧ slot < inventorySlotCount)
    {rows : SlotRows} (fit : RowsFit rows) (remaining : Nat) :
    RowsFit (fillFreeSlots target slots rows remaining).1 := by
  induction slots generalizing rows remaining with
  | nil => exact fit
  | cons slot rest ih =>
    obtain ⟨here, later⟩ := forall_mem_cons.mp numbers
    unfold MetaDb.fillFreeSlots
    by_cases none : remaining = 0
    · rw [if_pos none]
      exact fit
    rw [if_neg none]
    by_cases free : freeSlot rows slot = true
    · rw [if_pos free]
      refine ih later (fit.insert ⟨here, named, ?_⟩) _
      have small : min remaining maxStackSize.toNat ≤ 64 := Nat.min_le_right _ _
      dsimp only
      omega
    · rw [if_neg free]
      exact ih later fit remaining

theorem RowsFit.grantItemToInventory {item count : Nat} (fit : RowsFit rows) (named : item < 65536)
    (granted : grantItemToInventory order rows item count = some result) : RowsFit result := by
  rw [MetaDb.grantItemToInventory] at granted
  split at granted
  · cases granted
    exact fit
  dsimp only at granted
  split at granted
  · cases granted
  cases granted
  refine RowsFit.fillFreeSlots ⟨Int.natCast_nonneg _, by omega⟩ ?_ (fit.mergeStacks _ _) _
  intro slot mem
  obtain ⟨number, listed, rfl⟩ := mem_map.mp mem
  have small := mem_range.mp listed
  omega

structure Writes (gain : Int → Int) (touches : Int → Prop) (rows result : SlotRows) : Prop where
  amount : ∀ item ≠ 0, (amountOf item result : Int) = amountOf item rows + gain item
  frame : ∀ slot, ¬ touches slot → result.lookup slot = rows.lookup slot
  fits : RowsFit rows → RowsFit result

def grantGain (itemID count : Nat) (item : Int) : Int :=
  if item = itemID then count else 0

variable {itemID count : Nat}

theorem grantItemToInventory_room (named : itemID ≠ 0) (counted : count ≠ 0)
    (granted : grantItemToInventory order rows itemID count = some result) :
    stacksNeeded (roomFor itemID rows) count ≤ freeSlots rows slotNumbers ∧
      Granted itemID count rows result := by
  obtain ⟨roomy, full⟩ := grantItemToInventory_spec order rows named counted
  have fits : stacksNeeded (roomFor itemID rows) count ≤ freeSlots rows slotNumbers := by
    by_contra tight
    rw [full tight] at granted
    cases granted
  obtain ⟨_, made, grants⟩ := roomy fits
  cases made.symm.trans granted
  exact ⟨fits, grants⟩

theorem grantItemToInventory_writes (named : itemID < 65536)
    (granted : grantItemToInventory order rows itemID count = some result) :
    Writes (grantGain itemID count) (MayFill itemID rows) rows result := by
  refine ⟨?_, fun slot => grantItemToInventory_frame granted,
    fun fit => fit.grantItemToInventory named granted⟩
  intro item real
  unfold grantGain
  by_cases nothing : itemID = 0 ∨ count = 0
  · rw [grantItemToInventory, if_pos nothing] at granted
    cases granted
    split <;> omega
  obtain ⟨nonzero, counted⟩ := not_or.mp nothing
  obtain ⟨_, grants⟩ := grantItemToInventory_room nonzero counted granted
  split
  · next same =>
    rw [same, grants.amount]
    omega
  · next distinct =>
    rw [grants.otherAmount item distinct real]
    omega

def exchangeGain (costItemID costCount rewardItemID rewardCount : Nat) (item : Int) : Int :=
  grantGain rewardItemID rewardCount item - grantGain costItemID costCount item

theorem exchangeItems_writes (named : rewardItemID < 65536)
    (exchanged : exchangeItems order rows costItemID costCount rewardItemID rewardCount =
      some result) :
    Writes (exchangeGain costItemID costCount rewardItemID rewardCount)
      (fun slot => MayTake costItemID rows slot ∨ MayFill rewardItemID rows slot) rows result := by
  rw [exchangeItems] at exchanged
  split at exchanged
  · cases exchanged
  dsimp only at exchanged
  split at exchanged
  · cases exchanged
  rename_i enough
  have holds : Holds costItemID rows (costRows rows costItemID) := costRows_holds rows
  have deducts := deductCost_spec (Int.natCast_nonneg costCount) holds
  have grants := grantItemToInventory_writes named exchanged
  refine ⟨?_, ?_, fun fit => grants.fits (fit.deductCost holds)⟩
  · intro item real
    have paid := deducts.amount
    rw [grants.amount item real, exchangeGain, grantGain, grantGain]
    by_cases same : item = costItemID
    · rw [if_pos same, same]
      omega
    · rw [if_neg same, deducts.otherAmount item same]
      omega
  · intro slot untouched
    obtain ⟨notTaken, notFilled⟩ := not_or.mp untouched
    have outside : slot ∉ (costRows rows costItemID).map (·.1) := by
      intro mem
      obtain ⟨entry, listed, rfl⟩ := mem_map.mp mem
      obtain ⟨inv, found, held, counted, positive⟩ := holds.rows entry.1 entry.2 listed
      exact notTaken ⟨inv, found, held, counted ▸ positive⟩
    have same := deducts.outside slot outside
    rw [grants.frame slot ((mayFill_congr same).not.mpr notFilled), same]

end GtnhPlatform.MetaDb
