import GtnhPlatform.Crafting.ContainerCraft
import GtnhPlatform.Data.Segment
import GtnhPlatform.SimCore.MultiblockSystems

namespace GtnhPlatform.SimCore

open Crafting Inventory List

/-! The placement loops of the machine systems over a row of output slots. -/

def placeOne (slots : List PersistSlot) (output : OutputItem) : List PersistSlot :=
  let merged := mergeOutput output output.count slots
  placeOutput output merged.1 merged.2

def roomOn (item : ItemKey) (slot : PersistSlot) : Nat :=
  if slot.itemId = item.itemId ∧ slot.metadata = item.metadata then 64 - slot.count.toNat else 0

def roomOf (item : ItemKey) (slots : List PersistSlot) : Nat := (slots.map (roomOn item)).sum

def vacantSlots (slots : List PersistSlot) : Nat := slots.countP fun slot => slot.itemId == 0

structure Shelf where
  room : ItemKey → Nat
  vacant : Nat

namespace Shelf

def ofSlots (slots : List PersistSlot) : Shelf where
  room item := roomOf item slots
  vacant := vacantSlots slots

def withRoom (shelf : Shelf) (output : OutputItem) (room : Nat) : Shelf where
  room item :=
    if output.itemId = item.itemId ∧ output.metadata = item.metadata then room
    else shelf.room item
  vacant := shelf.vacant

def useVacant (shelf : Shelf) : Shelf := { shelf with vacant := shelf.vacant - 1 }

def put (shelf : Shelf) (output : OutputItem) : Option Shelf :=
  if real : output.itemId = 0 then some shelf
  else
    let room := shelf.room ⟨output.itemId, output.metadata, real⟩
    let count := output.count.toNat
    if count ≤ room then some (shelf.withRoom output (room - count))
    else if shelf.vacant = 0 then none
    else some (shelf.useVacant.withRoom output (64 - (count - room)))

def putAll (shelf : Shelf) : List OutputItem → Bool
  | [] => true
  | output :: rest => (shelf.put output).any fun next => next.putAll rest

end Shelf

section Merge

variable {output : OutputItem} {slot : PersistSlot} {slots : List PersistSlot} {remaining : UInt8}

@[simp] theorem roomOf_cons (item : ItemKey) (slot : PersistSlot) (rest : List PersistSlot) :
    roomOf item (slot :: rest) = roomOn item slot + roomOf item rest := by
  simp [roomOf]

theorem length_mergeOutput (remaining : UInt8) (slots : List PersistSlot) :
    (mergeOutput output remaining slots).2.length = slots.length := by
  induction slots generalizing remaining with
  | nil => rfl
  | cons slot rest ih =>
    rw [mergeOutput]
    split <;> simp only [length_cons, ih]

theorem length_placeOutput (remaining : UInt8) (slots : List PersistSlot) :
    (placeOutput output remaining slots).length = slots.length := by
  induction slots with
  | nil => rfl
  | cons slot rest ih =>
    rw [placeOutput]
    split
    · rfl
    · split <;> simp only [length_cons, ih]

theorem length_placeOne (slots : List PersistSlot) (output : OutputItem) :
    (placeOne slots output).length = slots.length := by
  rw [placeOne, length_placeOutput, length_mergeOutput]

theorem segment_depositRange (range : Nat × Nat) (outputs : List OutputItem)
    (slots : List PersistSlot) : segment range.1 range.2 (depositRange range outputs slots) =
      outputs.foldl placeOne (segment range.1 range.2 slots) :=
  segment_foldl_setSegment length_placeOne outputs slots

variable {item : ItemKey}

theorem mergeOutput_other
    (apart : ¬ (output.itemId = item.itemId ∧ output.metadata = item.metadata)) (remaining : UInt8)
    (slots : List PersistSlot) :
    totalOf item (mergeOutput output remaining slots).2 = totalOf item slots ∧
      roomOf item (mergeOutput output remaining slots).2 = roomOf item slots := by
  induction slots generalizing remaining with
  | nil => exact ⟨rfl, rfl⟩
  | cons slot rest ih =>
    rw [mergeOutput]
    split
    · next takes =>
      simp only [Bool.and_eq_true, decide_eq_true_eq, beq_iff_eq] at takes
      have elsewhere : ¬ (slot.itemId = item.itemId ∧ slot.metadata = item.metadata) := by
        rw [takes.1.1.2, takes.1.2]
        exact apart
      have same := ih (remaining - min remaining (64 - slot.count))
      simp only [totalOf_cons, roomOf_cons, same.1, same.2, amountOf, roomOn,
        if_neg elsewhere, and_self]
    · have same := ih remaining
      simp only [totalOf_cons, roomOf_cons, same.1, same.2, and_self]

theorem vacantSlots_mergeOutput (remaining : UInt8) (slots : List PersistSlot) :
    vacantSlots (mergeOutput output remaining slots).2 = vacantSlots slots := by
  unfold vacantSlots
  induction slots generalizing remaining with
  | nil => rfl
  | cons slot rest ih =>
    rw [mergeOutput]
    split
    · rw [countP_cons, countP_cons, ih]
    · rw [countP_cons, countP_cons, ih]

/-- What merging does to the output's own item. -/
structure Merges (item : ItemKey) (remaining : UInt8) (slots : List PersistSlot)
    (merged : UInt8 × List PersistSlot) : Prop where
  rest : merged.1.toNat = remaining.toNat - roomOf item slots
  room : roomOf item merged.2 = roomOf item slots - remaining.toNat
  total : totalOf item merged.2 + merged.1.toNat = totalOf item slots + remaining.toNat

theorem toNat_min (first second : UInt8) :
    (min first second).toNat = min first.toNat second.toNat := by
  show (if first ≤ second then first else second).toNat = _
  split
  · next less => rw [Nat.min_eq_left (UInt8.le_iff_toNat_le.mp less)]
  · next more =>
    rw [UInt8.le_iff_toNat_le] at more
    rw [Nat.min_eq_right (by omega)]

theorem topUp_spec (some : slot.count < 64) :
    let add := min remaining (64 - slot.count)
    add.toNat = min remaining.toNat (64 - slot.count.toNat) ∧
      (remaining - add).toNat = remaining.toNat - (64 - slot.count.toNat) ∧
      (slot.count + add).toNat = slot.count.toNat + min remaining.toNat (64 - slot.count.toNat) := by
  have small : slot.count.toNat < 64 := some
  have space : (64 - slot.count).toNat = 64 - slot.count.toNat :=
    UInt8.toNat_sub_of_le _ _ (UInt8.le_of_lt some)
  have add : (min remaining (64 - slot.count)).toNat =
      min remaining.toNat (64 - slot.count.toNat) := by
    rw [toNat_min, space]
  refine ⟨add, ?_, ?_⟩
  · have below : min remaining (64 - slot.count) ≤ remaining := by
      rw [UInt8.le_iff_toNat_le, add]
      exact Nat.min_le_left _ _
    rw [UInt8.toNat_sub_of_le _ _ below, add]
    omega
  · rw [UInt8.toNat_add, add, Nat.mod_eq_of_lt]
    omega

theorem mergeOutput_spec (same : output.itemId = item.itemId ∧ output.metadata = item.metadata)
    (remaining : UInt8) (slots : List PersistSlot) :
    Merges item remaining slots (mergeOutput output remaining slots) := by
  induction slots generalizing remaining with
  | nil => exact ⟨rfl, (Nat.zero_sub _).symm, rfl⟩
  | cons slot rest ih =>
    rw [mergeOutput]
    split
    · next takes =>
      simp only [Bool.and_eq_true, decide_eq_true_eq, beq_iff_eq] at takes
      obtain ⟨⟨⟨_, sameItem⟩, sameMeta⟩, small⟩ := takes
      obtain ⟨_, left, count⟩ := @topUp_spec slot remaining small
      have merges := ih (remaining - min remaining (64 - slot.count))
      have total := merges.total
      have here : slot.itemId = item.itemId ∧ slot.metadata = item.metadata :=
        ⟨sameItem.trans same.1, sameMeta.trans same.2⟩
      refine ⟨?_, ?_, ?_⟩
      · rw [merges.rest, left, roomOf_cons, roomOn, if_pos here]
        omega
      · rw [roomOf_cons, roomOf_cons, merges.room, roomOn, roomOn, if_pos here, if_pos here,
          count, left]
        omega
      · rw [totalOf_cons, totalOf_cons, amountOf, amountOf, if_pos here, if_pos here, count]
        simp only
        omega
    · next keeps =>
      have merges := ih remaining
      have total := merges.total
      have none : roomOn item slot = 0 ∨ remaining.toNat = 0 := by
        simp only [Bool.and_eq_true, decide_eq_true_eq, beq_iff_eq, not_and, same.1,
          same.2] at keeps
        by_cases more : 0 < remaining
        · refine .inl ?_
          rw [roomOn]
          split
          · next held =>
            have full : ¬ slot.count.toNat < 64 := fun small =>
              keeps ⟨⟨more, held.1⟩, held.2⟩ small
            omega
          · rfl
        · refine .inr ?_
          have zero : remaining.toNat ≤ 0 := Nat.not_lt.mp more
          omega
      refine ⟨?_, ?_, ?_⟩
      · rw [merges.rest, roomOf_cons]
        omega
      · rw [roomOf_cons, roomOf_cons, merges.room]
        omega
      · rw [totalOf_cons, totalOf_cons]
        simp only
        omega

end Merge

section Place

variable {output : OutputItem} {slots : List PersistSlot} {remaining : UInt8}

theorem placeOutput_nothing (slots : List PersistSlot) : placeOutput output 0 slots = slots := by
  cases slots <;> rfl

theorem placeOutput_full (full : vacantSlots slots = 0) :
    placeOutput output remaining slots = slots := by
  induction slots with
  | nil => rfl
  | cons slot rest ih =>
    simp only [vacantSlots, countP_cons, Nat.add_eq_zero_iff, ite_eq_right_iff,
      beq_iff_eq, one_ne_zero, imp_false] at full
    rw [placeOutput, if_neg full.2, ih full.1, ite_self]

theorem empty_holds_nothing {slot : PersistSlot} (empty : slot.itemId = 0) (item : ItemKey) :
    amountOf item slot = 0 ∧ roomOn item slot = 0 := by
  have other : ¬ (slot.itemId = item.itemId ∧ slot.metadata = item.metadata) :=
    fun same => item.real (same.1.symm.trans empty)
  rw [amountOf, roomOn, if_neg other, if_neg other]
  exact ⟨rfl, rfl⟩

theorem placeOutput_vacant (some : remaining ≠ 0) (vacant : vacantSlots slots ≠ 0) :
    (∀ item, totalOf item (placeOutput output remaining slots) = totalOf item slots +
      amountOf item ⟨output.itemId, remaining, output.metadata⟩) ∧
    (∀ item, roomOf item (placeOutput output remaining slots) = roomOf item slots +
      roomOn item ⟨output.itemId, remaining, output.metadata⟩) ∧
    vacantSlots (placeOutput output remaining slots) + 1 = vacantSlots slots +
      if output.itemId = 0 then 1 else 0 := by
  induction slots with
  | nil => exact absurd rfl vacant
  | cons slot rest ih =>
    rw [placeOutput, if_neg some]
    split
    · next empty =>
      have nothing := empty_holds_nothing empty
      refine ⟨fun item => ?_, fun item => ?_, ?_⟩
      · rw [totalOf_cons, totalOf_cons, (nothing item).1]
        omega
      · rw [roomOf_cons, roomOf_cons, (nothing item).2]
        omega
      · simp only [vacantSlots, countP_cons, empty, beq_iff_eq]
        simp
        omega
    · next held =>
      have later : vacantSlots rest ≠ 0 := by
        simpa [vacantSlots, countP_cons, held] using vacant
      obtain ⟨total, room, left⟩ := ih later
      refine ⟨fun item => ?_, fun item => ?_, ?_⟩
      · rw [totalOf_cons, totalOf_cons, total, Nat.add_assoc]
      · rw [roomOf_cons, roomOf_cons, room, Nat.add_assoc]
      have unchanged : ∀ others, vacantSlots (slot :: others) = vacantSlots others := by
        intro others
        simp [vacantSlots, held]
      rw [unchanged, unchanged, left]

end Place

section Output

variable {output : OutputItem} {slots : List PersistSlot}

def Fits (output : OutputItem) (slots : List PersistSlot) : Prop :=
  ((Shelf.ofSlots slots).put output).isSome = true

theorem Shelf.ext {first second : Shelf} (room : ∀ item, first.room item = second.room item)
    (vacant : first.vacant = second.vacant) : first = second := by
  cases first
  cases second
  obtain rfl := funext room
  obtain rfl := vacant
  rfl

variable {item : ItemKey}

theorem placeOne_real (same : output.itemId = item.itemId ∧ output.metadata = item.metadata)
    (slots : List PersistSlot) : if output.count.toNat ≤ roomOf item slots then
      totalOf item (placeOne slots output) = totalOf item slots + output.count.toNat ∧
        roomOf item (placeOne slots output) = roomOf item slots - output.count.toNat ∧
        vacantSlots (placeOne slots output) = vacantSlots slots else if vacantSlots slots = 0 then
      totalOf item (placeOne slots output) < totalOf item slots + output.count.toNat else
      totalOf item (placeOne slots output) = totalOf item slots + output.count.toNat ∧
        roomOf item (placeOne slots output) = 64 - (output.count.toNat - roomOf item slots) ∧
        vacantSlots (placeOne slots output) + 1 = vacantSlots slots := by
  have real : output.itemId ≠ 0 := same.1 ▸ item.real
  have merges := mergeOutput_spec same output.count slots
  have kept := @vacantSlots_mergeOutput output output.count slots
  unfold placeOne
  generalize mergeOutput output output.count slots = result at merges kept
  obtain ⟨remaining, row⟩ := result
  obtain ⟨rest, space, total⟩ := merges
  simp only at kept rest space total
  simp only
  by_cases fits : output.count.toNat ≤ roomOf item slots
  · have done : remaining = 0 := by
      rw [← UInt8.toNat_inj, rest, UInt8.toNat_zero]
      omega
    rw [done, placeOutput_nothing, if_pos fits]
    rw [done, UInt8.toNat_zero] at total
    exact ⟨total, space, kept⟩
  · have some : remaining ≠ 0 := by
      rw [ne_eq, ← UInt8.toNat_inj, rest, UInt8.toNat_zero]
      omega
    rw [if_neg fits]
    by_cases full : vacantSlots slots = 0
    · rw [placeOutput_full (kept.trans full), if_pos full]
      omega
    have vacant : vacantSlots row ≠ 0 := fun none => full (kept.symm.trans none)
    obtain ⟨newTotal, newRoom, newVacant⟩ := @placeOutput_vacant output row remaining some vacant
    rw [if_neg real] at newVacant
    have amount : amountOf item ⟨output.itemId, remaining, output.metadata⟩ =
        remaining.toNat := if_pos same
    have room : roomOn item ⟨output.itemId, remaining, output.metadata⟩ =
        64 - remaining.toNat := if_pos same
    rw [if_neg full, newTotal, newRoom, amount, room]
    omega

theorem placeOne_other (apart : ¬ (output.itemId = item.itemId ∧ output.metadata = item.metadata))
    (slots : List PersistSlot) : totalOf item (placeOne slots output) = totalOf item slots ∧
      roomOf item (placeOne slots output) = roomOf item slots := by
  have merged := mergeOutput_other apart output.count slots
  unfold placeOne
  generalize mergeOutput output output.count slots = result at merged
  obtain ⟨remaining, row⟩ := result
  by_cases done : remaining = 0
  · simp only
    rwa [done, placeOutput_nothing]
  by_cases full : vacantSlots row = 0
  · simp only
    rwa [placeOutput_full full]
  · obtain ⟨total, room, _⟩ := @placeOutput_vacant output row remaining done full
    rw [total, room, amountOf, roomOn, if_neg apart, if_neg apart]
    exact merged

theorem vacantSlots_placeOne_air (air : output.itemId = 0) (slots : List PersistSlot) :
    vacantSlots (placeOne slots output) = vacantSlots slots := by
  have kept := @vacantSlots_mergeOutput output output.count slots
  unfold placeOne
  generalize mergeOutput output output.count slots = result at kept
  obtain ⟨remaining, row⟩ := result
  by_cases done : remaining = 0
  · simp only
    rwa [done, placeOutput_nothing]
  by_cases full : vacantSlots row = 0
  · simp only
    rwa [placeOutput_full full]
  · obtain ⟨_, _, vacant⟩ := @placeOutput_vacant output row remaining done full
    rw [if_pos air] at vacant
    exact (Nat.succ.inj vacant).trans kept

theorem amount_of_same (same : output.itemId = item.itemId ∧ output.metadata = item.metadata) :
    output.amount item = output.count.toNat := if_pos same

theorem amount_of_apart
    (apart : ¬ (output.itemId = item.itemId ∧ output.metadata = item.metadata)) :
    output.amount item = 0 := if_neg apart

theorem eq_key (real : output.itemId ≠ 0)
    (same : output.itemId = item.itemId ∧ output.metadata = item.metadata) :
    item = ⟨output.itemId, output.metadata, real⟩ := by
  obtain ⟨itemId, metadata, _⟩ := item
  obtain ⟨rfl, rfl⟩ := same
  rfl

theorem ofSlots_placeOne (real : output.itemId ≠ 0)
    (own : roomOf ⟨output.itemId, output.metadata, real⟩ (placeOne slots output) = room)
    (left : vacantSlots (placeOne slots output) = vacant) :
    Shelf.ofSlots (placeOne slots output) =
      (Shelf.mk (fun item => roomOf item slots) vacant).withRoom output room := by
  refine Shelf.ext (fun item => ?_) left
  simp only [Shelf.ofSlots, Shelf.withRoom]
  split
  · next same => rw [eq_key real same, own]
  · next apart => exact (placeOne_other apart slots).2

theorem totalOf_placeOne (real : output.itemId ≠ 0)
    (own : totalOf ⟨output.itemId, output.metadata, real⟩ (placeOne slots output) =
      totalOf ⟨output.itemId, output.metadata, real⟩ slots + output.count.toNat) (item : ItemKey) :
    totalOf item (placeOne slots output) = totalOf item slots + output.amount item := by
  by_cases same : output.itemId = item.itemId ∧ output.metadata = item.metadata
  · rw [amount_of_same same, eq_key real same, own]
  · rw [amount_of_apart same]
    exact (placeOne_other same slots).1

theorem put_air (air : output.itemId = 0) (shelf : Shelf) : shelf.put output = some shelf :=
  dif_pos air

theorem put_ofSlots (real : output.itemId ≠ 0) (slots : List PersistSlot) :
    (Shelf.ofSlots slots).put output =
      let item : ItemKey := ⟨output.itemId, output.metadata, real⟩
      if output.count.toNat ≤ roomOf item slots then
        some ((Shelf.ofSlots slots).withRoom output (roomOf item slots - output.count.toNat))
      else if vacantSlots slots = 0 then none
      else
        some ((Shelf.ofSlots slots).useVacant.withRoom output
          (64 - (output.count.toNat - roomOf item slots))) := by
  rw [Shelf.put, dif_neg real]
  rfl

theorem placeOne_of_put (put : (Shelf.ofSlots slots).put output = some shelf) :
    Shelf.ofSlots (placeOne slots output) = shelf ∧
      ∀ item, totalOf item (placeOne slots output) = totalOf item slots + output.amount item := by
  by_cases air : output.itemId = 0
  · have apart : ∀ item : ItemKey,
        ¬ (output.itemId = item.itemId ∧ output.metadata = item.metadata) :=
      fun item same => item.real (same.1.symm.trans air)
    rw [put_air air] at put
    cases put
    refine ⟨Shelf.ext (fun item => (placeOne_other (apart item) slots).2)
      (vacantSlots_placeOne_air air slots), fun item => ?_⟩
    rw [amount_of_apart (apart item)]
    exact (placeOne_other (apart item) slots).1
  · have here := @placeOne_real output ⟨output.itemId, output.metadata, air⟩ ⟨rfl, rfl⟩ slots
    rw [put_ofSlots air] at put
    by_cases fits : output.count.toNat ≤ roomOf ⟨output.itemId, output.metadata, air⟩ slots
    · rw [if_pos fits] at put here
      cases put
      exact ⟨ofSlots_placeOne air here.2.1 here.2.2, totalOf_placeOne air here.1⟩
    rw [if_neg fits] at put here
    by_cases full : vacantSlots slots = 0
    · rw [if_pos full] at put
      exact absurd put (by simp)
    rw [if_neg full] at put here
    cases put
    exact ⟨ofSlots_placeOne air here.2.1 (Nat.eq_sub_of_add_eq here.2.2),
      totalOf_placeOne air here.1⟩

theorem placeOne_short (misfit : ¬ Fits output slots) :
    ∃ item, totalOf item (placeOne slots output) < totalOf item slots + output.amount item := by
  unfold Fits at misfit
  by_cases air : output.itemId = 0
  · rw [put_air air] at misfit
    exact absurd rfl misfit
  refine ⟨⟨output.itemId, output.metadata, air⟩, ?_⟩
  have here := @placeOne_real output ⟨output.itemId, output.metadata, air⟩ ⟨rfl, rfl⟩ slots
  rw [put_ofSlots air] at misfit
  rw [amount_of_same ⟨rfl, rfl⟩]
  by_cases fits : output.count.toNat ≤ roomOf ⟨output.itemId, output.metadata, air⟩ slots
  · rw [if_pos fits] at misfit
    exact absurd rfl misfit
  rw [if_neg fits] at misfit here
  by_cases full : vacantSlots slots = 0
  · rwa [if_pos full] at here
  · rw [if_neg full] at misfit
    exact absurd rfl misfit

theorem placeOne_le (item : ItemKey) (output : OutputItem) (slots : List PersistSlot) :
    totalOf item (placeOne slots output) ≤ totalOf item slots + output.amount item := by
  by_cases same : output.itemId = item.itemId ∧ output.metadata = item.metadata
  · have here := placeOne_real same slots
    rw [amount_of_same same]
    split at here
    · exact Nat.le_of_eq here.1
    · split at here
      · exact Nat.le_of_lt here
      · exact Nat.le_of_eq here.1
  · exact Nat.le_of_eq ((placeOne_other same slots).1.trans (by rw [amount_of_apart same]; rfl))

theorem adds_placeOne : Adds placeOne Fits where
  le := placeOne_le
  full := by
    intro output slots fits
    obtain ⟨shelf, put⟩ := Option.isSome_iff_exists.mp fits
    exact (placeOne_of_put put).2
  short := placeOne_short

end Output

theorem fitAll_placeOne (outputs : List OutputItem) (slots : List PersistSlot) :
    FitAll placeOne Fits outputs slots ↔ (Shelf.ofSlots slots).putAll outputs = true := by
  induction outputs generalizing slots with
  | nil => simp [FitAll, Shelf.putAll]
  | cons output rest ih =>
    rw [FitAll, Shelf.putAll, Fits]
    cases put : (Shelf.ofSlots slots).put output with
    | none => simp
    | some shelf =>
      rw [ih, (placeOne_of_put put).1]
      simp

theorem depositRange_total_iff (range : Nat × Nat) (outputs : List OutputItem)
    (slots : List PersistSlot) :
    (∀ item, totalOf item (segment range.1 range.2 (depositRange range outputs slots)) =
      totalOf item (segment range.1 range.2 slots) + produced item outputs) ↔
        (Shelf.ofSlots (segment range.1 range.2 slots)).putAll outputs = true := by
  rw [segment_depositRange, ← fitAll_placeOne]
  exact adds_placeOne.total_iff

end GtnhPlatform.SimCore
