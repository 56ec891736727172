import Mathlib.Data.Fin.Basic

namespace GtnhPlatform.Circular

/-! The slots of a circular table. -/

variable {n : Nat}

def next (slot : Fin n) : Fin n :=
  if inside : slot.val + 1 < n then ⟨slot.val + 1, inside⟩ else ⟨0, slot.pos⟩

def ahead (start slot : Fin n) : Nat :=
  if start.val ≤ slot.val then slot.val - start.val else n - start.val + slot.val

def Within (start stop slot : Fin n) : Prop := ahead start slot ≤ ahead start stop

variable {start stop slot other : Fin n}

theorem ahead_cases (start slot : Fin n) :
    start.val ≤ slot.val ∧ ahead start slot + start.val = slot.val ∨
      slot.val < start.val ∧ ahead start slot + start.val = n + slot.val := by
  unfold ahead
  split <;> omega

theorem ahead_lt (start slot : Fin n) : ahead start slot < n := by
  unfold ahead
  split <;> omega

@[simp] theorem ahead_self (start : Fin n) : ahead start start = 0 := by
  rw [ahead, if_pos (Nat.le_refl _), Nat.sub_self]

theorem ahead_inj (same : ahead start slot = ahead start other) : slot = other := by
  apply Fin.ext
  unfold ahead at same
  split at same <;> split at same <;> omega

theorem next_val (slot : Fin n) :
    (next slot).val = if slot.val + 1 < n then slot.val + 1 else 0 := by
  unfold next
  split <;> rfl

theorem ahead_next (start : Fin n) (inside : ahead start slot + 1 < n) :
    ahead start (next slot) = ahead start slot + 1 := by
  unfold ahead at inside ⊢
  rw [next_val]
  split <;> split at inside <;> split <;> omega

theorem next_ahead (apart : start ≠ slot) : ahead (next start) slot + 1 = ahead start slot := by
  unfold ahead
  rw [next_val]
  split <;> split <;> split <;> omega

theorem within_self (start stop : Fin n) : Within start stop start := by
  rw [Within, ahead_self]
  exact Nat.zero_le _

theorem within_stop (start stop : Fin n) : Within start stop stop := Nat.le_refl _

theorem within_iff : Within start stop slot ↔
    if start.val ≤ stop.val then start.val ≤ slot.val ∧ slot.val ≤ stop.val
    else start.val ≤ slot.val ∨ slot.val ≤ stop.val := by
  unfold Within ahead
  split <;> split <;> omega

theorem within_iff_ahead (origin : Fin n) : Within start stop slot ↔
    if ahead origin start ≤ ahead origin stop then
      ahead origin start ≤ ahead origin slot ∧ ahead origin slot ≤ ahead origin stop
    else ahead origin start ≤ ahead origin slot ∨ ahead origin slot ≤ ahead origin stop := by
  have first := ahead_cases start slot
  have second := ahead_cases start stop
  have third := ahead_cases origin start
  have fourth := ahead_cases origin stop
  have fifth := ahead_cases origin slot
  unfold Within
  split <;> omega

theorem within_next (apart : start ≠ stop) (way : Within (next start) stop slot) :
    Within start stop slot := by
  by_cases here : start = slot
  · rw [← here]
    exact within_self start stop
  have first := next_ahead apart
  have second := next_ahead here
  unfold Within at way ⊢
  omega

theorem within_of_next (way : Within start stop slot) (here : start ≠ slot) :
    start ≠ stop ∧ Within (next start) stop slot := by
  have second := next_ahead here
  have apart : start ≠ stop := by
    rintro rfl
    rw [Within, ahead_self] at way
    omega
  have first := next_ahead apart
  unfold Within at way ⊢
  exact ⟨apart, by omega⟩

variable {middle : Fin n}

theorem within_trans (way : Within start stop middle) (part : Within start middle slot) :
    Within start stop slot := Nat.le_trans part way

theorem not_within_of_shorter (way : Within start stop middle) (apart : middle ≠ stop) :
    ¬ Within start middle stop := fun back =>
  apart (ahead_inj (Nat.le_antisymm way back))

/-- At most so many slots are looked at, one after another. -/
def probe (stops : Fin n → Bool) : Nat → Fin n → Option (Fin n)
  | 0, _ => none
  | fuel + 1, slot => if stops slot then some slot else probe stops fuel (next slot)

variable {stops : Fin n → Bool} {fuel : Nat}

theorem probe_some (found : probe stops fuel start = some stop) :
    stops stop = true ∧ ∀ slot, Within start stop slot → slot ≠ stop → stops slot = false := by
  induction fuel generalizing start with
  | zero => exact absurd found nofun
  | succ fuel ih =>
    rw [probe] at found
    split at found
    · next here =>
      obtain rfl := Option.some.inj found
      refine ⟨here, fun slot way apart => ?_⟩
      rw [Within, ahead_self, Nat.le_zero] at way
      exact absurd (ahead_inj (way.trans (ahead_self start).symm)) apart
    · next passed =>
      obtain ⟨holds, before⟩ := ih found
      refine ⟨holds, fun slot way apart => ?_⟩
      by_cases here : start = slot
      · rw [← here]
        exact Bool.eq_false_iff.mpr passed
      · exact before slot (within_of_next way here).2 apart

theorem probe_eq (near : ahead start stop < fuel) (holds : stops stop = true)
    (before : ∀ slot, Within start stop slot → slot ≠ stop → stops slot = false) :
    probe stops fuel start = some stop := by
  induction fuel generalizing start with
  | zero => exact absurd near (Nat.not_lt_zero _)
  | succ fuel ih =>
    rw [probe]
    by_cases here : start = stop
    · rw [here, if_pos holds]
    · have closer := next_ahead here
      rw [before start (within_self start stop) here, if_neg Bool.false_ne_true]
      exact ih (by omega) fun slot way => before slot (within_next here way)

theorem probe_none (missed : probe stops fuel start = none) (near : ahead start slot < fuel) :
    stops slot = false := by
  induction fuel generalizing start with
  | zero => exact absurd near (Nat.not_lt_zero _)
  | succ fuel ih =>
    rw [probe] at missed
    split at missed
    · exact absurd missed nofun
    rename_i passed
    by_cases here : start = slot
    · rw [← here]
      exact Bool.eq_false_iff.mpr passed
    · have closer := next_ahead here
      exact ih missed (by omega)

theorem probe_all_none (missed : probe stops n start = none) (slot : Fin n) :
    stops slot = false := probe_none missed (ahead_lt start slot)

end GtnhPlatform.Circular
