import Mathlib.Algebra.BigOperators.Group.List.Basic
import Mathlib.Algebra.Order.BigOperators.Group.List
import Mathlib.Tactic.Ring

namespace GtnhPlatform

open List

/-! Splitting an amount over places of limited size, the last getting what is left. -/

namespace Shares

def fixed (amount total : Int) : Int → List Int → List Int
  | _, [] => []
  | remaining, size :: rest =>
    let share := if rest.isEmpty then remaining else (amount * size).tdiv total
    let give := max 0 (min share size)
    give :: fixed amount total (remaining - give) rest

/-- Shares of a total that shrinks by the places passed, until nothing is left. -/
def shrinking (amount : Int) : Int → Int → List Int → List Int
  | _, _, [] => []
  | total, remaining, size :: rest =>
    if remaining ≤ 0 then 0 :: shrinking amount total remaining rest
    else
      let share := if rest.isEmpty then remaining else (amount * size).tdiv total
      let take := max 0 (min share size)
      take :: shrinking amount (if take = 0 then total else total - size)
        (remaining - take) rest

def floors (amount total : Int) (sizes : List Int) : List Int :=
  sizes.dropLast.map fun size => amount * size / total

def offers (amount : Int) : Int → List Int → List Int
  | _, [] => []
  | _, [_] => []
  | total, size :: next :: rest =>
    let offer := min (amount * size / total) size
    offer :: offers amount (if offer = 0 then total else total - size) (next :: rest)

/-- The shares come to the amount: some of the first ones do, or all of them leave no
more than the last place holds. -/
def Reaches (amount : Int) (shares : List Int) (last : Int) : Prop :=
  (∃ count, (shares.take count).sum = amount) ∨ shares.sum ≤ amount ∧ amount ≤ shares.sum + last

theorem sum_filter_of_zero {α : Type} (amount : α → Int) {narrow wide : α → Bool} {items : List α}
    (included : ∀ item ∈ items, narrow item = true → wide item = true)
    (zero : ∀ item ∈ items, wide item = true → narrow item = false → amount item = 0) :
    ((items.filter wide).map amount).sum = ((items.filter narrow).map amount).sum := by
  induction items with
  | nil => rfl
  | cons item rest ih =>
    have later := ih
      (fun other mem => included other (mem_cons_of_mem _ mem))
      (fun other mem => zero other (mem_cons_of_mem _ mem))
    have included := included item mem_cons_self
    have zero := zero item mem_cons_self
    cases fine : narrow item with
    | true =>
      rw [filter_cons_of_pos (included fine), filter_cons_of_pos fine]
      simp only [map_cons, sum_cons, later]
    | false =>
      cases coarse : wide item with
      | true =>
        rw [filter_cons_of_pos coarse, filter_cons_of_neg (by simp [fine])]
        simp only [map_cons, sum_cons, later, zero coarse fine, zero_add]
      | false =>
        rw [filter_cons_of_neg (by simp [coarse]), filter_cons_of_neg (by simp [fine])]
        exact later

variable {amount total : Int}

theorem share_bounds (size : Int) (positive : 0 < total) (bounds : 0 ≤ amount)
    (within : amount ≤ total) (room : 0 ≤ size) :
    (amount * size).tdiv total = amount * size / total ∧ 0 ≤ amount * size / total ∧
      amount * size / total ≤ size := by
  have product : 0 ≤ amount * size := Int.mul_nonneg bounds room
  refine ⟨Int.tdiv_eq_ediv_of_nonneg product, Int.ediv_nonneg product positive.le, ?_⟩
  apply Int.ediv_le_of_le_mul positive
  rw [Int.mul_comm]
  exact Int.mul_le_mul_of_nonneg_left within room

theorem sum_shares_le (amount : Int) {total : Int} (positive : 0 < total) (sizes : List Int) :
    (sizes.map fun size => amount * size / total).sum * total ≤ amount * sizes.sum := by
  induction sizes with
  | nil => simp
  | cons size rest ih =>
    have share := Int.ediv_mul_le (amount * size) positive.ne'
    rw [map_cons, sum_cons, sum_cons, Int.add_mul, Int.mul_add]
    omega

theorem sum_shares_eq_iff (positive : 0 < total) (sizes : List Int) :
    (sizes.map fun size => amount * size / total).sum * total = amount * sizes.sum ↔
      ∀ size ∈ sizes, total ∣ amount * size := by
  induction sizes with
  | nil => simp
  | cons size rest ih =>
    have first := Int.ediv_mul_le (amount * size) positive.ne'
    have later := sum_shares_le amount positive rest
    have whole : total ∣ amount * size ↔ amount * size / total * total = amount * size := by
      constructor
      · exact Int.ediv_mul_cancel
      · intro same
        rw [← same]
        exact Int.dvd_mul_left _ total
    rw [forall_mem_cons, ← ih, whole, map_cons, sum_cons, sum_cons, Int.add_mul, Int.mul_add]
    omega

variable {sizes : List Int}

theorem sum_capped_eq_iff {amount : Int} (positive : 0 < sizes.sum) (some : 0 ≤ amount)
    (rooms : ∀ size ∈ sizes, 0 ≤ size) :
    (sizes.map fun size => min (amount * size / sizes.sum) size).sum = amount ↔
      amount ≤ sizes.sum ∧ ∀ size ∈ sizes, sizes.sum ∣ amount * size := by
  have capped : (sizes.map fun size => min (amount * size / sizes.sum) size).sum ≤ sizes.sum := by
    have each : (sizes.map fun size => min (amount * size / sizes.sum) size).sum ≤
        (sizes.map id).sum := sum_le_sum fun size _ => min_le_right _ _
    rw [map_id] at each
    exact each
  by_cases within : amount ≤ sizes.sum
  · have shares : (sizes.map fun size => min (amount * size / sizes.sum) size) =
        sizes.map fun size => amount * size / sizes.sum := by
      apply map_congr_left
      intro size mem
      exact min_eq_left (share_bounds size positive some within (rooms size mem)).2.2
    rw [and_iff_right within, ← sum_shares_eq_iff positive, shares]
    constructor
    · intro whole
      rw [whole]
    · exact Int.eq_of_mul_eq_mul_right positive.ne'
  · exact iff_of_false (fun same => within (same ▸ capped)) fun both => within both.1

theorem getLastD_nonneg (rooms : ∀ size ∈ sizes, 0 ≤ size) : 0 ≤ sizes.getLastD 0 := by
  cases sizes with
  | nil => exact le_rfl
  | cons size rest => exact rooms _ (getLast_mem (cons_ne_nil size rest))

theorem sum_dropLast_le (rooms : ∀ size ∈ sizes, 0 ≤ size) : sizes.dropLast.sum ≤ sizes.sum := by
  induction sizes with
  | nil => rfl
  | cons size rest ih =>
    have room := rooms size mem_cons_self
    have rooms : ∀ size ∈ rest, 0 ≤ size := fun size mem =>
      rooms size (mem_cons_of_mem _ mem)
    cases rest with
    | nil => simpa using room
    | cons next rest =>
      have bound := ih rooms
      rw [dropLast_cons_cons, sum_cons, sum_cons]
      omega

theorem sum_floors_le {amount : Int} (bounds : 0 ≤ amount) (rooms : ∀ size ∈ sizes, 0 ≤ size)
    (positive : 0 < sizes.sum) : (floors amount sizes.sum sizes).sum ≤ amount := by
  have whole : (floors amount sizes.sum sizes).sum * sizes.sum ≤ amount * sizes.dropLast.sum :=
    sum_shares_le amount positive sizes.dropLast
  have shorter := Int.mul_le_mul_of_nonneg_left (sum_dropLast_le rooms) bounds
  exact Int.le_of_mul_le_mul_right (whole.trans shorter) positive

variable {remaining : Int}

theorem sum_fixed (positive : 0 < total) (bounds : 0 ≤ amount) (within : amount ≤ total)
    (some : sizes ≠ []) (rooms : ∀ size ∈ sizes, 0 ≤ size)
    (enough : (floors amount total sizes).sum ≤ remaining) :
    (fixed amount total remaining sizes).sum =
      min remaining ((floors amount total sizes).sum + sizes.getLastD 0) := by
  induction sizes generalizing remaining with
  | nil => exact absurd rfl some
  | cons size rest ih =>
    have room := rooms size mem_cons_self
    cases rest with
    | nil =>
      simp only [floors, fixed, dropLast_singleton, map_nil, sum_nil,
        isEmpty_nil, if_true, sum_cons, getLastD_cons,
        getLastD_nil] at enough ⊢
      omega
    | cons next rest =>
      obtain ⟨rounded, lower, upper⟩ := share_bounds size positive bounds within room
      have split : floors amount total (size :: next :: rest) =
          amount * size / total :: floors amount total (next :: rest) := rfl
      rw [split, sum_cons] at enough ⊢
      have give : max 0 (min (amount * size / total) size) = amount * size / total := by
        omega
      rw [fixed]
      simp only [isEmpty_cons, Bool.false_eq_true, if_false, rounded, give, sum_cons]
      rw [ih (cons_ne_nil _ _) (fun size mem => rooms size (mem_cons_of_mem _ mem)) (by omega)]
      simp only [getLastD_cons]
      omega

theorem sum_fixed_of_nonpos (positive : 0 < total) (none : amount ≤ 0) (nothing : remaining ≤ 0)
    (rooms : ∀ size ∈ sizes, 0 ≤ size) : (fixed amount total remaining sizes).sum = 0 := by
  induction sizes generalizing remaining with
  | nil => rfl
  | cons size rest ih =>
    have room := rooms size mem_cons_self
    have product : (amount * size).tdiv total ≤ 0 := by
      have opposite : 0 ≤ (-(amount * size)).tdiv total := by
        apply Int.tdiv_nonneg _ positive.le
        rw [← Int.neg_mul]
        exact Int.mul_nonneg (by omega) room
      rw [Int.neg_tdiv] at opposite
      omega
    have give : max 0 (min (if rest.isEmpty then remaining
        else (amount * size).tdiv total) size) = 0 := by
      split <;> omega
    rw [fixed]
    simp only [give, sum_cons]
    rw [ih (by omega) fun size mem => rooms size (mem_cons_of_mem _ mem)]
    rfl

theorem offers_nonneg (bounds : 0 ≤ amount) (rooms : ∀ size ∈ sizes, 0 ≤ size)
    (covered : sizes.sum ≤ total) : ∀ offer ∈ offers amount total sizes, 0 ≤ offer := by
  induction sizes generalizing total with
  | nil => exact nofun
  | cons size rest ih =>
    have room := rooms size mem_cons_self
    have rooms : ∀ size ∈ rest, 0 ≤ size := fun size mem =>
      rooms size (mem_cons_of_mem _ mem)
    have later := sum_nonneg rooms
    rw [sum_cons] at covered
    cases rest with
    | nil => exact nofun
    | cons next rest =>
      have share := Int.ediv_nonneg (Int.mul_nonneg bounds room)
        (show 0 ≤ total by omega)
      intro offer mem
      rw [offers] at mem
      rcases mem_cons.mp mem with rfl | mem
      · omega
      · refine ih rooms ?_ offer mem
        split <;> omega

variable {shares : List Int}

theorem reaches_cons {amount offer last : Int} (left : amount ≠ 0) :
    Reaches amount (offer :: shares) last ↔ Reaches (amount - offer) shares last := by
  unfold Reaches
  rw [sum_cons]
  apply or_congr
  · constructor
    · rintro ⟨count, reached⟩
      cases count with
      | zero => exact absurd reached.symm left
      | succ count =>
        rw [take_succ_cons, sum_cons] at reached
        exact ⟨count, by omega⟩
    · rintro ⟨count, reached⟩
      refine ⟨count + 1, ?_⟩
      rw [take_succ_cons, sum_cons]
      omega
  · omega

theorem shrinking_of_nonpos {amount total remaining : Int} (stop : remaining ≤ 0)
    (sizes : List Int) :
    shrinking amount total remaining sizes = sizes.map fun _ => 0 := by
  induction sizes with
  | nil => rfl
  | cons size rest ih => rw [shrinking, if_pos stop, map_cons, ih]

theorem reaches_iff_of_nonpos {amount last : Int} (stop : amount ≤ 0)
    (positive : ∀ share ∈ shares, 0 ≤ share) : 0 = amount ↔ Reaches amount shares last := by
  constructor
  · rintro rfl
    exact Or.inl ⟨0, rfl⟩
  rintro (⟨count, reached⟩ | ⟨within, -⟩)
  · have some := sum_nonneg fun share mem =>
      positive share (mem_of_mem_take (i := count) mem)
    omega
  · have all := sum_nonneg positive
    omega

theorem sum_shrinking_eq_iff {amount total remaining : Int} (bounds : 0 ≤ amount)
    (some : sizes ≠ []) (rooms : ∀ size ∈ sizes, 0 ≤ size) (covered : sizes.sum ≤ total) :
    (shrinking amount total remaining sizes).sum = remaining ↔
      Reaches remaining (offers amount total sizes) (sizes.getLastD 0) := by
  induction sizes generalizing total remaining with
  | nil => exact absurd rfl some
  | cons size rest ih =>
    rcases le_or_gt remaining 0 with stop | left
    · rw [shrinking_of_nonpos stop, sum_eq_zero (by simp)]
      exact reaches_iff_of_nonpos stop (offers_nonneg bounds rooms covered)
    have room := rooms size mem_cons_self
    have rooms : ∀ size ∈ rest, 0 ≤ size := fun size mem =>
      rooms size (mem_cons_of_mem _ mem)
    have later := sum_nonneg rooms
    rw [sum_cons] at covered
    rw [shrinking, if_neg (by omega)]
    cases rest with
    | nil =>
      simp only [isEmpty_nil, if_true, shrinking, sum_cons, sum_nil, offers,
        Reaches, take_nil, getLastD_cons, getLastD_nil]
      constructor
      · intro whole
        exact Or.inr (by omega)
      · rintro (⟨count, reached⟩ | whole) <;> omega
    | cons next rest =>
      have take : max 0 (min ((amount * size).tdiv total) size) =
          min (amount * size / total) size := by
        have product := Int.mul_nonneg bounds room
        have share := Int.ediv_nonneg product (show 0 ≤ total by omega)
        rw [Int.tdiv_eq_ediv_of_nonneg product]
        omega
      simp only [isEmpty_cons, Bool.false_eq_true, if_false, take, sum_cons]
      rw [offers, reaches_cons left.ne']
      apply Iff.trans _ (ih (cons_ne_nil next rest) rooms _)
      · omega
      · split <;> omega

end Shares

end GtnhPlatform
