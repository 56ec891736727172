import Mathlib.Data.List.Basic

namespace GtnhPlatform

open List

variable {α : Type u} {β : Type v} {first last : Nat}

def segment (first last : Nat) (list : List α) : List α := (list.take last).drop first

def setSegment (first last : Nat) (new list : List α) : List α :=
  list.take first ++ new ++ list.drop (max first last)

theorem length_segment (first last : Nat) (list : List α) :
    (segment first last list).length = min last list.length - first := by
  rw [segment, length_drop, length_take]

theorem setSegment_segment (first last : Nat) (list : List α) :
    setSegment first last (segment first last list) list = list := by
  rw [setSegment, segment]
  by_cases ordered : first ≤ last
  · have front : list.take first = (list.take last).take first := by
      rw [take_take, Nat.min_eq_left ordered]
    rw [front, take_append_drop, Nat.max_eq_right ordered, take_append_drop]
  have empty : (list.take last).drop first = [] := by
    rw [drop_eq_nil_iff, length_take]
    omega
  rw [empty, append_nil, Nat.max_eq_left (by omega), take_append_drop]

section Set

variable {new list : List α} (same : new.length = (segment first last list).length)

include same

theorem segment_setSegment : segment first last (setSegment first last new list) = new := by
  rw [length_segment] at same
  rw [segment, setSegment]
  by_cases inside : first ≤ list.length
  · have front : (list.take first).length = first := by
      rw [length_take, Nat.min_eq_left inside]
    rw [append_assoc, take_append, drop_append, length_take, front]
    have skipped : ((list.take first).take last).drop first = [] := by
      rw [drop_eq_nil_iff, length_take, front]
      omega
    rw [skipped, nil_append]
    by_cases ordered : first ≤ last
    · rw [Nat.min_eq_right ordered, Nat.sub_self, drop_zero, take_append, Nat.max_eq_right ordered]
      have whole : new.take (last - first) = new := by
        rw [take_of_length_le]
        omega
      have beyond : (list.drop last).take (last - first - new.length) = [] := by
        rw [take_eq_nil_iff, drop_eq_nil_iff]
        omega
      rw [whole, beyond, append_nil]
    · have none : new = [] := eq_nil_of_length_eq_zero (by omega)
      have before : last - first = 0 := by omega
      rw [before, take_zero, drop_nil, none]
  · have none : new = [] := eq_nil_of_length_eq_zero (by omega)
    rw [none, append_nil, drop_eq_nil_iff]
    simp only [length_take, length_append, length_drop]
    omega

theorem take_setSegment : (setSegment first last new list).take first = list.take first := by
  rw [length_segment] at same
  rw [setSegment, append_assoc, take_append, take_take, Nat.min_self, length_take]
  by_cases inside : first ≤ list.length
  · rw [Nat.min_eq_left inside, Nat.sub_self, take_zero, append_nil]
  · have none : new = [] := eq_nil_of_length_eq_zero (by omega)
    rw [none, nil_append, drop_eq_nil_iff.mpr (by omega), take_nil, append_nil]

theorem drop_setSegment :
    (setSegment first last new list).drop (max first last) = list.drop (max first last) := by
  rw [length_segment] at same
  rw [setSegment, drop_append, drop_eq_nil_iff.mpr (by
    simp only [length_append, length_take]
    omega), nil_append, drop_drop]
  by_cases inside : max first last ≤ list.length
  · have exact : (list.take first ++ new).length = max first last := by
      simp only [length_append, length_take]
      omega
    rw [exact, Nat.sub_self, Nat.add_zero]
  · rw [drop_eq_nil_iff.mpr (by omega), drop_eq_nil_iff.mpr (by omega)]

theorem setSegment_setSegment (newer : List α) :
    setSegment first last newer (setSegment first last new list) =
      setSegment first last newer list := by
  rw [setSegment, take_setSegment same, drop_setSegment same]
  rfl

end Set

variable {work : List α → β → List α}

theorem foldl_setSegment (keeps : ∀ list item, (work list item).length = list.length)
    (items : List β) (list : List α) :
    items.foldl (fun list item => setSegment first last (work (segment first last list) item) list)
        list =
      setSegment first last (items.foldl work (segment first last list)) list := by
  induction items generalizing list with
  | nil => exact (setSegment_segment first last list).symm
  | cons item rest ih =>
    have same := keeps (segment first last list) item
    rw [foldl_cons, ih, segment_setSegment same, setSegment_setSegment same, foldl_cons]

theorem segment_foldl_setSegment (keeps : ∀ list item, (work list item).length = list.length)
    (items : List β) (list : List α) :
    segment first last (items.foldl
        (fun list item => setSegment first last (work (segment first last list) item) list) list) =
      items.foldl work (segment first last list) := by
  have kept : ∀ segment : List α, (items.foldl work segment).length = segment.length := by
    induction items with
    | nil => exact fun _ => rfl
    | cons item rest ih =>
      intro segment
      rw [foldl_cons, ih, keeps]
  rw [foldl_setSegment keeps, segment_setSegment (kept _)]

end GtnhPlatform
