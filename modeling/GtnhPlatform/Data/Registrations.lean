import Mathlib.Data.List.Find
import Mathlib.Data.List.Nodup

namespace GtnhPlatform

open List

/-! Registrations of owners under names; the latest one stands. -/

structure Registration (κ : Type u) (ν : Type v) (ι : Type w) where
  owner : κ
  name : ν
  info : ι

/-- The registrations in force, the latest first; an owner has one at most. -/
structure Registrations (κ : Type u) (ν : Type v) (ι : Type w) where
  entries : List (Registration κ ν ι)
  distinct : (entries.map (·.owner)).Nodup

namespace Registrations

variable {κ : Type u} {ν : Type v} {ι : Type w}

def empty : Registrations κ ν ι := ⟨[], nodup_nil⟩

variable [DecidableEq κ]

def nameOf (registrations : Registrations κ ν ι) (owner : κ) : Option ν :=
  (registrations.entries.find? fun entry => entry.owner = owner).map (·.name)

def leave (registrations : Registrations κ ν ι) (owner : κ) : Registrations κ ν ι where
  entries := registrations.entries.filter fun entry => entry.owner ≠ owner
  distinct := registrations.distinct.sublist (filter_sublist.map _)

variable (registrations : Registrations κ ν ι)

theorem leave_fresh (owner : κ) : owner ∉ (registrations.leave owner).entries.map (·.owner) := by
  intro mem
  obtain ⟨entry, kept, rfl⟩ := mem_map.mp mem
  simpa using (mem_filter.mp kept).2

def enter (registrations : Registrations κ ν ι) (owner : κ) (name : ν) (info : ι) :
    Registrations κ ν ι where
  entries := ⟨owner, name, info⟩ :: (registrations.leave owner).entries
  distinct := nodup_cons.mpr
    ⟨registrations.leave_fresh owner, (registrations.leave owner).distinct⟩

theorem nameOf_eq_some_iff (owner : κ) (name : ν) : registrations.nameOf owner = some name ↔
      ∃ entry ∈ registrations.entries, entry.owner = owner ∧ entry.name = name := by
  constructor
  · intro found
    obtain ⟨entry, first, rfl⟩ := Option.map_eq_some_iff.mp found
    have owned : entry.owner = owner := by simpa using find?_some first
    exact ⟨entry, mem_of_find?_eq_some first, owned, rfl⟩
  · rintro ⟨entry, mem, rfl, rfl⟩
    cases first : registrations.entries.find? fun other => other.owner = entry.owner with
    | none =>
      have skipped := find?_eq_none.mp first entry mem
      simp at skipped
    | some found =>
      have owned : found.owner = entry.owner := by simpa using find?_some first
      have same := inj_on_of_nodup_map registrations.distinct
        (mem_of_find?_eq_some first) mem owned
      rw [nameOf, first, same]
      rfl

theorem nameOf_leave (owner other : κ) : (registrations.leave owner).nameOf other =
      if other = owner then none else registrations.nameOf other := by
  apply Option.ext
  intro name
  rw [nameOf_eq_some_iff]
  split
  · next same =>
    subst same
    constructor
    · rintro ⟨entry, mem, rfl, _⟩
      exact absurd (mem_map.mpr ⟨entry, mem, rfl⟩) (registrations.leave_fresh entry.owner)
    · intro none
      cases none
  · next distinct =>
    rw [nameOf_eq_some_iff]
    constructor
    · rintro ⟨entry, mem, owned, named⟩
      exact ⟨entry, (mem_filter.mp mem).1, owned, named⟩
    · rintro ⟨entry, mem, rfl, named⟩
      refine ⟨entry, mem_filter.mpr ⟨mem, ?_⟩, rfl, named⟩
      exact decide_eq_true distinct

theorem nameOf_enter (owner : κ) (name : ν) (info : ι) (other : κ) :
    (registrations.enter owner name info).nameOf other =
      if other = owner then some name else registrations.nameOf other := by
  by_cases same : other = owner
  · simp [nameOf, enter, same]
  rw [if_neg same]
  have later : (registrations.enter owner name info).nameOf other =
      (registrations.leave owner).nameOf other := by
    rw [nameOf, enter, find?_cons_of_neg (by simpa using Ne.symm same), nameOf]
  rw [later, nameOf_leave, if_neg same]

variable [DecidableEq ν]

def lookup (registrations : Registrations κ ν ι) (name : ν) : Option ι :=
  (registrations.entries.find? fun entry => entry.name = name).map (·.info)

theorem lookup_eq_none_iff (name : ν) :
    registrations.lookup name = none ↔ ∀ owner, registrations.nameOf owner ≠ some name := by
  rw [lookup, Option.map_eq_none_iff, find?_eq_none]
  constructor
  · intro unnamed owner held
    obtain ⟨entry, mem, _, named⟩ := (nameOf_eq_some_iff _ _ _).mp held
    exact unnamed entry mem (decide_eq_true named)
  · intro unheld entry mem named
    apply unheld entry.owner
    exact (nameOf_eq_some_iff _ _ _).mpr ⟨entry, mem, rfl, of_decide_eq_true named⟩

theorem lookup_enter (owner : κ) (name : ν) (info : ι) (other : ν) :
    (registrations.enter owner name info).lookup other =
      if other = name then some info else (registrations.leave owner).lookup other := by
  by_cases same : other = name
  · simp [lookup, enter, same]
  · rw [if_neg same, lookup, enter, find?_cons_of_neg (by simpa using Ne.symm same), lookup]

theorem lookup_leave_of_ne (elsewhere : registrations.nameOf owner ≠ some name) :
    (registrations.leave owner).lookup name = registrations.lookup name := by
  rw [lookup, lookup, leave, find?_filter]
  congr 1
  apply find?_congr
  intro entry mem
  by_cases named : entry.name = name
  · have other : entry.owner ≠ owner := by
      rintro rfl
      apply elsewhere
      exact (nameOf_eq_some_iff _ _ _).mpr ⟨entry, mem, rfl, named⟩
    simp [named, other]
  · simp [named]

theorem lookup_leave_eq_none_iff (owner : κ) (name : ν) :
    (registrations.leave owner).lookup name = none ↔
      ∀ other ≠ owner, registrations.nameOf other ≠ some name := by
  rw [lookup_eq_none_iff]
  constructor
  · intro unheld other distinct
    have free := unheld other
    rwa [nameOf_leave, if_neg distinct] at free
  intro unheld other
  rw [nameOf_leave]
  split
  · exact Option.some_ne_none name |>.symm
  · next distinct => exact unheld other distinct

end Registrations

end GtnhPlatform
