import GtnhPlatform.Data.Table
import Mathlib.Data.Finset.Card

namespace GtnhPlatform

open List

/-! A bounded table with a separate insertion queue, which may name keys that are gone. -/

structure EvictingCache (κ : Type u) (ν : Type v) where
  entries : Table κ ν
  order : List κ

namespace EvictingCache

variable {κ : Type u} {ν : Type v} [DecidableEq κ]

def empty : EvictingCache κ ν where
  entries := ∅
  order := []

def lookup (cache : EvictingCache κ ν) (key : κ) : Option ν := cache.entries.lookup key

/-- Drop the oldest keys until the table fits. A front that is gone is popped
without counting. -/
def evict (capacity : Nat) (entries : Table κ ν) : List κ → EvictingCache κ ν
  | [] =>
    if entries.entries.length ≤ capacity then ⟨entries, []⟩ else ⟨∅, []⟩
  | front :: rest =>
    if entries.entries.length ≤ capacity then ⟨entries, front :: rest⟩
    else if (entries.lookup front).isSome then evict capacity (entries.erase front) rest
    else evict capacity entries rest

def insert (capacity : Nat) (key : κ) (value : ν) (cache : EvictingCache κ ν) :
    EvictingCache κ ν :=
  if (cache.lookup key).isSome then cache
  else evict capacity (AList.insert key value cache.entries) (cache.order ++ [key])

def purge (drop : κ → ν → Bool) (cache : EvictingCache κ ν) : EvictingCache κ ν where
  entries := cache.entries.filter fun key value => !drop key value
  order := cache.order

def Queued (entries : Table κ ν) (order : List κ) : Prop :=
  ∀ key value, entries.lookup key = some value → key ∈ order

structure Holds (cache : EvictingCache κ ν) (key : κ) (value : ν) (newer : Finset κ) :
    Prop where
  cached : cache.lookup key = some value
  queued : Queued cache.entries cache.order
  place : ∃ older younger, cache.order = older ++ key :: younger ∧ key ∉ older ∧
    ∀ other ∈ younger, other ∈ newer

variable {entries : Table κ ν}

theorem length_le_of_subset {keys : Finset κ}
    (covered : ∀ key value, entries.lookup key = some value → key ∈ keys) :
    entries.entries.length ≤ keys.card := by
  have distinct : entries.keys.Nodup := AList.keys_nodup entries
  have subset : entries.keys.toFinset ⊆ keys := by
    intro key mem
    have live : key ∈ entries := mem_toFinset.mp mem
    obtain ⟨value, found⟩ := Option.isSome_iff_exists.mp (AList.lookup_isSome.mpr live)
    exact covered key value found
  have bound := Finset.card_le_card subset
  rw [toFinset_card_of_nodup distinct] at bound
  simpa [AList.keys, List.keys] using bound

variable {order : List κ}

theorem evict_queued (capacity : Nat) (queued : Queued entries order) :
    Queued (evict capacity entries order).entries (evict capacity entries order).order := by
  induction order generalizing entries with
  | nil =>
    intro key value found
    by_cases fits : entries.entries.length ≤ capacity
    · rw [evict, if_pos fits] at found
      exact absurd (queued key value found) not_mem_nil
    · rw [evict, if_neg fits] at found
      simp at found
  | cons front rest ih =>
    by_cases fits : entries.entries.length ≤ capacity
    · rw [evict, if_pos fits]
      exact queued
    cases live : (entries.lookup front).isSome with
    | true =>
      rw [evict, if_neg fits, live, if_pos rfl]
      refine ih ?_
      intro key value found
      by_cases same : key = front
      · subst same
        rw [AList.lookup_erase] at found
        contradiction
      · rw [AList.lookup_erase_ne same] at found
        exact (mem_cons.mp (queued key value found)).resolve_left same
    | false =>
      rw [evict, if_neg fits, live, if_neg Bool.false_ne_true]
      refine ih ?_
      intro key value found
      have same : key ≠ front := by
        intro equality
        rw [← equality, found] at live
        contradiction
      exact (mem_cons.mp (queued key value found)).resolve_left same

variable {capacity : Nat} {key : κ} {value : ν} {newer : Finset κ}

theorem evict_holds (room : newer.card < capacity) (older younger : List κ)
    (cached : entries.lookup key = some value) (queued : Queued entries (older ++ key :: younger))
    (absent : key ∉ older) (later : ∀ other ∈ younger, other ∈ newer) :
    Holds (evict capacity entries (older ++ key :: younger)) key value newer := by
  induction older generalizing entries with
  | nil =>
    have fits : entries.entries.length ≤ capacity := by
      have bound : entries.entries.length ≤ (Insert.insert key newer).card := by
        refine length_le_of_subset ?_
        intro other otherValue found
        rw [Finset.mem_insert]
        cases mem_cons.mp (queued other otherValue found) with
        | inl same => exact Or.inl same
        | inr mem => exact Or.inr (later other mem)
      have step := Finset.card_insert_le key newer
      omega
    rw [nil_append, evict, if_pos fits]
    exact ⟨cached, queued, [], younger, rfl, not_mem_nil, later⟩
  | cons front older ih =>
    have distinct : key ≠ front := fun same => absent (same ▸ mem_cons_self)
    have absentLater : key ∉ older := fun mem => absent (mem_cons_of_mem _ mem)
    by_cases fits : entries.entries.length ≤ capacity
    · rw [cons_append, evict, if_pos fits]
      exact ⟨cached, queued, front :: older, younger, rfl, absent, later⟩
    cases live : (entries.lookup front).isSome with
    | true =>
      rw [cons_append, evict, if_neg fits, live, if_pos rfl]
      refine ih ?_ ?_ absentLater
      · rw [AList.lookup_erase_ne distinct]
        exact cached
      intro other otherValue found
      by_cases same : other = front
      · subst same
        rw [AList.lookup_erase] at found
        contradiction
      · rw [AList.lookup_erase_ne same] at found
        exact (mem_cons.mp (queued other otherValue found)).resolve_left same
    | false =>
      rw [cons_append, evict, if_neg fits, live, if_neg Bool.false_ne_true]
      refine ih cached ?_ absentLater
      intro other otherValue found
      have same : other ≠ front := by
        intro equality
        rw [← equality, found] at live
        contradiction
      exact (mem_cons.mp (queued other otherValue found)).resolve_left same

theorem mem_order_of_evict (mem : key ∈ (evict capacity entries order).order) : key ∈ order := by
  induction order generalizing entries with
  | nil =>
    by_cases fits : entries.entries.length ≤ capacity
    · rw [evict, if_pos fits] at mem
      exact mem
    · rw [evict, if_neg fits] at mem
      exact mem
  | cons front rest ih =>
    by_cases fits : entries.entries.length ≤ capacity
    · rw [evict, if_pos fits] at mem
      exact mem
    rw [evict, if_neg fits] at mem
    cases live : (entries.lookup front).isSome with
    | true =>
      rw [live, if_pos rfl] at mem
      exact mem_cons_of_mem _ (ih mem)
    | false =>
      rw [live, if_neg Bool.false_ne_true] at mem
      exact mem_cons_of_mem _ (ih mem)

variable {cache : EvictingCache κ ν}

theorem mem_order_of_insert {key other : κ}
    (mem : other ∈ (cache.insert capacity key value).order) :
    other ∈ cache.order ∨ other = key := by
  cases known : (cache.lookup key).isSome with
  | true =>
    rw [insert, known, if_pos rfl] at mem
    exact Or.inl mem
  | false =>
    rw [insert, known, if_neg Bool.false_ne_true] at mem
    simpa using mem_order_of_evict mem

theorem queued_insert (queued : Queued entries order) (key : κ) (value : ν) :
    Queued (AList.insert key value entries) (order ++ [key]) := by
  intro other otherValue found
  by_cases same : other = key
  · exact mem_append_right _ (mem_singleton.mpr same)
  · rw [Table.lookup_insert_of_ne _ _ same] at found
    exact mem_append_left _ (queued other otherValue found)

theorem insert_queued (queued : Queued cache.entries cache.order) (key : κ) (value : ν) :
    Queued (cache.insert capacity key value).entries (cache.insert capacity key value).order := by
  cases known : (cache.lookup key).isSome with
  | true =>
    rw [insert, known, if_pos rfl]
    exact queued
  | false =>
    rw [insert, known, if_neg Bool.false_ne_true]
    exact evict_queued capacity (queued_insert queued key value)

theorem purge_queued (queued : Queued cache.entries cache.order) (drop : κ → ν → Bool) :
    Queued (cache.purge drop).entries (cache.purge drop).order := by
  intro key value found
  simp only [purge, Table.lookup_filter, Option.filter_eq_some_iff] at found
  exact queued key value found.1

theorem insert_holds (positive : 0 < capacity) (queued : Queued cache.entries cache.order)
    (value : ν) (fresh : key ∉ cache.order) :
    Holds (cache.insert capacity key value) key value ∅ := by
  have unknown : (cache.lookup key).isSome = false := by
    cases found : cache.lookup key with
    | none => rfl
    | some known => exact absurd (queued key known found) fresh
  rw [insert, unknown, if_neg Bool.false_ne_true]
  refine evict_holds (by simpa using positive) cache.order [] ?_ ?_ fresh ?_
  · exact Table.lookup_insert_self _ _ _
  · exact queued_insert queued key value
  · intro other mem
    exact absurd mem not_mem_nil

theorem Holds.insert (holds : Holds cache key value newer) (other : κ) (otherValue : ν)
    (distinct : other ≠ key) (room : (Insert.insert other newer).card < capacity) :
    Holds (cache.insert capacity other otherValue) key value (Insert.insert other newer) := by
  obtain ⟨older, younger, orderEq, absent, later⟩ := holds.place
  cases known : (cache.lookup other).isSome with
  | true =>
    rw [EvictingCache.insert, known, if_pos rfl]
    exact ⟨holds.cached, holds.queued, older, younger, orderEq, absent, fun mem inYounger =>
      Finset.mem_insert_of_mem (later mem inYounger)⟩
  | false =>
    rw [EvictingCache.insert, known, if_neg Bool.false_ne_true, orderEq, append_assoc, cons_append]
    refine evict_holds room older (younger ++ [other]) ?_ ?_ absent ?_
    · rw [Table.lookup_insert_of_ne _ _ distinct.symm]
      exact holds.cached
    · have queued := queued_insert holds.queued other otherValue
      rw [orderEq, append_assoc, cons_append] at queued
      exact queued
    intro mem inYounger
    cases mem_append.mp inYounger with
    | inl earlier => exact Finset.mem_insert_of_mem (later mem earlier)
    | inr last =>
      rw [mem_singleton.mp last]
      exact Finset.mem_insert_self other newer

theorem Holds.mono {newer later : Finset κ} (holds : Holds cache key value newer)
    (subset : newer ⊆ later) : Holds cache key value later := by
  obtain ⟨older, younger, orderEq, absent, inNewer⟩ := holds.place
  exact ⟨holds.cached, holds.queued, older, younger, orderEq, absent, fun other mem =>
    subset (inNewer other mem)⟩

theorem Holds.purge (holds : Holds cache key value newer) (drop : κ → ν → Bool)
    (kept : drop key value = false) : Holds (cache.purge drop) key value newer := by
  refine ⟨?_, purge_queued holds.queued drop, holds.place⟩
  rw [lookup, EvictingCache.purge, Table.lookup_filter]
  have cached : cache.entries.lookup key = some value := holds.cached
  rw [cached, Option.filter_some, kept]
  rfl

end EvictingCache

end GtnhPlatform
