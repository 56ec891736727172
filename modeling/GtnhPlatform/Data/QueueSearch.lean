import Mathlib.Data.List.Nodup
import Mathlib.Data.List.Perm.Subperm
import Mathlib.Logic.Relation

namespace GtnhPlatform

open List

/-! Search with a queue. With enough rounds it finds all places, and searches from every
place in turn find the connected components. -/

namespace QueueSearch

variable {α : Type u} (next : α → List α)

def Step (place other : α) : Prop := other ∈ next place

def Reaches : α → α → Prop := Relation.ReflTransGen (Step next)

structure Searching (start : α) (passed visited queue found : List α) : Prop where
  distinct : (found ++ queue).Nodup
  known : ∀ place, place ∈ visited ↔ place ∈ passed ∨ place ∈ found ++ queue
  apart : ∀ place ∈ found ++ queue, place ∉ passed
  reached : ∀ place ∈ found ++ queue, Reaches next start place
  closed : ∀ place ∈ found, ∀ other ∈ next place, other ∈ visited
  begun : start ∈ found ++ queue

structure Found (next : α → List α) (start : α) (passed : List α) (result : List α × List α) :
    Prop where
  distinct : result.2.Nodup
  known : ∀ place, place ∈ result.1 ↔ place ∈ passed ∨ place ∈ result.2
  apart : ∀ place ∈ result.2, place ∉ passed
  reached : ∀ place ∈ result.2, Reaches next start place
  closed : ∀ place ∈ result.2, ∀ other ∈ next place, other ∈ result.1
  begun : start ∈ result.2

def Closed (next : α → List α) (places : List α) : Prop :=
  ∀ place ∈ places, ∀ other ∈ next place, other ∈ places

structure Components (next : α → List α) (passed places : List α) (lists : List (List α)) :
    Prop where
  distinct : lists.flatten.Nodup
  apart : ∀ place ∈ lists.flatten, place ∉ passed
  covered : ∀ place ∈ places, place ∈ passed ∨ place ∈ lists.flatten
  component : ∀ list ∈ lists, ∃ start ∈ places, ∀ place, place ∈ list ↔ Reaches next start place

variable {next} {start : α}

theorem Searching.finish {passed visited found : List α}
    (searching : Searching next start passed visited [] found) :
    Found next start passed (visited, found) where
  distinct := by simpa only [append_nil] using searching.distinct
  known := by simpa only [append_nil] using searching.known
  apart := by simpa only [append_nil] using searching.apart
  reached := by simpa only [append_nil] using searching.reached
  closed := searching.closed
  begun := by simpa only [append_nil] using searching.begun

variable {places : List α}

theorem Closed.reaches (closed : Closed next places) (reaches : Reaches next place other)
    (mem : place ∈ places) : other ∈ places := by
  induction reaches with
  | refl => exact mem
  | tail _ step ih => exact closed _ ih _ step

variable {passed : List α}

theorem searching_start (fresh : start ∉ passed) :
    Searching next start passed (passed ++ [start]) [start] [] where
  distinct := nodup_singleton start
  known := fun place => mem_append
  apart := by
    intro place mem
    obtain rfl := mem_singleton.mp mem
    exact fresh
  reached := by
    intro place mem
    obtain rfl := mem_singleton.mp mem
    exact Relation.ReflTransGen.refl
  closed := nofun
  begun := mem_singleton_self start

variable {result : List α × List α}

theorem Found.mem_iff [Std.Symm (Step next)] (found : Found next start passed result)
    (closed : Closed next passed) (place : α) : place ∈ result.2 ↔ Reaches next start place := by
  constructor
  · exact found.reached place
  intro reaches
  induction reaches with
  | refl => exact found.begun
  | tail _ step ih =>
    obtain old | new := (found.known _).mp (found.closed _ ih _ step)
    · have before := closed _ old _ (Std.Symm.symm _ _ step)
      exact absurd before (found.apart _ ih)
    · exact new

theorem Found.closed_visited
    (found : Found next start passed result) (closed : Closed next passed) :
    Closed next result.1 := by
  intro place mem other step
  obtain old | new := (found.known place).mp mem
  · exact (found.known other).mpr (Or.inl (closed place old other step))
  · exact found.closed place new other step

theorem Components.index_eq {passed places : List α} {lists : List (List α)}
    (spec : Components next passed places lists) {index other : Nat} {first second : List α}
    (found : lists[index]? = some first) (foundOther : lists[other]? = some second) {place : α}
    (here : place ∈ first) (there : place ∈ second) : index = other := by
  have disjoint := pairwise_iff_getElem.mp (nodup_flatten.mp spec.distinct).2
  obtain ⟨bound, rfl⟩ := List.getElem?_eq_some_iff.mp found
  obtain ⟨boundOther, rfl⟩ := List.getElem?_eq_some_iff.mp foundOther
  rcases Nat.lt_trichotomy index other with before | same | after
  · exact absurd there (disjoint index other bound boundOther before here)
  · exact same
  · exact absurd here (disjoint other index boundOther bound after there)

variable [DecidableEq α]

def enqueue (visited queue : List α) : List α → List α × List α
  | [] => (visited, queue)
  | place :: rest =>
    if place ∈ visited then enqueue visited queue rest
    else enqueue (visited ++ [place]) (queue ++ [place]) rest

def search (next : α → List α) : Nat → List α → List α → List α → List α × List α
  | 0, visited, _, found => (visited, found)
  | _, visited, [], found => (visited, found)
  | rounds + 1, visited, current :: queue, found =>
    let (visited, queue) := enqueue visited queue (next current)
    search next rounds visited queue (found ++ [current])

def searchFrom (next : α → List α) (rounds : Nat) (start : α) (visited : List α) :
    List α × List α :=
  search next rounds (visited ++ [start]) [start] []

def components (next : α → List α) (rounds : Nat) : List α → List α → List (List α)
  | _, [] => []
  | visited, place :: rest =>
    if place ∈ visited then components next rounds visited rest
    else
      let (visited, found) := searchFrom next rounds place visited
      found :: components next rounds visited rest

theorem enqueue_spec (places visited queue : List α) : ∃ added : List α,
      enqueue visited queue places = (visited ++ added, queue ++ added) ∧ added.Nodup ∧
        (∀ place ∈ added, place ∉ visited ∧ place ∈ places) ∧
        ∀ place ∈ places, place ∈ visited ++ added := by
  induction places generalizing visited queue with
  | nil =>
    refine ⟨[], ?_, nodup_nil, nofun, nofun⟩
    rw [append_nil, append_nil, enqueue]
  | cons place rest ih =>
    rw [enqueue]
    split
    · next seen =>
      obtain ⟨added, result, distinct, fresh, all⟩ := ih visited queue
      refine ⟨added, result, distinct, ?_, ?_⟩
      · intro other mem
        exact ⟨(fresh other mem).1, mem_cons_of_mem _ (fresh other mem).2⟩
      intro other mem
      obtain rfl | mem := mem_cons.mp mem
      · exact mem_append_left _ seen
      · exact all other mem
    · next new =>
      obtain ⟨added, result, distinct, fresh, all⟩ := ih (visited ++ [place]) (queue ++ [place])
      refine ⟨place :: added, ?_, ?_, ?_, ?_⟩
      · rw [result, append_assoc, append_assoc]
        rfl
      · refine nodup_cons.mpr ⟨?_, distinct⟩
        intro mem
        apply (fresh place mem).1
        exact mem_append_right _ (mem_singleton_self place)
      · intro other mem
        obtain rfl | mem := mem_cons.mp mem
        · exact ⟨new, mem_cons_self⟩
        · obtain ⟨unseen, listed⟩ := fresh other mem
          exact ⟨fun seen => unseen (mem_append_left _ seen), mem_cons_of_mem _ listed⟩
      · intro other mem
        obtain rfl | mem := mem_cons.mp mem
        · exact mem_append_right _ mem_cons_self
        · have listed := all other mem
          rw [append_assoc] at listed
          exact listed

theorem Searching.turn {start current : α} {passed visited queue found : List α}
    (searching : Searching next start passed visited (current :: queue) found) : ∃ added,
      enqueue visited queue (next current) = (visited ++ added, queue ++ added) ∧
        Searching next start passed (visited ++ added) (queue ++ added) (found ++ [current]) := by
  obtain ⟨added, result, distinct, fresh, all⟩ := enqueue_spec (next current) visited queue
  have regroup : found ++ [current] ++ (queue ++ added) = found ++ current :: queue ++ added := by
    simp only [append_assoc, cons_append, nil_append]
  have here : current ∈ found ++ current :: queue := mem_append_right _ mem_cons_self
  refine ⟨added, result, ?_, ?_, ?_, ?_, ?_, ?_⟩
  · rw [regroup]
    refine nodup_append.mpr ⟨searching.distinct, distinct, ?_⟩
    rintro place seen other new rfl
    exact (fresh place new).1 ((searching.known place).mpr (Or.inr seen))
  · intro place
    rw [regroup, mem_append, searching.known, mem_append (s := found ++ _), or_assoc]
  · intro place mem
    rw [regroup] at mem
    obtain seen | new := mem_append.mp mem
    · exact searching.apart place seen
    · intro old
      exact (fresh place new).1 ((searching.known place).mpr (Or.inl old))
  · intro place mem
    rw [regroup] at mem
    obtain seen | new := mem_append.mp mem
    · exact searching.reached place seen
    · exact (searching.reached current here).tail (fresh place new).2
  · intro place mem other listed
    obtain seen | last := mem_append.mp mem
    · exact mem_append_left _ (searching.closed place seen other listed)
    · obtain rfl := mem_singleton.mp last
      exact all other listed
  · rw [regroup]
    exact mem_append_left _ searching.begun

theorem Searching.search (within : ∀ place, Reaches next start place → place ∈ places)
    (rounds : Nat) {visited queue found : List α}
    (searching : Searching next start passed visited queue found)
    (enough : places.length ≤ found.length + rounds) :
    Found next start passed (search next rounds visited queue found) := by
  induction rounds generalizing visited queue found with
  | zero =>
    have bound : (found ++ queue).length ≤ places.length := by
      apply List.Subperm.length_le
      apply searching.distinct.subperm
      intro place mem
      exact within place (searching.reached place mem)
    have empty : queue = [] := by
      apply eq_nil_of_length_eq_zero
      rw [length_append] at bound
      omega
    subst empty
    exact searching.finish
  | succ rounds ih =>
    cases queue with
    | nil => exact searching.finish
    | cons current queue =>
      obtain ⟨added, result, later⟩ := searching.turn
      rw [QueueSearch.search, result]
      apply ih later
      rw [length_append, length_singleton]
      omega

theorem searchFrom_found {passed places : List α} (fresh : start ∉ passed)
    (within : ∀ place, Reaches next start place → place ∈ places)
    (enough : places.length ≤ rounds) :
    Found next start passed (searchFrom next rounds start passed) := by
  apply (searching_start fresh).search within
  rw [length_nil]
  omega

theorem components_spec [Std.Symm (Step next)]
    (enough : ∀ start ∈ places, ∃ reachable : List α, reachable.length ≤ rounds ∧
      ∀ place, Reaches next start place → place ∈ reachable) (closed : Closed next passed) :
    Components next passed places (components next rounds passed places) := by
  induction places generalizing passed with
  | nil => exact ⟨nodup_nil, nofun, nofun, nofun⟩
  | cons start rest ih =>
    have later := fun other mem => enough other (mem_cons_of_mem start mem)
    rw [components]
    split
    · next old =>
      have spec := ih later closed
      refine ⟨spec.distinct, spec.apart, ?_, ?_⟩
      · intro place mem
        obtain rfl | mem := mem_cons.mp mem
        · exact Or.inl old
        · exact spec.covered place mem
      · intro list mem
        obtain ⟨first, listed, same⟩ := spec.component list mem
        exact ⟨first, mem_cons_of_mem _ listed, same⟩
    · next fresh =>
      obtain ⟨reachable, bound, within⟩ := enough start mem_cons_self
      have found := searchFrom_found fresh within bound
      have spec := ih later (found.closed_visited closed)
      constructor
      · rw [flatten_cons]
        refine nodup_append.mpr ⟨found.distinct, spec.distinct, ?_⟩
        rintro place here other later rfl
        exact spec.apart place later ((found.known place).mpr (Or.inr here))
      · intro place mem
        rw [flatten_cons] at mem
        obtain here | later := mem_append.mp mem
        · exact found.apart place here
        · intro old
          exact spec.apart place later ((found.known place).mpr (Or.inl old))
      · intro place mem
        rw [flatten_cons, mem_append]
        obtain rfl | mem := mem_cons.mp mem
        · exact Or.inr (Or.inl found.begun)
        obtain seen | later := spec.covered place mem
        · obtain old | here := (found.known place).mp seen
          · exact Or.inl old
          · exact Or.inr (Or.inl here)
        · exact Or.inr (Or.inr later)
      · intro list mem
        obtain rfl | mem := mem_cons.mp mem
        · exact ⟨start, mem_cons_self, found.mem_iff closed⟩
        · obtain ⟨first, listed, same⟩ := spec.component list mem
          exact ⟨first, mem_cons_of_mem _ listed, same⟩

end QueueSearch

end GtnhPlatform
