import GtnhPlatform.Data.QueueSearch
import Mathlib.Data.List.Chain

namespace GtnhPlatform

open List

namespace QueueSearch

variable {α : Type u} {next : α → List α}

structure Trail (next : α → List α) (start last : α) (path : List α) : Prop where
  first : path.head? = some start
  last : path.getLast? = some last
  linked : path.IsChain (Step next)
  distinct : path.Nodup

theorem trail_start (start : α) : Trail next start start [start] where
  first := rfl
  last := rfl
  linked := isChain_singleton start
  distinct := nodup_singleton start

variable {path : List α}

theorem Trail.extend (trail : Trail next start current path) (step : other ∈ next current)
    (fresh : other ∉ path) : Trail next start other (path ++ [other]) where
  first := by rw [head?_append, trail.first]; rfl
  last := getLast?_concat
  linked := by
    apply List.IsChain.append trail.linked (isChain_singleton other)
    intro place ends following begins
    rw [trail.last, Option.mem_some_iff] at ends
    obtain rfl := ends
    cases begins
    exact step
  distinct := by
    apply nodup_append.mpr
    refine ⟨trail.distinct, nodup_singleton other, ?_⟩
    rintro place old following new rfl
    exact fresh (mem_singleton.mp new ▸ old)

theorem Trail.reaches {start last place : α} (trail : Trail next start last path)
    (mem : place ∈ path) : Reaches next start place := by
  apply trail.linked.induction (Reaches next start) path _ _ place mem
  · intro first second step reaches
    exact reaches.tail step
  intro some
  have first := trail.first
  rw [head?_eq_some_head some] at first
  rw [Option.some.inj first]
  exact Relation.ReflTransGen.refl

variable [DecidableEq α]

def extend (path : List α) (state : List α × List (α × List α)) (place : α) :
    List α × List (α × List α) :=
  if place ∈ state.1 then state
  else (state.1 ++ [place], state.2 ++ [(place, path ++ [place])])

def pathTo (next : α → List α) (goal : α → Bool) : Nat → List α → List (α × List α) → List α
  | 0, _, _ => []
  | _ + 1, _, [] => []
  | rounds + 1, visited, (current, path) :: queue =>
    if goal current then path
    else
      let (visited, queue) := (next current).foldl (extend path) (visited, queue)
      pathTo next goal rounds visited queue

theorem extend_spec (path places visited : List α) (queue : List (α × List α)) :
    ∃ added : List α, places.foldl (extend path) (visited, queue) =
          (visited ++ added, queue ++ added.map fun place => (place, path ++ [place])) ∧
        enqueue visited (queue.map Prod.fst) places =
          (visited ++ added, queue.map Prod.fst ++ added) := by
  induction places generalizing visited queue with
  | nil =>
    refine ⟨[], ?_, ?_⟩
    · rw [map_nil, append_nil, append_nil]
      rfl
    · rw [append_nil, append_nil, enqueue]
  | cons place rest ih =>
    rw [foldl_cons, enqueue, extend]
    split
    · exact ih visited queue
    obtain ⟨added, extended, enqueued⟩ :=
      ih (visited ++ [place]) (queue ++ [(place, path ++ [place])])
    refine ⟨place :: added, ?_, ?_⟩
    · rw [extended, append_assoc, append_assoc]
      rfl
    · rw [map_append, map_singleton] at enqueued
      rw [enqueued, append_assoc, append_assoc]
      rfl

structure Tracing (next : α → List α) (goal : α → Bool) (start : α) (visited : List α)
    (queue : List (α × List α)) (found : List α) : Prop where
  searching : Searching next start [] visited (queue.map Prod.fst) found
  missed : ∀ place ∈ found, goal place = false
  trails : ∀ entry ∈ queue, Trail next start entry.1 entry.2
  seen : ∀ entry ∈ queue, ∀ place ∈ entry.2, place ∈ visited

variable {goal : α → Bool}

omit [DecidableEq α] in
theorem tracing_start (goal : α → Bool) (start : α) :
    Tracing next goal start [start] [(start, [start])] [] where
  searching := searching_start not_mem_nil
  missed := nofun
  trails := by
    intro entry mem
    obtain rfl := mem_singleton.mp mem
    exact trail_start start
  seen := by
    intro entry mem place listed
    obtain rfl := mem_singleton.mp mem
    exact listed

variable {queue : List (α × List α)}

theorem Tracing.turn {path visited found : List α}
    (tracing : Tracing next goal start visited ((current, path) :: queue) found)
    (miss : goal current = false) :
    ∃ after, (next current).foldl (extend path) (visited, queue) = after ∧
      Tracing next goal start after.1 after.2 (found ++ [current]) := by
  obtain ⟨added, extended, enqueued⟩ := extend_spec path (next current) visited queue
  obtain ⟨fresh, spec, -, unseen, -⟩ := enqueue_spec (next current) visited (queue.map Prod.fst)
  obtain ⟨turned, later, searching⟩ := tracing.searching.turn
  have sameFresh : added = fresh := append_cancel_left (Prod.mk.inj (enqueued.symm.trans spec)).1
  have sameTurned : added = turned := append_cancel_left (Prod.mk.inj (enqueued.symm.trans later)).1
  subst sameFresh sameTurned
  have here := tracing.trails (current, path) mem_cons_self
  refine ⟨_, extended, ?_, ?_, ?_, ?_⟩
  · have places : (queue ++ added.map fun place => (place, path ++ [place])).map Prod.fst =
        queue.map Prod.fst ++ added := by
      rw [map_append, map_map]
      exact congrArg _ (map_id added)
    rw [places]
    exact searching
  · intro place mem
    obtain old | last := mem_append.mp mem
    · exact tracing.missed place old
    · rw [mem_singleton.mp last]
      exact miss
  · intro entry mem
    obtain old | new := mem_append.mp mem
    · exact tracing.trails entry (mem_cons_of_mem _ old)
    obtain ⟨place, listed, rfl⟩ := mem_map.mp new
    obtain ⟨notSeen, step⟩ := unseen place listed
    apply here.extend step
    intro onPath
    exact notSeen (tracing.seen _ mem_cons_self place onPath)
  · intro entry mem place listed
    obtain old | new := mem_append.mp mem
    · exact mem_append_left _ (tracing.seen entry (mem_cons_of_mem _ old) place listed)
    obtain ⟨other, fresh, rfl⟩ := mem_map.mp new
    obtain onPath | last := mem_append.mp listed
    · exact mem_append_left _ (tracing.seen _ mem_cons_self place onPath)
    · rw [mem_singleton.mp last]
      exact mem_append_right _ fresh

inductive Traced (next : α → List α) (goal : α → Bool) (start : α) : List α → Prop
  | none (unreachable : ∀ place, Reaches next start place → goal place = false) :
      Traced next goal start []
  | path (last : α) (path : List α) (trail : Trail next start last path)
      (reached : goal last = true) : Traced next goal start path

variable {places : List α}

theorem Tracing.pathTo (within : ∀ place, Reaches next start place → place ∈ places) (rounds : Nat)
    {visited found : List α} (tracing : Tracing next goal start visited queue found)
    (enough : places.length < found.length + rounds) :
    Traced next goal start (pathTo next goal rounds visited queue) := by
  induction rounds generalizing visited queue found with
  | zero =>
    have bound : found.length ≤ places.length := by
      have distinct := (nodup_append.mp tracing.searching.distinct).1
      apply (distinct.subperm _).length_le
      intro place mem
      exact within place (tracing.searching.reached place (mem_append_left _ mem))
    omega
  | succ rounds ih =>
    cases queue with
    | nil =>
      have finished := tracing.searching.finish
      have closed : Closed next found := by
        intro place mem other step
        exact ((finished.known other).mp (finished.closed place mem other step)).resolve_left
          not_mem_nil
      apply Traced.none
      intro place reaches
      exact tracing.missed place (closed.reaches reaches finished.begun)
    | cons entry queue =>
      obtain ⟨current, path⟩ := entry
      rw [QueueSearch.pathTo]
      split
      · next reached =>
        exact Traced.path current path (tracing.trails _ mem_cons_self) reached
      rename_i missed
      obtain ⟨after, result, later⟩ := tracing.turn (Bool.eq_false_iff.mpr missed)
      rw [result]
      apply ih later
      rw [length_append, length_singleton]
      omega

theorem pathTo_traced (goal : α → Bool)
    (within : ∀ place, Reaches next start place → place ∈ places)
    (enough : places.length < rounds) :
    Traced next goal start (pathTo next goal rounds [start] [(start, [start])]) := by
  apply (tracing_start goal start).pathTo within
  rw [length_nil]
  omega

end QueueSearch

end GtnhPlatform
