import GtnhPlatform.PipeNetwork.ItemTransport
import GtnhPlatform.PipeNetwork.Traversal

namespace GtnhPlatform.PipeNetwork

open List

namespace PipeNetworkManager

variable (manager : PipeNetworkManager)

def openSinkAt (nodeId : Nat) : Bool :=
  (manager.nodes.lookup nodeId).any PipeNode.isOpenSink

def pipeAt (nodeId : Nat) : Bool :=
  (manager.nodes.lookup nodeId).any fun node => decide (0 < node.itemCapacity)

def Piped : Nat → Nat → Prop :=
  Relation.ReflTransGen fun node other => manager.Linked node other ∧ manager.pipeAt other = true

def ItemPath (node other : Nat) : Prop :=
  ∃ last, manager.Piped node last ∧ manager.Linked last other

variable {manager : PipeNetworkManager} {node other : Nat}

theorem Piped.connected (piped : manager.Piped node other) : manager.Connected node other := by
  induction piped with
  | refl => exact Relation.ReflTransGen.refl
  | tail _ step ih => exact ih.tail step.1

theorem ItemPath.connected (path : manager.ItemPath node other) : manager.Connected node other := by
  obtain ⟨last, piped, linked⟩ := path
  exact piped.connected.tail linked

structure Passed (manager : PipeNetworkManager) (visited ends added : List Nat) : Prop where
  distinct : added.Nodup
  fresh : ∀ node ∈ added, node ∉ visited
  listed : ∀ node ∈ added, node ∈ ends
  closed : ∀ node ∈ added, manager.openSinkAt node = false

variable {visited ends added : List Nat}

theorem Passed.later (passed : manager.Passed visited ends added) (neighbour : Nat) :
    manager.Passed visited (neighbour :: ends) added :=
  ⟨passed.distinct, passed.fresh, fun node mem => mem_cons_of_mem _ (passed.listed node mem),
    passed.closed⟩

variable {neighbour : Nat}

theorem Passed.cons (passed : manager.Passed (visited ++ [neighbour]) ends added)
    (fresh : neighbour ∉ visited) (closed : manager.openSinkAt neighbour = false) :
    manager.Passed visited (neighbour :: ends) (neighbour :: added) where
  distinct := by
    refine nodup_cons.mpr ⟨?_, passed.distinct⟩
    intro mem
    apply passed.fresh neighbour mem
    exact mem_append_right _ (mem_singleton_self neighbour)
  fresh := by
    intro node mem
    obtain rfl | mem := mem_cons.mp mem
    · exact fresh
    · exact fun seen => passed.fresh node mem (mem_append_left _ seen)
  listed := by
    intro node mem
    obtain rfl | mem := mem_cons.mp mem
    · exact mem_cons_self
    · exact mem_cons_of_mem _ (passed.listed node mem)
  closed := by
    intro node mem
    obtain rfl | mem := mem_cons.mp mem
    · exact closed
    · exact passed.closed node mem

theorem Passed.piped {start current : Nat} {visited queue added : List Nat}
    (passed : manager.Passed visited (manager.neighbours current) added)
    (here : manager.Piped start current) (reached : ∀ node ∈ queue, manager.Piped start node) :
    ∀ node ∈ queue ++ added.filter manager.pipeAt, manager.Piped start node := by
  intro node mem
  obtain old | new := mem_append.mp mem
  · exact reached node old
  · obtain ⟨fresh, pipe⟩ := mem_filter.mp new
    exact here.tail ⟨(manager.mem_neighbours_iff _ _).mp (passed.listed node fresh), pipe⟩

variable {visited queue rest : List Nat}

theorem scanNeighbours_sink (fresh : neighbour ∉ visited)
    (sink : manager.openSinkAt neighbour = true) :
    manager.scanNeighbours visited queue (neighbour :: rest) =
      (visited ++ [neighbour], queue, neighbour) := by
  obtain ⟨node, stored, isOpen⟩ := (Option.any_eq_true _ _).mp sink
  rw [scanNeighbours, if_neg fresh, stored]
  exact if_pos isOpen

theorem scanNeighbours_pass (fresh : neighbour ∉ visited)
    (closed : manager.openSinkAt neighbour = false) :
    manager.scanNeighbours visited queue (neighbour :: rest) =
      manager.scanNeighbours (visited ++ [neighbour])
        (queue ++ [neighbour].filter manager.pipeAt) rest := by
  rw [openSinkAt] at closed
  rw [scanNeighbours, if_neg fresh, filter_singleton, pipeAt]
  cases stored : manager.nodes.lookup neighbour with
  | none => simp only [Option.any_none, cond_false, append_nil]
  | some node =>
    rw [stored, Option.any_some] at closed
    dsimp only
    rw [if_neg (Bool.eq_false_iff.mp closed), Option.any_some]
    split
    · next pipe => rw [decide_eq_true pipe, cond_true]
    · next wall => rw [decide_eq_false wall, cond_false, append_nil]

theorem scanNeighbours_spec (manager : PipeNetworkManager) (ends visited queue : List Nat) :
    ∃ added, manager.Passed visited ends added ∧ ((manager.scanNeighbours visited queue ends =
          (visited ++ added, queue ++ added.filter manager.pipeAt, 0) ∧
        ∀ node ∈ ends, node ∈ visited ++ added) ∨
      ∃ sink, manager.scanNeighbours visited queue ends =
          (visited ++ added ++ [sink], queue ++ added.filter manager.pipeAt, sink) ∧
        sink ∈ ends ∧ sink ∉ visited ∧ manager.openSinkAt sink = true) := by
  induction ends generalizing visited queue with
  | nil =>
    refine ⟨[], ⟨nodup_nil, nofun, nofun, nofun⟩, Or.inl ⟨?_, nofun⟩⟩
    rw [scanNeighbours, filter_nil, append_nil, append_nil]
  | cons neighbour rest ih =>
    by_cases seen : neighbour ∈ visited
    · rw [scanNeighbours, if_pos seen]
      obtain ⟨added, passed, ⟨result, all⟩ | ⟨sink, result, listed, fresh, isOpen⟩⟩ :=
        ih visited queue
      · refine ⟨added, passed.later neighbour, Or.inl ⟨result, ?_⟩⟩
        intro node mem
        obtain rfl | mem := mem_cons.mp mem
        · exact mem_append_left _ seen
        · exact all node mem
      · exact ⟨added, passed.later neighbour,
          Or.inr ⟨sink, result, mem_cons_of_mem _ listed, fresh, isOpen⟩⟩
    · by_cases isOpen : manager.openSinkAt neighbour = true
      · refine ⟨[], ⟨nodup_nil, nofun, nofun, nofun⟩,
          Or.inr ⟨neighbour, ?_, mem_cons_self, seen, isOpen⟩⟩
        rw [scanNeighbours_sink seen isOpen, filter_nil, append_nil, append_nil]
      have closed := Bool.eq_false_iff.mpr isOpen
      rw [scanNeighbours_pass seen closed]
      have gathered : ∀ added : List Nat,
          queue ++ [neighbour].filter manager.pipeAt ++ added.filter manager.pipeAt =
            queue ++ (neighbour :: added).filter manager.pipeAt := by
        intro added
        rw [append_assoc, ← filter_append]
        rfl
      obtain ⟨added, passed, ⟨result, all⟩ | ⟨sink, result, listed, fresh, ends⟩⟩ :=
        ih (visited ++ [neighbour]) (queue ++ [neighbour].filter manager.pipeAt)
      · refine ⟨neighbour :: added, passed.cons seen closed, Or.inl ⟨?_, ?_⟩⟩
        · rw [result, gathered, append_assoc]
          rfl
        intro node mem
        obtain rfl | mem := mem_cons.mp mem
        · exact mem_append_right _ mem_cons_self
        · have listed := all node mem
          rw [append_assoc] at listed
          exact listed
      · refine ⟨neighbour :: added, passed.cons seen closed, Or.inr ⟨sink, ?_, ?_, ?_, ends⟩⟩
        · rw [result, gathered, append_assoc visited]
          rfl
        · exact mem_cons_of_mem _ listed
        · exact fun old => fresh (mem_append_left _ old)

structure Seeking (manager : PipeNetworkManager) (start : Nat) (visited queue found : List Nat) :
    Prop where
  distinct : (found ++ queue).Nodup
  known : ∀ node ∈ found ++ queue, node ∈ visited
  reached : ∀ node ∈ found ++ queue, manager.Piped start node
  begun : start ∈ found ++ queue
  spread : ∀ node ∈ found, ∀ other, manager.Linked node other → other ∈ visited
  closed : ∀ node ∈ visited, node = start ∨ manager.openSinkAt node = false
  piped : ∀ node ∈ visited, manager.pipeAt node = true → node = start ∨ node ∈ found ++ queue

theorem Seeking.turn {start current : Nat} {visited queue found added : List Nat}
    (seeking : manager.Seeking start visited (current :: queue) found)
    (passed : manager.Passed visited (manager.neighbours current) added)
    (all : ∀ node ∈ manager.neighbours current, node ∈ visited ++ added) :
    manager.Seeking start (visited ++ added) (queue ++ added.filter manager.pipeAt)
      (found ++ [current]) := by
  have regroup : found ++ [current] ++ (queue ++ added.filter manager.pipeAt) =
      found ++ current :: queue ++ added.filter manager.pipeAt := by
    simp only [append_assoc, cons_append, nil_append]
  constructor
  · rw [regroup]
    refine nodup_append.mpr ⟨seeking.distinct, passed.distinct.filter _, ?_⟩
    rintro node seen other new rfl
    exact passed.fresh node (mem_of_mem_filter new) (seeking.known node seen)
  · intro node mem
    rw [regroup] at mem
    obtain seen | new := mem_append.mp mem
    · exact mem_append_left _ (seeking.known node seen)
    · exact mem_append_right _ (mem_of_mem_filter new)
  · rw [regroup]
    apply passed.piped _ seeking.reached
    exact seeking.reached current (mem_append_right _ mem_cons_self)
  · rw [regroup]
    exact mem_append_left _ seeking.begun
  · intro node mem other linked
    obtain done | here := mem_append.mp mem
    · exact mem_append_left _ (seeking.spread node done other linked)
    · obtain rfl := mem_singleton.mp here
      exact all other ((manager.mem_neighbours_iff node other).mpr linked)
  · intro node mem
    obtain seen | new := mem_append.mp mem
    · exact seeking.closed node seen
    · exact Or.inr (passed.closed node new)
  · intro node mem pipe
    rw [regroup]
    obtain seen | new := mem_append.mp mem
    · exact (seeking.piped node seen pipe).imp_right (mem_append_left _)
    · exact Or.inr (mem_append_right _ (mem_filter.mpr ⟨new, pipe⟩))

variable {start : Nat} {sink : Nat}

theorem nearestSinkFrom_sound {start rounds : Nat} {visited queue : List Nat}
    (begun : start ∈ visited) (reached : ∀ node ∈ queue, manager.Piped start node)
    (found : manager.nearestSinkFrom rounds visited queue ≠ 0) :
    manager.openSinkAt (manager.nearestSinkFrom rounds visited queue) = true ∧
      manager.nearestSinkFrom rounds visited queue ≠ start ∧
        manager.ItemPath start (manager.nearestSinkFrom rounds visited queue) := by
  induction rounds generalizing visited queue with
  | zero => exact absurd rfl found
  | succ rounds ih =>
    cases queue with
    | nil => exact absurd rfl found
    | cons current queue =>
      have here := reached current mem_cons_self
      have later := fun node mem => reached node (mem_cons_of_mem current mem)
      rw [nearestSinkFrom] at found ⊢
      obtain ⟨added, passed, ⟨scan, -⟩ | ⟨sink, scan, listed, fresh, isOpen⟩⟩ :=
        manager.scanNeighbours_spec (manager.neighbours current) visited queue
      · rw [scan] at found ⊢
        dsimp only at found ⊢
        rw [if_neg (not_not.mpr rfl)] at found ⊢
        exact ih (mem_append_left _ begun) (passed.piped here later) found
      · rw [scan] at found ⊢
        dsimp only at found ⊢
        have path : manager.ItemPath start sink :=
          ⟨current, here, (manager.mem_neighbours_iff _ _).mp listed⟩
        split at found
        · next found =>
          rw [if_pos found]
          exact ⟨isOpen, fun same => fresh (same ▸ begun), path⟩
        rename_i zero
        rw [if_neg zero]
        apply ih _ (passed.piped here later) found
        exact mem_append_left _ (mem_append_left _ begun)

theorem nearestSink_sound (found : manager.nearestSink start ≠ 0) :
    manager.openSinkAt (manager.nearestSink start) = true ∧ manager.nearestSink start ≠ start ∧
      manager.ItemPath start (manager.nearestSink start) := by
  apply nearestSinkFrom_sound (mem_singleton_self start) _ found
  intro node mem
  obtain rfl := mem_singleton.mp mem
  exact Relation.ReflTransGen.refl

end PipeNetworkManager

end GtnhPlatform.PipeNetwork
