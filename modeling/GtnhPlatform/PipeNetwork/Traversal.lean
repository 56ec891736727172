import GtnhPlatform.Data.QueueSearch
import GtnhPlatform.PipeNetwork.Manager

namespace GtnhPlatform.PipeNetwork

open List QueueSearch

namespace PipeNetworkManager

def Linked (manager : PipeNetworkManager) (node other : Nat) : Prop :=
  ∃ edge ∈ manager.edges.values,
    edge.fromNode = node ∧ edge.toNode = other ∨ edge.toNode = node ∧ edge.fromNode = other

def Connected (manager : PipeNetworkManager) : Nat → Nat → Prop :=
  Relation.ReflTransGen manager.Linked

variable (manager : PipeNetworkManager)

theorem mem_neighbours_iff (node other : Nat) :
    other ∈ manager.neighbours node ↔ manager.Linked node other := by
  simp only [neighbours, mem_flatMap, mem_append]
  apply exists_congr
  intro edge
  apply and_congr_right
  intro _
  constructor
  · rintro (mem | mem)
    · split at mem
      · next same => exact Or.inl ⟨same, (mem_singleton.mp mem).symm⟩
      · cases mem
    · split at mem
      · next same => exact Or.inr ⟨same, (mem_singleton.mp mem).symm⟩
      · cases mem
  · rintro (⟨same, rfl⟩ | ⟨same, rfl⟩)
    · exact Or.inl (by rw [if_pos same]; exact mem_singleton_self _)
    · exact Or.inr (by rw [if_pos same]; exact mem_singleton_self _)

theorem Linked.symm {manager : PipeNetworkManager} {node other : Nat}
    (linked : manager.Linked node other) : manager.Linked other node := by
  obtain ⟨edge, mem, ends⟩ := linked
  refine ⟨edge, mem, ?_⟩
  rcases ends with ⟨here, there⟩ | ⟨here, there⟩
  · exact Or.inr ⟨there, here⟩
  · exact Or.inl ⟨there, here⟩

theorem step_neighbours : QueueSearch.Step manager.neighbours = manager.Linked := by
  funext node other
  exact propext (manager.mem_neighbours_iff node other)

instance (manager : PipeNetworkManager) : Std.Symm (QueueSearch.Step manager.neighbours) := by
  rw [step_neighbours]
  exact ⟨fun _ _ => Linked.symm⟩

theorem reaches_neighbours : QueueSearch.Reaches manager.neighbours = manager.Connected := by
  rw [QueueSearch.Reaches, step_neighbours]
  rfl

theorem Connected.symm {manager : PipeNetworkManager} {node other : Nat}
    (connected : manager.Connected node other) : manager.Connected other node := by
  have : Std.Symm manager.Linked := ⟨fun _ _ => Linked.symm⟩
  exact Std.Symm.symm _ _ (r := Relation.ReflTransGen manager.Linked) connected

theorem enqueueFresh_eq (neighbours visited queue : List Nat) :
    enqueueFresh visited queue neighbours = enqueue visited queue neighbours := by
  induction neighbours generalizing visited queue with
  | nil => rfl
  | cons neighbour rest ih =>
    rw [enqueueFresh, enqueue, ih, ih]

theorem bfs_eq (rounds : Nat) (visited queue component : List Nat) :
    manager.bfs rounds visited queue component =
      search manager.neighbours rounds visited queue component := by
  induction rounds generalizing visited queue component with
  | zero => rfl
  | succ rounds ih =>
    cases queue with
    | nil => rfl
    | cons current queue =>
      rw [bfs, search, enqueueFresh_eq]
      exact ih _ _ _

/-- No more nodes are connected to one than the edges have ends. -/
def rounds : Nat := 2 * manager.edges.entries.length + 1

theorem bfsNetwork_eq (start : Nat) (visited : List Nat) : manager.bfsNetwork start visited =
      searchFrom manager.neighbours manager.rounds start visited :=
  manager.bfs_eq _ _ _ _

theorem components_eq (nodes visited : List Nat) : manager.components visited nodes =
      QueueSearch.components manager.neighbours manager.rounds visited nodes := by
  induction nodes generalizing visited with
  | nil => rfl
  | cons node rest ih =>
    rw [components, QueueSearch.components, bfsNetwork_eq, ih]
    split
    · rfl
    · exact congrArg _ (ih _)

def edgeEnds : List Nat :=
  manager.edges.values.flatMap fun edge => [edge.fromNode, edge.toNode]

theorem length_edgeEnds : manager.edgeEnds.length = 2 * manager.edges.entries.length := by
  rw [edgeEnds, Table.values]
  induction manager.edges.entries with
  | nil => rfl
  | cons entry rest ih =>
    rw [map_cons, flatMap_cons, length_append, ih, length_cons]
    exact Nat.add_comm 2 _

variable {start node : Nat}

theorem mem_of_connected {manager : PipeNetworkManager} (connected : manager.Connected start node) :
    node ∈ start :: manager.edgeEnds := by
  cases connected with
  | refl => exact mem_cons_self
  | tail _ linked =>
    apply mem_cons_of_mem
    obtain ⟨edge, mem, ends⟩ := linked
    apply mem_flatMap.mpr
    refine ⟨edge, mem, ?_⟩
    rcases ends with ⟨-, there⟩ | ⟨-, there⟩
    · rw [there]
      exact mem_cons_of_mem _ (mem_singleton_self node)
    · rw [there]
      exact mem_cons_self

theorem reachable_places (start : Nat) : ∃ places : List Nat, places.length ≤ manager.rounds ∧
      ∀ node, QueueSearch.Reaches manager.neighbours start node → node ∈ places := by
  refine ⟨start :: manager.edgeEnds, ?_, ?_⟩
  · rw [length_cons, length_edgeEnds, rounds]
  · rw [reaches_neighbours]
    exact fun node => mem_of_connected

theorem bfsNetwork_found {start : Nat} (fresh : start ∉ passed) :
    QueueSearch.Found manager.neighbours start passed (manager.bfsNetwork start passed) := by
  obtain ⟨places, bound, within⟩ := manager.reachable_places start
  rw [bfsNetwork_eq]
  exact searchFrom_found fresh within bound

theorem components_found : QueueSearch.Components manager.neighbours [] manager.nodes.keys
      (manager.components [] manager.nodes.keys) := by
  rw [components_eq]
  exact QueueSearch.components_spec (fun start _ => manager.reachable_places start) nofun

theorem discoverNetwork_nodup (start : Nat) : (manager.discoverNetwork start).Nodup := by
  unfold discoverNetwork
  split
  · exact (manager.bfsNetwork_found not_mem_nil).distinct
  · exact nodup_nil

variable {manager : PipeNetworkManager}

theorem mem_discoverNetwork_iff : node ∈ manager.discoverNetwork start ↔
      (manager.nodes.lookup start).isSome ∧ manager.Connected start node := by
  unfold discoverNetwork
  split
  · next alive =>
    have found : QueueSearch.Found manager.neighbours start [] (manager.bfsNetwork start []) :=
      manager.bfsNetwork_found not_mem_nil
    rw [found.mem_iff nofun, reaches_neighbours]
    exact (and_iff_right alive).symm
  · next absent => exact iff_of_false not_mem_nil fun both => absent both.1

theorem connected_of_mem_discoverNetwork
    (mem : node ∈ manager.discoverNetwork start) : manager.Connected start node :=
  (mem_discoverNetwork_iff.mp mem).2

def NetworksDistinct (manager : PipeNetworkManager) : Prop :=
  ∀ id network, manager.networks.lookup id = some network → network.nodeIds.Nodup

theorem components_nodup :
    ∀ component ∈ manager.components [] manager.nodes.keys, component.Nodup :=
  (nodup_flatten.mp manager.components_found.distinct).1

theorem NetworksDistinct.install {describe : Nat → List Nat → Network}
    (lists : ∀ id component, (describe id component).nodeIds = component)
    {components : List (List Nat)} (distinct : ∀ component ∈ components, component.Nodup)
    {manager : PipeNetworkManager} (networks : manager.NetworksDistinct) :
    (installNetworks describe manager components).NetworksDistinct := by
  induction components generalizing manager with
  | nil => exact networks
  | cons component rest ih =>
    apply ih fun other mem => distinct other (mem_cons_of_mem _ mem)
    intro id network found
    rw [Table.lookup_insert_eq] at found
    split at found
    · cases found
      rw [lists]
      exact distinct component mem_cons_self
    · exact networks id network found

theorem rebuildNetworks_distinct : manager.rebuildNetworks.NetworksDistinct := by
  apply NetworksDistinct.install (fun _ _ => rfl) manager.components_nodup
  intro id network found
  rw [AList.lookup_empty] at found
  cases found

end PipeNetworkManager

end GtnhPlatform.PipeNetwork
