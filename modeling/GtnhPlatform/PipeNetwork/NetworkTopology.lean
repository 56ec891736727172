import GtnhPlatform.PipeNetwork.PortProjection
import GtnhPlatform.PipeNetwork.Traversal

namespace GtnhPlatform.PipeNetwork

open List

namespace PipeNetworkManager

def alive (manager : PipeNetworkManager) (nodeId : Nat) : Bool :=
  (manager.nodes.lookup nodeId).isSome

structure NetworksAreComponents (manager : PipeNetworkManager) : Prop where
  endpoints : ∀ id edge, manager.edges.lookup id = some edge →
    manager.alive edge.fromNode = true ∧ manager.alive edge.toNode = true
  covered : ∀ node, manager.alive node = true ↔
    ∃ id network, manager.networks.lookup id = some network ∧ node ∈ network.nodeIds
  once : ∀ first second network other, manager.networks.lookup first = some network →
    manager.networks.lookup second = some other →
      ∀ node ∈ network.nodeIds, node ∈ other.nodeIds → first = second
  distinct : manager.NetworksDistinct
  component : ∀ id network, manager.networks.lookup id = some network →
    network.nodeIds ≠ [] ∧ ∀ node ∈ network.nodeIds, ∀ other,
      other ∈ network.nodeIds ↔ manager.Connected node other
  mapped : ∀ node id, manager.nodeToNetwork.lookup node = some id ↔
    ∃ network, manager.networks.lookup id = some network ∧ node ∈ network.nodeIds
  discovered : ∀ node, manager.alive node = true → (manager.discoverNetwork node).Nodup ∧
    ∀ other, other ∈ manager.discoverNetwork node ↔ manager.Connected node other

/-- Edges only join live nodes. -/
def EdgesAlive (manager : PipeNetworkManager) : Prop :=
  ∀ id edge, manager.edges.lookup id = some edge →
    manager.alive edge.fromNode = true ∧ manager.alive edge.toNode = true

theorem lookup_foldl_insert (component : List Nat) (id : Nat) (table : Table Nat Nat) (node : Nat) :
    (component.foldl (fun table node => AList.insert node id table) table).lookup node =
      if node ∈ component then some id else table.lookup node := by
  induction component generalizing table with
  | nil => rfl
  | cons first rest ih =>
    rw [foldl_cons, ih, Table.lookup_insert_eq]
    by_cases later : node ∈ rest
    · rw [if_pos later, if_pos (mem_cons_of_mem _ later)]
    rw [if_neg later]
    by_cases here : node = first
    · rw [if_pos here, if_pos (mem_cons.mpr (Or.inl here))]
    · rw [if_neg here, if_neg fun mem => (mem_cons.mp mem).elim here later]

variable {describe : Nat → List Nat → Network} {components : List (List Nat)}

variable {manager : PipeNetworkManager}

theorem lookup_networks_install
    (fresh : ∀ id, manager.nextNetworkId ≤ id → manager.networks.lookup id = none) (id : Nat)
    (network : Network) :
    (installNetworks describe manager components).networks.lookup id = some network ↔
      manager.networks.lookup id = some network ∨
        ∃ index component, components[index]? = some component ∧
          id = manager.nextNetworkId + index ∧ network = describe id component := by
  induction components generalizing manager with
  | nil =>
    refine (or_iff_left ?_).symm
    rintro ⟨index, component, found, -⟩
    exact nomatch found
  | cons component rest ih =>
    rw [installNetworks, ih]
    · dsimp only
      rw [Table.lookup_insert_eq]
      constructor
      · rintro (stored | ⟨index, other, found, rfl, rfl⟩)
        · split at stored
          · next here =>
            exact Or.inr ⟨0, component, rfl, here, by rw [here]; exact (Option.some.inj stored).symm⟩
          · exact Or.inl stored
        · exact Or.inr ⟨index + 1, other, found, by omega, rfl⟩
      · rintro (stored | ⟨index, other, found, rfl, rfl⟩)
        · rw [if_neg]
          · exact Or.inl stored
          · rintro rfl
            rw [fresh _ le_rfl] at stored
            exact nomatch stored
        · cases index with
          | zero =>
            cases found
            exact Or.inl (if_pos rfl)
          | succ index => exact Or.inr ⟨index, other, found, by omega, rfl⟩
    · intro other above
      dsimp only at above ⊢
      rw [Table.lookup_insert_eq, if_neg (by omega)]
      exact fresh other (by omega)

theorem lookup_nodeToNetwork_install (distinct : components.flatten.Nodup)
    (fresh : ∀ node ∈ components.flatten, manager.nodeToNetwork.lookup node = none)
    (node id : Nat) :
    (installNetworks describe manager components).nodeToNetwork.lookup node = some id ↔
      manager.nodeToNetwork.lookup node = some id ∨
        ∃ index component, components[index]? = some component ∧
          id = manager.nextNetworkId + index ∧ node ∈ component := by
  induction components generalizing manager with
  | nil =>
    refine (or_iff_left ?_).symm
    rintro ⟨index, component, found, -⟩
    exact nomatch found
  | cons component rest ih =>
    rw [flatten_cons] at distinct fresh
    obtain ⟨-, later, apart⟩ := nodup_append.mp distinct
    rw [installNetworks, ih later]
    · dsimp only
      rw [lookup_foldl_insert]
      constructor
      · rintro (stored | ⟨index, other, found, rfl, mem⟩)
        · split at stored
          · next here =>
            exact Or.inr ⟨0, component, rfl, (Option.some.inj stored).symm, here⟩
          · exact Or.inl stored
        · exact Or.inr ⟨index + 1, other, found, by omega, mem⟩
      · rintro (stored | ⟨index, other, found, rfl, mem⟩)
        · rw [if_neg]
          · exact Or.inl stored
          · intro here
            rw [fresh node (mem_append_left _ here)] at stored
            exact nomatch stored
        · cases index with
          | zero =>
            cases found
            exact Or.inl (if_pos mem)
          | succ index => exact Or.inr ⟨index, other, found, by omega, mem⟩
    · intro other mem
      rw [lookup_foldl_insert, if_neg]
      · exact fresh other (mem_append_right _ mem)
      · intro here
        exact apart other here other mem rfl

theorem installNetworks_edges (describe : Nat → List Nat → Network) (components : List (List Nat))
    (manager : PipeNetworkManager) :
    (installNetworks describe manager components).edges = manager.edges := by
  induction components generalizing manager with
  | nil => rfl
  | cons component rest ih => exact ih _

section Rebuild

variable {describe : PipeNetworkManager → Nat → List Nat → Network} {manager : PipeNetworkManager}

theorem rebuildWith_nodes : (manager.rebuildWith describe).nodes = manager.nodes :=
  (Rewired.rebuildWith _ _).nodes

theorem rebuildWith_edges : (manager.rebuildWith describe).edges = manager.edges :=
  installNetworks_edges _ _ _

theorem lookup_rebuildWith_networks (id : Nat) (network : Network) :
    (manager.rebuildWith describe).networks.lookup id = some network ↔
      ∃ index component, (manager.components [] manager.nodes.keys)[index]? = some component ∧
        id = manager.nextNetworkId + index ∧ network = describe manager id component := by
  rw [rebuildWith, lookup_networks_install]
  · refine or_iff_right ?_
    rw [AList.lookup_empty]
    exact nofun
  · intro other _
    exact AList.lookup_empty other

theorem lookup_rebuildWith_nodeToNetwork (node id : Nat) :
    (manager.rebuildWith describe).nodeToNetwork.lookup node = some id ↔
      ∃ index component, (manager.components [] manager.nodes.keys)[index]? = some component ∧
        id = manager.nextNetworkId + index ∧ node ∈ component := by
  rw [rebuildWith, lookup_nodeToNetwork_install manager.components_found.distinct]
  · refine or_iff_right ?_
    rw [AList.lookup_empty]
    exact nofun
  · intro other _
    exact AList.lookup_empty other

theorem mem_keys_iff_alive (node : Nat) :
    node ∈ manager.nodes.keys ↔ manager.alive node = true := by
  rw [alive, AList.lookup_isSome]
  exact Iff.rfl

theorem alive_of_connected (edges : manager.EdgesAlive) (present : manager.alive node = true)
    (connected : manager.Connected node other) : manager.alive other = true := by
  induction connected with
  | refl => exact present
  | tail _ linked =>
    obtain ⟨edge, mem, ends⟩ := linked
    obtain ⟨id, stored⟩ := Table.mem_values_iff.mp mem
    have both := edges id edge stored
    rcases ends with ⟨-, rfl⟩ | ⟨-, rfl⟩
    · exact both.2
    · exact both.1

theorem connected_congr {other : PipeNetworkManager} (same : other.edges = manager.edges) :
    other.Connected = manager.Connected := by
  have linked : other.Linked = manager.Linked := by
    funext node neighbour
    rw [Linked, Linked, same]
  rw [Connected, Connected, linked]

variable {component : List Nat}

variable (listed : component ∈ manager.components [] manager.nodes.keys)

include listed

theorem mem_component_iff (mem : node ∈ component) (other : Nat) :
    other ∈ component ↔ manager.Connected node other := by
  obtain ⟨start, -, same⟩ := manager.components_found.component component listed
  rw [reaches_neighbours] at same
  rw [same] at mem
  rw [same]
  exact ⟨mem.symm.trans, mem.trans⟩

theorem component_ne_nil : component ≠ [] := by
  obtain ⟨start, -, same⟩ := manager.components_found.component component listed
  exact ne_nil_of_mem ((same start).mpr Relation.ReflTransGen.refl)

omit listed

theorem alive_iff_mem_component (edges : manager.EdgesAlive) (node : Nat) :
    manager.alive node = true ↔
      ∃ component ∈ manager.components [] manager.nodes.keys, node ∈ component := by
  rw [← mem_flatten, ← mem_keys_iff_alive]
  constructor
  · intro present
    exact (manager.components_found.covered node present).resolve_left not_mem_nil
  intro mem
  obtain ⟨component, listed, here⟩ := mem_flatten.mp mem
  obtain ⟨start, present, same⟩ := manager.components_found.component component listed
  rw [reaches_neighbours] at same
  rw [mem_keys_iff_alive] at present ⊢
  exact alive_of_connected edges present ((same node).mp here)

theorem rebuildWith_networks (edges : manager.EdgesAlive)
    (lists : ∀ id component, (describe manager id component).nodeIds = component) :
    (manager.rebuildWith describe).NetworksAreComponents := by
  have nodes : (manager.rebuildWith describe).alive = manager.alive := by
    funext node
    rw [alive, rebuildWith_nodes, alive]
  have connected : (manager.rebuildWith describe).Connected = manager.Connected :=
    connected_congr rebuildWith_edges
  constructor
  · rw [rebuildWith_edges, nodes]
    exact edges
  · intro node
    rw [nodes, alive_iff_mem_component edges]
    constructor
    · rintro ⟨component, listed, mem⟩
      obtain ⟨index, found⟩ := mem_iff_getElem?.mp listed
      refine ⟨_, _, (lookup_rebuildWith_networks _ _).mpr ⟨index, component, found, rfl, rfl⟩, ?_⟩
      rw [lists]
      exact mem
    · rintro ⟨id, network, stored, mem⟩
      obtain ⟨index, component, found, -, rfl⟩ := (lookup_rebuildWith_networks _ _).mp stored
      rw [lists] at mem
      exact ⟨component, mem_of_getElem? found, mem⟩
  · intro first second network other stored storedOther node here there
    obtain ⟨index, component, found, rfl, rfl⟩ := (lookup_rebuildWith_networks _ _).mp stored
    obtain ⟨place, list, foundOther, rfl, rfl⟩ := (lookup_rebuildWith_networks _ _).mp storedOther
    rw [lists] at here there
    rw [manager.components_found.index_eq found foundOther here there]
  · intro id network stored
    obtain ⟨index, component, found, -, rfl⟩ := (lookup_rebuildWith_networks _ _).mp stored
    rw [lists]
    exact manager.components_nodup component (mem_of_getElem? found)
  · intro id network stored
    obtain ⟨index, component, found, -, rfl⟩ := (lookup_rebuildWith_networks _ _).mp stored
    rw [lists, connected]
    have listed := mem_of_getElem? found
    exact ⟨component_ne_nil listed, fun node mem => mem_component_iff listed mem⟩
  · intro node id
    rw [lookup_rebuildWith_nodeToNetwork]
    constructor
    · rintro ⟨index, component, found, rfl, mem⟩
      refine ⟨_, (lookup_rebuildWith_networks _ _).mpr ⟨index, component, found, rfl, rfl⟩, ?_⟩
      rw [lists]
      exact mem
    · rintro ⟨network, stored, mem⟩
      obtain ⟨index, component, found, same, rfl⟩ := (lookup_rebuildWith_networks _ _).mp stored
      rw [lists] at mem
      exact ⟨index, component, found, same, mem⟩
  · intro node present
    refine ⟨discoverNetwork_nodup _ node, ?_⟩
    intro other
    rw [mem_discoverNetwork_iff]
    exact and_iff_right present

end Rebuild

variable {manager : PipeNetworkManager}

theorem rebuildNetworks_networks (edges : manager.EdgesAlive) :
    manager.rebuildNetworks.NetworksAreComponents :=
  rebuildWith_networks edges fun _ _ => rfl

theorem EdgesAlive.of_kept {other : PipeNetworkManager} (edges : manager.EdgesAlive)
    (kept : ∀ id edge, other.edges.lookup id = some edge → manager.edges.lookup id = some edge)
    (grows : ∀ node, manager.alive node = true → other.alive node = true) : other.EdgesAlive := by
  intro id edge stored
  have both := edges id edge (kept id edge stored)
  exact ⟨grows _ both.1, grows _ both.2⟩

variable (nodeId : Nat)

theorem alive_updateNode (change : PipeNode → PipeNode) (node : Nat) :
    (manager.updateNode nodeId change).alive node = manager.alive node := by
  rw [alive, lookup_updateNode, Option.isSome_map]
  rfl

theorem updateNode_edges (change : PipeNode → PipeNode) :
    (manager.updateNode nodeId change).edges = manager.edges := by
  unfold updateNode
  split <;> rfl

theorem projectDomains_edges (kinds : List Common.ResourceKind) (manager : PipeNetworkManager) :
    (manager.projectDomains nodeId kinds).edges = manager.edges := by
  induction kinds generalizing manager with
  | nil => rfl
  | cons kind rest ih =>
    rw [projectDomains, ih]
    exact updateNode_edges nodeId _

theorem alive_projectDomains (kinds : List Common.ResourceKind) (manager : PipeNetworkManager)
    (node : Nat) : (manager.projectDomains nodeId kinds).alive node = manager.alive node := by
  induction kinds generalizing manager with
  | nil => rfl
  | cons kind rest ih =>
    rw [projectDomains, ih]
    exact alive_updateNode nodeId _ node

theorem alive_insert (manager : PipeNetworkManager) (id : Nat) (stored : PipeNode) (node : Nat) :
    alive { manager with nodes := AList.insert id stored manager.nodes } node =
      (decide (node = id) || manager.alive node) := by
  rw [alive]
  rw [Table.lookup_insert_eq]
  by_cases here : node = id
  · rw [if_pos here, decide_eq_true here]
    rfl
  · rw [if_neg here, decide_eq_false here]
    rfl

theorem installNode_networks (edges : manager.EdgesAlive) (id : Nat) (position : Position)
    (blockId : Nat) : (manager.installNode id position blockId).NetworksAreComponents := by
  apply rebuildNetworks_networks
  apply edges.of_kept
  · intro edgeId edge stored
    rw [indexNodePosition, projectDomains_edges] at stored
    exact stored
  intro node present
  rw [indexNodePosition, alive_projectDomains]
  change alive { manager with nodes := _ } node = true
  rw [alive_insert, present, Bool.or_true]

theorem dropEdges_kept (nodeId id : Nat) (edge : InternalEdge)
    (stored : (manager.dropEdges nodeId).edges.lookup id = some edge) :
    manager.edges.lookup id = some edge ∧ edge.fromNode ≠ nodeId ∧ edge.toNode ≠ nodeId := by
  rw [dropEdges] at stored
  rw [Table.lookup_filter, Option.filter_eq_some_iff] at stored
  simpa using stored

theorem removeNode_networks (networks : manager.NetworksAreComponents) (nodeId : Nat) :
    (manager.removeNode nodeId).NetworksAreComponents := by
  rw [removeNode]
  cases present : manager.nodes.lookup nodeId with
  | none => exact networks
  | some node =>
    apply rebuildNetworks_networks
    intro id edge stored
    obtain ⟨before, fromOther, toOther⟩ := dropEdges_kept nodeId id edge stored
    have both := networks.endpoints id edge before
    have stays : ∀ other, other ≠ nodeId → manager.alive other = true →
        ((manager.nodes.erase nodeId).lookup other).isSome = true := by
      intro other apart alive
      rw [Table.lookup_erase_eq, if_neg apart]
      exact alive
    exact ⟨stays _ fromOther both.1, stays _ toOther both.2⟩

theorem storeEdge_edges (edges : manager.EdgesAlive)
    (present : manager.bothPresent fromNode toNode = true) :
    (manager.storeEdge fromNode toNode).EdgesAlive := by
  intro id edge stored
  rw [storeEdge] at stored
  rw [Table.lookup_insert_eq] at stored
  split at stored
  · cases stored
    exact Bool.and_eq_true_iff.mp present
  · exact edges id edge stored

theorem addEdge_networks (networks : manager.NetworksAreComponents) (fromNode toNode : Nat) :
    (manager.addEdge fromNode toNode).1.NetworksAreComponents := by
  rw [addEdge]
  split
  · exact networks
  rename_i present
  rw [Bool.not_eq_true, Bool.not_eq_false'] at present
  cases manager.findEdge fromNode toNode with
  | some edgeId => exact networks
  | none => exact rebuildNetworks_networks (storeEdge_edges networks.endpoints present)

theorem storeEdges_edges (nodePairs : List (Nat × Nat)) {manager : PipeNetworkManager}
    (edges : manager.EdgesAlive) : (manager.storeEdges nodePairs).1.EdgesAlive := by
  induction nodePairs generalizing manager with
  | nil => exact edges
  | cons pair rest ih =>
    rw [storeEdges]
    split
    · next new =>
      exact ih (storeEdge_edges edges (Bool.and_eq_true_iff.mp new).1)
    · exact ih edges

theorem storeEdges_none (nodePairs : List (Nat × Nat)) (manager : PipeNetworkManager)
    (none : (manager.storeEdges nodePairs).2 = 0) : (manager.storeEdges nodePairs).1 = manager := by
  induction nodePairs with
  | nil => rfl
  | cons pair rest ih =>
    rw [storeEdges] at none ⊢
    split at none
    · cases none
    · next old =>
      rw [if_neg old]
      exact ih none

theorem addEdges_networks (networks : manager.NetworksAreComponents)
    (nodePairs : List (Nat × Nat)) : (manager.addEdges nodePairs).1.NetworksAreComponents := by
  rw [addEdges]
  dsimp only
  split
  · exact rebuildNetworks_networks (storeEdges_edges nodePairs networks.endpoints)
  · next none =>
    rw [storeEdges_none nodePairs manager (not_not.mp none)]
    exact networks

theorem removeEdge_networks (edges : manager.EdgesAlive) (edgeId : Nat) :
    (manager.removeEdge edgeId).NetworksAreComponents := by
  apply rebuildNetworks_networks
  apply edges.of_kept
  · intro id edge stored
    rw [Table.lookup_erase_eq] at stored
    exact (Option.ite_none_left_eq_some.mp stored).2
  · exact fun node present => present

theorem removeEdgesForNode_networks (edges : manager.EdgesAlive) (nodeId : Nat) :
    (manager.removeEdgesForNode nodeId).NetworksAreComponents := by
  apply rebuildNetworks_networks
  apply edges.of_kept
  · exact fun id edge stored => (dropEdges_kept nodeId id edge stored).1
  · exact fun node present => present

end PipeNetworkManager

inductive TopologyInput where
  | addNode (position : Position) (blockId : Nat)
  | addNodeWithId (id : Nat) (position : Position) (blockId : Nat)
  | removeNode (nodeId : Nat)
  | addEdge (fromNode toNode : Nat)
  | addEdges (nodePairs : List (Nat × Nat))
  | removeEdge (edgeId : Nat)
  | removeEdgesForNode (nodeId : Nat)

namespace PipeNetworkManager

def edit (manager : PipeNetworkManager) : TopologyInput → PipeNetworkManager
  | .addNode position blockId => (manager.addNode position blockId).1
  | .addNodeWithId id position blockId => (manager.addNodeWithId id position blockId).1
  | .removeNode nodeId => manager.removeNode nodeId
  | .addEdge fromNode toNode => (manager.addEdge fromNode toNode).1
  | .addEdges nodePairs => (manager.addEdges nodePairs).1
  | .removeEdge edgeId => manager.removeEdge edgeId
  | .removeEdgesForNode nodeId => manager.removeEdgesForNode nodeId

def topology : Machine PipeNetworkManager TopologyInput Empty :=
  ⟨fun manager input => (manager.edit input, [])⟩

theorem edit_networks {manager : PipeNetworkManager} (networks : manager.NetworksAreComponents)
    (input : TopologyInput) : (manager.edit input).NetworksAreComponents := by
  have edges : manager.EdgesAlive := networks.endpoints
  cases input with
  | addNode position blockId =>
    rw [edit, addNode]
    apply installNode_networks
    exact edges
  | addNodeWithId id position blockId =>
    rw [edit, addNodeWithId]
    split
    · exact networks
    · exact installNode_networks edges id position blockId
  | removeNode nodeId => exact removeNode_networks networks nodeId
  | addEdge fromNode toNode => exact addEdge_networks networks fromNode toNode
  | addEdges nodePairs => exact addEdges_networks networks nodePairs
  | removeEdge edgeId => exact removeEdge_networks edges edgeId
  | removeEdgesForNode nodeId => exact removeEdgesForNode_networks edges nodeId

theorem empty_networks : NetworksAreComponents {} where
  endpoints := nofun
  covered := by
    intro node
    refine iff_of_false Bool.false_ne_true ?_
    rintro ⟨id, network, stored, -⟩
    exact nomatch stored
  once := nofun
  distinct := nofun
  component := nofun
  mapped := by
    intro node id
    refine iff_of_false nofun ?_
    rintro ⟨network, stored, -⟩
    exact nomatch stored
  discovered := nofun

/-- After any sequence of operations the networks are the connected components. -/
theorem networks_are_components (inputs : List TopologyInput) :
    (topology.final {} inputs).NetworksAreComponents := by
  induction inputs using reverseRecOn with
  | nil => exact empty_networks
  | append_singleton inputs input ih =>
    rw [Machine.final_concat]
    exact edit_networks ih input

end PipeNetworkManager

end GtnhPlatform.PipeNetwork
