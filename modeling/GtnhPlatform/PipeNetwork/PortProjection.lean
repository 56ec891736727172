import GtnhPlatform.Data.Machine
import GtnhPlatform.PipeNetwork.Manager

namespace GtnhPlatform.PipeNetwork

open GtnhPlatform.Common List

namespace PipeNetworkManager

variable (manager : PipeNetworkManager)

@[simp] theorem rebuildNetworks_nodes : manager.rebuildNetworks.nodes = manager.nodes :=
  (Rewired.rebuildNetworks manager).nodes

@[simp] theorem rebuildNetworks_ports : manager.rebuildNetworks.ports = manager.ports :=
  (Rewired.rebuildNetworks manager).ports

theorem lookup_updateNode (nodeId : Nat) (change : PipeNode → PipeNode) (other : Nat) :
    (manager.updateNode nodeId change).nodes.lookup other =
      (manager.nodes.lookup other).map fun node =>
        if other = nodeId then change node else node := by
  unfold updateNode
  cases present : manager.nodes.lookup nodeId with
  | none =>
    rcases eq_or_ne other nodeId with rfl | distinct
    · simp [present]
    · simp [distinct]
  | some node =>
    rw [Table.lookup_insert_eq]
    rcases eq_or_ne other nodeId with rfl | distinct
    · simp [present]
    · simp [distinct]

@[simp] theorem updateNode_ports (nodeId : Nat) (change : PipeNode → PipeNode) :
    (manager.updateNode nodeId change).ports = manager.ports := by
  unfold updateNode
  split <;> rfl

@[simp] theorem updateNode_nodeByPos (nodeId : Nat) (change : PipeNode → PipeNode) :
    (manager.updateNode nodeId change).nodeByPos = manager.nodeByPos := by
  unfold updateNode
  split <;> rfl

@[simp] theorem projectNodeDomain_ports (nodeId : Nat) (kind : ResourceKind) :
    (manager.projectNodeDomain nodeId kind).ports = manager.ports :=
  updateNode_ports manager nodeId _

@[simp] theorem projectNodeDomain_nodeByPos (nodeId : Nat) (kind : ResourceKind) :
    (manager.projectNodeDomain nodeId kind).nodeByPos = manager.nodeByPos :=
  updateNode_nodeByPos manager nodeId _

@[simp] theorem findNodeAtPosition_projectNodeDomain (nodeId : Nat) (kind : ResourceKind)
    (position : Position) : (manager.projectNodeDomain nodeId kind).findNodeAtPosition position =
      manager.findNodeAtPosition position := by
  simp [findNodeAtPosition]

variable {kind : ResourceKind} {node : PipeNode} {id : Nat}

theorem projectNodeDomain_spec {manager : PipeNetworkManager}
    (present : (manager.projectNodeDomain nodeId kind).nodes.lookup id = some node) :
    ∃ before, manager.nodes.lookup id = some before ∧ node.position = before.position ∧
      ∀ other ∈ resourceDomains, node.domains.get other =
        if id = nodeId ∧ other = kind then projection manager.ports kind before.position
        else before.domains.get other := by
  rw [projectNodeDomain, lookup_updateNode, Option.map_eq_some_iff] at present
  obtain ⟨before, found, rfl⟩ := present
  refine ⟨before, found, ?_, ?_⟩
  · split <;> rfl
  intro other enumerated
  rcases eq_or_ne id nodeId with same | distinct
  · simp [same, Domains.get_set _ _ _ enumerated]
  · simp [distinct]

theorem projectNodeDomain_lookup_isSome (nodeId : Nat) (kind : ResourceKind) (id : Nat) :
    ((manager.projectNodeDomain nodeId kind).nodes.lookup id).isSome =
      (manager.nodes.lookup id).isSome := by
  rw [projectNodeDomain, lookup_updateNode, Option.isSome_map]

@[simp] theorem projectAffected_ports (sites : List (Position × ResourceKind)) :
    (manager.projectAffected sites).ports = manager.ports := by
  induction sites generalizing manager with
  | nil => rfl
  | cons site rest ih =>
    exact (ih _).trans (projectNodeDomain_ports _ _ _)

theorem projectAffected_lookup_isSome (sites : List (Position × ResourceKind)) (id : Nat) :
    ((manager.projectAffected sites).nodes.lookup id).isSome =
      (manager.nodes.lookup id).isSome := by
  induction sites generalizing manager with
  | nil => rfl
  | cons site rest ih =>
    exact (ih _).trans (projectNodeDomain_lookup_isSome _ _ _ _)

def Recomputes (sites : List (Position × ResourceKind))
    (id : Nat) (kind : ResourceKind) : Prop :=
  ∃ position, (position, kind) ∈ sites ∧ manager.findNodeAtPosition position = id

theorem projectAffected_spec {manager : PipeNetworkManager}
    (present : (manager.projectAffected sites).nodes.lookup id = some node) :
    ∃ before, manager.nodes.lookup id = some before ∧ node.position = before.position ∧
      ∀ kind ∈ resourceDomains, (manager.Recomputes sites id kind →
          node.domains.get kind = projection manager.ports kind before.position) ∧
        (¬ manager.Recomputes sites id kind → node.domains.get kind = before.domains.get kind) := by
  induction sites generalizing manager with
  | nil =>
    refine ⟨node, present, rfl, ?_⟩
    intro kind _
    constructor
    · rintro ⟨position, mem, _⟩
      cases mem
    · intro _
      rfl
  | cons site rest ih =>
    obtain ⟨position, siteKind⟩ := site
    obtain ⟨middle, found, place, domains⟩ := ih present
    obtain ⟨before, stored, start, first⟩ := projectNodeDomain_spec found
    refine ⟨before, stored, place.trans start, ?_⟩
    intro kind enumerated
    have head := first kind enumerated
    obtain ⟨later, untouched⟩ := domains kind enumerated
    have tail : ∀ sites, (manager.projectNodeDomain (manager.findNodeAtPosition position)
        siteKind).Recomputes sites id kind ↔ manager.Recomputes sites id kind := by
      intro sites
      simp [Recomputes]
    rw [tail] at later untouched
    rw [projectNodeDomain_ports, start] at later
    by_cases again : manager.Recomputes rest id kind
    · constructor
      · intro _
        exact later again
      · intro never
        obtain ⟨other, mem, index⟩ := again
        exact absurd ⟨other, mem_cons_of_mem _ mem, index⟩ never
    · rw [untouched again, head]
      constructor
      · rintro ⟨other, mem, index⟩
        rcases mem_cons.mp mem with here | there
        · cases here
          rw [if_pos ⟨index.symm, rfl⟩]
        · exact absurd ⟨other, there, index⟩ again
      · intro never
        apply if_neg
        rintro ⟨index, rfl⟩
        exact never ⟨position, mem_cons_self, index.symm⟩

/-- The operations that move ports and nodes; the legacy setters are not among
them. -/
inductive PortOperation where
  | registerPort (port : ResourcePort)
  | removePort (key : PortKey) (epoch : Nat)
  | removePortAnyEpoch (key : PortKey)
  | removePortsForOwner (ownerId : Nat)
  | addNode (position : Position) (blockId : Nat)
  | addNodeWithId (id : Nat) (position : Position) (blockId : Nat)
  | removeNode (nodeId : Nat)

def perform : PortOperation → PipeNetworkManager
  | .registerPort port => (manager.registerPort port).1
  | .removePort key epoch => (manager.removePort key epoch).1
  | .removePortAnyEpoch key => (manager.removePortAnyEpoch key).1
  | .removePortsForOwner ownerId => (manager.removePortsForOwner ownerId).1
  | .addNode position blockId => (manager.addNode position blockId).1
  | .addNodeWithId id position blockId => (manager.addNodeWithId id position blockId).1
  | .removeNode nodeId => manager.removeNode nodeId

theorem perform_addNode (position : Position) (blockId : Nat) :
    manager.perform (.addNode position blockId) = installNode
        { manager with
          nextNodeId :=
            skipTaken manager.nodes manager.nodes.entries.length manager.nextNodeId + 1 }
        (skipTaken manager.nodes manager.nodes.entries.length manager.nextNodeId) position
        blockId := by
  rw [perform, addNode]

def portMachine : Machine PipeNetworkManager PortOperation Unit where
  step manager operation := (manager.perform operation, [])

/-- What an operation does to the ports: the table after it, the sites a port
leaves or enters, and the sites whose node it looks up and projects. -/
structure PortChange where
  ports : Table PortKey ResourcePort
  touched : List (Position × ResourceKind) := []
  projected : List (Position × ResourceKind) := []

def erasure (key : PortKey) (port : ResourcePort) : PortChange where
  ports := manager.ports.erase key
  touched := [(portPosition port, key.resourceKind)]
  projected := [(portPosition port, key.resourceKind)]

def portChange : PortOperation → PortChange
  | .registerPort port =>
    if manager.acceptsPort port then
      { ports := AList.insert (portKey port) port manager.ports
        touched := (portPosition port, port.resourceKind) ::
          (manager.ports.lookup (portKey port)).toList.map fun stored =>
            (portPosition stored, port.resourceKind)
        projected := [(portPosition port, port.resourceKind)] }
    else { ports := manager.ports }
  | .removePort key epoch =>
    match manager.ports.lookup key with
    | some port =>
      if key.portId ≠ 0 ∧ port.epoch = epoch then manager.erasure key port
      else { ports := manager.ports }
    | none => { ports := manager.ports }
  | .removePortAnyEpoch key =>
    match manager.ports.lookup key with
    | some port =>
      if key.portId ≠ 0 then manager.erasure key port else { ports := manager.ports }
    | none => { ports := manager.ports }
  | .removePortsForOwner ownerId =>
    { ports := manager.ports.filter fun key _ => decide (key.ownerId ≠ ownerId)
      touched := manager.ownedPorts ownerId
      projected := manager.ownedPorts ownerId }
  | _ => { ports := manager.ports }

def Projected : Prop :=
  ∀ id node, manager.nodes.lookup id = some node →
    ∀ kind ∈ resourceDomains, node.domains.get kind = projection manager.ports kind node.position

def ProjectsTouched (operation : PortOperation) : Prop :=
  ∀ position kind, (position, kind) ∈ (manager.portChange operation).touched →
    kind ∈ resourceDomains →
    ∀ id node, manager.nodes.lookup id = some node → node.position = position →
      manager.Recomputes (manager.portChange operation).projected id kind ∨
        projection (manager.portChange operation).ports kind position =
          projection manager.ports kind position

variable {position : Position}

theorem projection_erase {ports : Table PortKey ResourcePort} {key : PortKey}
    (stored : ports.lookup key = some port)
    (untouched : (position, kind) ≠ (portPosition port, key.resourceKind)) :
    projection (ports.erase key) kind position = projection ports kind position := by
  unfold projection portsAt
  rw [Table.select_erase]
  intro value found
  obtain rfl : port = value := Option.some.inj (stored.symm.trans found)
  rw [Bool.and_eq_false_iff, decide_eq_false_iff_not, decide_eq_false_iff_not]
  by_contra both
  push Not at both
  exact untouched (Prod.ext both.2.symm both.1.symm)

variable {operation : PortOperation}

theorem projection_of_untouched {manager : PipeNetworkManager}
    (untouched : (position, kind) ∉ (manager.portChange operation).touched) :
    projection (manager.portChange operation).ports kind position =
      projection manager.ports kind position := by
  cases operation with
  | registerPort port =>
    simp only [portChange] at untouched ⊢
    split
    · next accepted =>
      rw [if_pos accepted] at untouched
      obtain ⟨notNew, notOld⟩ := ne_and_not_mem_of_not_mem_cons untouched
      unfold projection portsAt
      rw [Table.select_insert]
      · intro stored found
        rw [Bool.and_eq_false_iff, decide_eq_false_iff_not, decide_eq_false_iff_not]
        by_contra both
        push Not at both
        apply notOld
        rw [found]
        exact mem_singleton.mpr (Prod.ext both.2.symm both.1.symm)
      · rw [Bool.and_eq_false_iff, decide_eq_false_iff_not, decide_eq_false_iff_not]
        by_contra both
        push Not at both
        exact notNew (Prod.ext both.2.symm both.1.symm)
    · rfl
  | removePort key epoch =>
    simp only [portChange] at untouched ⊢
    cases stored : manager.ports.lookup key with
    | none => rfl
    | some port =>
      simp only [stored] at untouched ⊢
      split
      · next removes =>
        rw [if_pos removes] at untouched
        exact projection_erase stored (ne_of_not_mem_cons untouched)
      · rfl
  | removePortAnyEpoch key =>
    simp only [portChange] at untouched ⊢
    cases stored : manager.ports.lookup key with
    | none => rfl
    | some port =>
      simp only [stored] at untouched ⊢
      split
      · next removes =>
        rw [if_pos removes] at untouched
        exact projection_erase stored (ne_of_not_mem_cons untouched)
      · rfl
  | removePortsForOwner ownerId =>
    simp only [portChange] at untouched ⊢
    unfold projection portsAt
    rw [Table.select_filter_of_kept]
    intro key port stored chosen
    rw [decide_eq_true_eq]
    rintro rfl
    rw [Bool.and_eq_true, decide_eq_true_eq, decide_eq_true_eq] at chosen
    apply untouched
    refine mem_map.mpr ⟨⟨key, port⟩, mem_filter.mpr ⟨?_, by simp⟩, ?_⟩
    · exact Table.mem_entries_iff.mpr stored
    · exact Prod.ext chosen.2 chosen.1
  | addNode position blockId => rfl
  | addNodeWithId id position blockId => rfl
  | removeNode nodeId => rfl

theorem perform_eq_projectAffected (operation : PortOperation)
    (movesPorts : (∃ port, operation = .registerPort port) ∨
      (∃ key epoch, operation = .removePort key epoch) ∨
      (∃ key, operation = .removePortAnyEpoch key) ∨
      ∃ ownerId, operation = .removePortsForOwner ownerId) :
    manager.perform operation =
      projectAffected { manager with ports := (manager.portChange operation).ports }
        (manager.portChange operation).projected := by
  rcases movesPorts with ⟨port, rfl⟩ | ⟨key, epoch, rfl⟩ | ⟨key, rfl⟩ | ⟨ownerId, rfl⟩
  · simp only [perform, registerPort, portChange]
    split <;> rfl
  · simp only [perform, removePort, portChange]
    cases manager.ports.lookup key with
    | none => split <;> rfl
    | some port =>
      by_cases named : key.portId = 0
      · simp [named, projectAffected]
      · by_cases current : port.epoch = epoch
        · simp [named, current, erasure, erasePort, projectAffected]
        · simp [named, current, projectAffected]
  · simp only [perform, removePortAnyEpoch, portChange]
    cases manager.ports.lookup key with
    | none => split <;> rfl
    | some port =>
      by_cases named : key.portId = 0
      · simp [named, projectAffected]
      · simp [named, erasure, erasePort, projectAffected]
  · rfl

theorem projected_of_portChange {manager : PipeNetworkManager} (before : manager.Projected) :
    (projectAffected { manager with ports := (manager.portChange operation).ports }
        (manager.portChange operation).projected).Projected ↔
      manager.ProjectsTouched operation := by
  constructor
  · intro after position kind touched enumerated id node present place
    by_cases recomputed : manager.Recomputes (manager.portChange operation).projected id kind
    · exact Or.inl recomputed
    right
    have live : (AList.lookup id (projectAffected
        { manager with ports := (manager.portChange operation).ports }
        (manager.portChange operation).projected).nodes).isSome := by
      rw [projectAffected_lookup_isSome]
      exact Option.isSome_iff_exists.mpr ⟨node, present⟩
    obtain ⟨current, found⟩ := Option.isSome_iff_exists.mp live
    obtain ⟨earlier, stored, same, domains⟩ := projectAffected_spec found
    obtain rfl : node = earlier := Option.some.inj (present.symm.trans stored)
    have shows := after id current found kind enumerated
    rw [projectAffected_ports, same, (domains kind enumerated).2 recomputed,
      before id node present kind enumerated, place] at shows
    exact shows.symm
  · intro touched id node present kind enumerated
    obtain ⟨earlier, stored, same, domains⟩ := projectAffected_spec present
    rw [projectAffected_ports, same]
    by_cases recomputed : manager.Recomputes (manager.portChange operation).projected id kind
    · exact (domains kind enumerated).1 recomputed
    rw [(domains kind enumerated).2 recomputed, before id earlier stored kind enumerated]
    by_cases site : (earlier.position, kind) ∈ (manager.portChange operation).touched
    · rcases touched _ _ site enumerated id earlier stored rfl with again | unchanged
      · exact absurd again recomputed
      · exact unchanged.symm
    · exact (projection_of_untouched site).symm

@[simp] theorem projectDomains_ports (nodeId : Nat) (kinds : List ResourceKind) :
    (manager.projectDomains nodeId kinds).ports = manager.ports := by
  induction kinds generalizing manager with
  | nil => rfl
  | cons kind rest ih =>
    exact (ih _).trans (projectNodeDomain_ports _ _ _)

variable {manager : PipeNetworkManager}

theorem projectDomains_spec
    (present : (manager.projectDomains nodeId kinds).nodes.lookup id = some node) :
    ∃ before, manager.nodes.lookup id = some before ∧ node.position = before.position ∧
      ∀ kind ∈ resourceDomains, node.domains.get kind =
        if id = nodeId ∧ kind ∈ kinds then projection manager.ports kind before.position
        else before.domains.get kind := by
  induction kinds generalizing manager with
  | nil =>
    refine ⟨node, present, rfl, ?_⟩
    intro kind _
    simp
  | cons head rest ih =>
    obtain ⟨middle, found, place, domains⟩ := ih present
    obtain ⟨before, stored, start, first⟩ := projectNodeDomain_spec found
    refine ⟨before, stored, place.trans start, ?_⟩
    intro kind enumerated
    rw [domains kind enumerated, projectNodeDomain_ports, start, first kind enumerated]
    by_cases same : id = nodeId
    · rcases eq_or_ne kind head with rfl | distinct
      · simp [same]
      · simp [same, distinct]
    · simp [same]

theorem installNode_projected (before : manager.Projected) (id : Nat)
    (position : Position) (blockId : Nat) :
    (manager.installNode id position blockId).Projected := by
  intro other node present kind enumerated
  simp only [installNode, indexNodePosition, rebuildNetworks_nodes, rebuildNetworks_ports,
    projectDomains_ports] at present ⊢
  obtain ⟨earlier, stored, place, domains⟩ := projectDomains_spec present
  rw [domains kind enumerated, place]
  rw [Table.lookup_insert_eq] at stored
  by_cases same : other = id
  · rw [if_pos ⟨same, enumerated⟩]
  · rw [if_neg (fun both => same both.1)]
    rw [if_neg same] at stored
    exact before other earlier stored kind enumerated

theorem removeNode_projected (before : manager.Projected)
    (nodeId : Nat) : (manager.removeNode nodeId).Projected := by
  unfold removeNode
  cases found : manager.nodes.lookup nodeId with
  | none => exact before
  | some removed =>
    intro id node present kind enumerated
    simp only [rebuildNetworks_nodes, rebuildNetworks_ports, dropEdges,
      Table.lookup_erase_eq] at present ⊢
    split at present
    · cases present
    · exact before id node present kind enumerated

theorem perform_projected_iff (before : manager.Projected) (operation : PortOperation) :
    (manager.perform operation).Projected ↔ manager.ProjectsTouched operation := by
  have idle : (manager.portChange operation).touched = [] →
      manager.ProjectsTouched operation := by
    intro nothing position kind touched
    rw [nothing] at touched
    cases touched
  cases operation with
  | registerPort port =>
    rw [perform_eq_projectAffected _ _ (Or.inl ⟨port, rfl⟩)]
    exact projected_of_portChange before
  | removePort key epoch =>
    rw [perform_eq_projectAffected _ _ (Or.inr (Or.inl ⟨key, epoch, rfl⟩))]
    exact projected_of_portChange before
  | removePortAnyEpoch key =>
    rw [perform_eq_projectAffected _ _ (Or.inr (Or.inr (Or.inl ⟨key, rfl⟩)))]
    exact projected_of_portChange before
  | removePortsForOwner ownerId =>
    rw [perform_eq_projectAffected _ _ (Or.inr (Or.inr (Or.inr ⟨ownerId, rfl⟩)))]
    exact projected_of_portChange before
  | addNode position blockId =>
    refine iff_of_true ?_ (idle rfl)
    rw [perform_addNode]
    apply installNode_projected
    exact before
  | addNodeWithId id position blockId =>
    refine iff_of_true ?_ (idle rfl)
    simp only [perform, addNodeWithId]
    split
    · exact before
    · dsimp only
      exact installNode_projected before id position blockId
  | removeNode nodeId =>
    exact iff_of_true (removeNode_projected before nodeId) (idle rfl)

theorem empty_projected : Projected {} := by
  intro id node present
  cases present

theorem run_projected_iff (operations : List PortOperation) :
    (∀ before after, operations = before ++ after → (portMachine.final {} before).Projected) ↔
      portMachine.Along ProjectsTouched {} operations := by
  have keeps : ∀ (current : PipeNetworkManager) (operation : PortOperation), current.Projected →
        ((portMachine.step current operation).1.Projected ↔ current.ProjectsTouched operation) := by
    intro current operation before
    exact perform_projected_iff before operation
  exact portMachine.always_iff keeps empty_projected operations

def movedPort (x : Int) (epoch : Nat) : ResourcePort where
  portId := 258
  ownerId := 1
  resourceKind := .fluid
  role := .source
  x := x
  y := 0
  z := 0
  facePolicy := .allFaces
  faceMask := 63
  capacity := 16000
  rate := 100
  epoch := epoch

theorem moved_port_leaves_source : ¬ (portMachine.final {} [.addNode ⟨0, 0, 0⟩ blockIdFluidPipe,
        .registerPort (movedPort 0 1), .registerPort (movedPort 1 2)]).Projected := by
  intro projected
  have node := projected 1 _ rfl .fluid (by decide)
  revert node
  decide

end PipeNetworkManager

end GtnhPlatform.PipeNetwork
