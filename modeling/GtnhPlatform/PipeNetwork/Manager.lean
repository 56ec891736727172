import GtnhPlatform.Common.ResourcePort
import GtnhPlatform.Data.Table
import GtnhPlatform.Data.Word

namespace GtnhPlatform.PipeNetwork

open GtnhPlatform.Common

/-! The transport graph of the pipe service, with one state of each node for each
resource domain. -/

structure Position where
  x : Int
  y : Int
  z : Int
  deriving DecidableEq

/-- The packed key of a position: 22 bits of `x`, 20 of `y` and 20 of `z`. -/
def pipePosKey (position : Position) : Nat := ((position.x % 2 ^ 22).toNat <<< 42) |||
    ((position.y % 2 ^ 20).toNat <<< 20) ||| (position.z % 2 ^ 20).toNat

def blockIdFluidPipe : Nat := 63488
def blockIdItemPipe : Nat := 63489
def blockIdDenseItemPipe : Nat := 63490
def blockIdDenseFluidPipe : Nat := 63491
def blockIdHeatPipe : Nat := 63492

def isPipe (blockId : Nat) : Bool := decide (63488 ≤ blockId) && decide (blockId < 64512)

structure DomainNodeState where
  isSource : Bool := false
  isSink : Bool := false
  rate : Int := 0
  faceMask : Nat := 0
  deriving DecidableEq

/-- One slot for each enumerated resource kind. -/
structure Domains where
  fluid : DomainNodeState := {}
  eu : DomainNodeState := {}
  hu : DomainNodeState := {}
  ru : DomainNodeState := {}
  item : DomainNodeState := {}

namespace Domains

def get (domains : Domains) : ResourceKind → DomainNodeState
  | .fluid => domains.fluid
  | .eu => domains.eu
  | .hu => domains.hu
  | .ru => domains.ru
  | .item => domains.item
  | .unknown _ => {}

-- A kind outside the enumeration has no slot.
def set (domains : Domains) (state : DomainNodeState) : ResourceKind → Domains
  | .fluid => { domains with fluid := state }
  | .eu => { domains with eu := state }
  | .hu => { domains with hu := state }
  | .ru => { domains with ru := state }
  | .item => { domains with item := state }
  | .unknown _ => domains

end Domains

/-- The kinds `kResourceDomainCount` counts, in the order of their values. -/
def resourceDomains : List ResourceKind := [.fluid, .eu, .hu, .ru, .item]

namespace Domains

theorem get_set (domains : Domains) (state : DomainNodeState) (kind : ResourceKind)
    (enumerated : other ∈ resourceDomains) :
    (domains.set state kind).get other = if other = kind then state else domains.get other := by
  cases other <;> cases kind <;> simp_all [resourceDomains, get, set]

end Domains

structure ItemSlot where
  itemId : Nat
  count : Nat
  deriving DecidableEq

structure PipeNode where
  id : Nat
  position : Position
  blockId : Nat
  blockMeta : Nat := 0
  energyBuffer : Int := 0
  energyCapacity : Int := 0
  fluidBuffer : Int := 0
  fluidCapacity : Int := 0
  fluidId : Nat := 0
  itemBuffer : List ItemSlot := []
  itemCapacity : Nat := 0
  heatStored : Int := 0
  heatCapacity : Int := 0
  sideConfig : List Nat := []
  domains : Domains := {}

structure InternalEdge where
  id : Nat
  fromNode : Nat
  toNode : Nat
  deriving DecidableEq

structure Network where
  id : Nat
  nodeIds : List Nat
  totalEnergy : Int := 0
  totalFluid : Int := 0
  fluidId : Nat := 0
  isActive : Bool := false
  itemNodes : List Nat := []
  deriving DecidableEq

structure PortKey where
  ownerId : Nat
  resourceKind : ResourceKind
  portId : PortId
  deriving DecidableEq

structure FluidTransferResult where
  requestId : Nat
  nodeId : Nat
  fluidId : Nat
  acceptedAmount : Int := 0
  remaining : Int := 0
  blocked : Bool := false
  deriving DecidableEq

structure FluidTransaction where
  result : FluidTransferResult
  requestedAmount : Int
  expiresAt : Nat

structure PipeNetworkManager where
  nodes : Table Nat PipeNode := ∅
  edges : Table Nat InternalEdge := ∅
  nodeToNetwork : Table Nat Nat := ∅
  networks : Table Nat Network := ∅
  nodeByPos : Table Nat Nat := ∅
  ports : Table PortKey ResourcePort := ∅
  fluidTransactions : Table Nat FluidTransaction := ∅
  fluidTick : Nat := 0
  nextNodeId : Nat := 1
  nextEdgeId : Nat := 1
  nextNetworkId : Nat := 1

namespace PipeNetworkManager

variable (manager : PipeNetworkManager)

def neighbours (node : Nat) : List Nat :=
  manager.edges.values.flatMap fun edge =>
    (if edge.fromNode = node then [edge.toNode] else []) ++
      (if edge.toNode = node then [edge.fromNode] else [])

def enqueueFresh (visited queue : List Nat) : List Nat → List Nat × List Nat
  | [] => (visited, queue)
  | neighbour :: rest =>
    if neighbour ∈ visited then enqueueFresh visited queue rest
    else enqueueFresh (visited ++ [neighbour]) (queue ++ [neighbour]) rest

/-- The queue loop of `bfsNetwork`. A node is queued once, when it is first
visited, so the number of edge ends bounds the rounds. -/
def bfs (manager : PipeNetworkManager) :
    Nat → List Nat → List Nat → List Nat → List Nat × List Nat
  | 0, visited, _, component => (visited, component)
  | _, visited, [], component => (visited, component)
  | rounds + 1, visited, current :: queue, component =>
    let (visited, queue) := enqueueFresh visited queue (manager.neighbours current)
    bfs manager rounds visited queue (component ++ [current])

def bfsNetwork (startNode : Nat) (visited : List Nat) : List Nat × List Nat :=
  manager.bfs (2 * manager.edges.entries.length + 1) (visited ++ [startNode]) [startNode] []

def discoverNetwork (startNodeId : Nat) : List Nat :=
  if (manager.nodes.lookup startNodeId).isSome then (manager.bfsNetwork startNodeId []).2
  else []

def components (manager : PipeNetworkManager) : List Nat → List Nat → List (List Nat)
  | _, [] => []
  | visited, node :: rest =>
    if node ∈ visited then components manager visited rest
    else
      let (visited, component) := manager.bfsNetwork node visited
      component :: components manager visited rest

def nodesOf (component : List Nat) : List PipeNode :=
  component.filterMap fun node => manager.nodes.lookup node

def networkFluid (nodes : List PipeNode) : Nat :=
  let fluids := (nodes.map (·.fluidId)).filter (· != 0)
  match fluids with
  | [] => 0
  | first :: rest => if rest.all (· == first) then first else 0

def networkOf (netId : Nat) (component : List Nat) : Network where
  id := netId
  nodeIds := component
  totalEnergy := wrapI32 ((manager.nodesOf component).map (·.energyBuffer)).sum
  totalFluid := wrapI32 ((manager.nodesOf component).map (·.fluidBuffer)).sum
  fluidId := networkFluid (manager.nodesOf component)

def itemNetworkOf (netId : Nat) (component : List Nat) : Network :=
  { manager.networkOf netId component with
    fluidId := 0
    itemNodes := component.filter fun node =>
      (manager.nodes.lookup node).any fun node => decide (0 < node.itemCapacity) }

def installNetworks (describe : Nat → List Nat → Network)
    (manager : PipeNetworkManager) : List (List Nat) → PipeNetworkManager
  | [] => manager
  | component :: rest =>
    installNetworks describe
      { manager with
        networks := AList.insert manager.nextNetworkId
          (describe manager.nextNetworkId component) manager.networks
        nodeToNetwork := component.foldl
          (fun table node => AList.insert node manager.nextNetworkId table)
          manager.nodeToNetwork
        nextNetworkId := manager.nextNetworkId + 1 } rest

def rebuildWith (describe : PipeNetworkManager → Nat → List Nat → Network)
    (manager : PipeNetworkManager) : PipeNetworkManager :=
  installNetworks (describe manager) { manager with networks := ∅, nodeToNetwork := ∅ }
    (manager.components [] manager.nodes.keys)

def rebuildNetworks : PipeNetworkManager :=
  manager.rebuildWith networkOf

def rebuildItemNetworks : PipeNetworkManager :=
  manager.rebuildWith itemNetworkOf

def findNodeAtPosition (position : Position) : Nat :=
  (manager.nodeByPos.lookup (pipePosKey position)).getD 0

def portPosition (port : ResourcePort) : Position := ⟨port.x, port.y, port.z⟩

def contribute (state : DomainNodeState) (port : ResourcePort) : DomainNodeState where
  isSource := state.isSource || port.role == PortRole.source
  isSink := state.isSink || port.role == PortRole.sink
  rate := max state.rate port.rate
  faceMask := state.faceMask ||| port.faceMask

def portsAt (ports : Table PortKey ResourcePort) (kind : ResourceKind)
    (position : Position) : List ResourcePort :=
  ports.select fun key port =>
    decide (key.resourceKind = kind) && decide (portPosition port = position)

def projection (ports : Table PortKey ResourcePort) (kind : ResourceKind)
    (position : Position) : DomainNodeState :=
  (portsAt ports kind position).foldl contribute {}

def updateNode (nodeId : Nat) (change : PipeNode → PipeNode) : PipeNetworkManager :=
  match manager.nodes.lookup nodeId with
  | none => manager
  | some node => { manager with nodes := AList.insert nodeId (change node) manager.nodes }

def projectNodeDomain (nodeId : Nat) (kind : ResourceKind) : PipeNetworkManager :=
  manager.updateNode nodeId fun node =>
    { node with domains := node.domains.set (projection manager.ports kind node.position) kind }

def portKey (port : ResourcePort) : PortKey := ⟨port.ownerId, port.resourceKind, port.portId⟩

/-- Whether `registerPort` stores the port: it has an identity and its epoch
is not older than the stored one. -/
def acceptsPort (port : ResourcePort) : Bool :=
  decide (port.portId ≠ 0) &&
    !(manager.ports.lookup (portKey port)).any fun stored => decide (port.epoch < stored.epoch)

def registerPort (port : ResourcePort) : PipeNetworkManager × Bool :=
  if manager.acceptsPort port then
    let stored := { manager with ports := AList.insert (portKey port) port manager.ports }
    (stored.projectNodeDomain (stored.findNodeAtPosition (portPosition port))
      port.resourceKind, true)
  else (manager, false)

def erasePort (key : PortKey) (port : ResourcePort) : PipeNetworkManager :=
  let erased := { manager with ports := manager.ports.erase key }
  erased.projectNodeDomain (erased.findNodeAtPosition (portPosition port)) key.resourceKind

def removePort (key : PortKey) (epoch : Nat) : PipeNetworkManager × Bool :=
  if key.portId = 0 then (manager, false)
  else
    match manager.ports.lookup key with
    | none => (manager, false)
    | some port =>
      if port.epoch ≠ epoch then (manager, false) else (manager.erasePort key port, true)

def removePortAnyEpoch (key : PortKey) : PipeNetworkManager × Bool :=
  if key.portId = 0 then (manager, false)
  else
    match manager.ports.lookup key with
    | none => (manager, false)
    | some port => (manager.erasePort key port, true)

def projectAffected (manager : PipeNetworkManager) :
    List (Position × ResourceKind) → PipeNetworkManager
  | [] => manager
  | (position, kind) :: rest =>
    projectAffected
      (manager.projectNodeDomain (manager.findNodeAtPosition position) kind) rest

def ownedPorts (ownerId : Nat) : List (Position × ResourceKind) :=
  (manager.ports.entries.filter fun entry => entry.1.ownerId = ownerId).map fun entry =>
    (portPosition entry.2, entry.1.resourceKind)

def removePortsForOwner (ownerId : Nat) : PipeNetworkManager × Nat :=
  let affected := manager.ownedPorts ownerId
  (projectAffected
    { manager with ports := manager.ports.filter fun key _ => decide (key.ownerId ≠ ownerId) }
    affected, affected.length)

/-- `while (nodes_.find(nextNodeId_) != end) ++nextNodeId_`. -/
def skipTaken (nodes : Table Nat PipeNode) : Nat → Nat → Nat
  | 0, id => id
  | rounds + 1, id => if (nodes.lookup id).isSome then skipTaken nodes rounds (id + 1) else id

def nodeOf (id : Nat) (position : Position) (blockId : Nat) : PipeNode :=
  let node : PipeNode := { id := id, position := position, blockId := blockId }
  if blockId = blockIdItemPipe then { node with itemCapacity := 4 }
  else if blockId = blockIdDenseItemPipe then { node with itemCapacity := 16 }
  else if blockId = blockIdFluidPipe then { node with fluidCapacity := 1000 }
  else if blockId = blockIdDenseFluidPipe then { node with fluidCapacity := 4000 }
  else if blockId = blockIdHeatPipe then { node with heatCapacity := 1000 }
  else node

def projectDomains (manager : PipeNetworkManager) (nodeId : Nat) :
    List ResourceKind → PipeNetworkManager
  | [] => manager
  | kind :: rest => projectDomains (manager.projectNodeDomain nodeId kind) nodeId rest

def indexNodePosition (nodeId : Nat) (position : Position) : PipeNetworkManager :=
  projectDomains
    { manager with nodeByPos := AList.insert (pipePosKey position) nodeId manager.nodeByPos }
    nodeId resourceDomains

/-- The common tail of `addNode` and `addNodeWithId`. -/
def installNode (id : Nat) (position : Position) (blockId : Nat) : PipeNetworkManager :=
  let stored := { manager with nodes := AList.insert id (nodeOf id position blockId) manager.nodes }
  (stored.indexNodePosition id position).rebuildNetworks

def addNode (position : Position) (blockId : Nat) : PipeNetworkManager × Nat :=
  let id := skipTaken manager.nodes manager.nodes.entries.length manager.nextNodeId
  (installNode { manager with nextNodeId := id + 1 } id position blockId, id)

def addNodeWithId (id : Nat) (position : Position) (blockId : Nat) : PipeNetworkManager × Bool :=
  if (manager.nodes.lookup id).isSome then (manager, false)
  else (manager.installNode id position blockId, true)

def dropEdges (nodeId : Nat) : PipeNetworkManager :=
  { manager with
    edges := manager.edges.filter fun _ edge =>
      !(edge.fromNode == nodeId || edge.toNode == nodeId) }

def removeNode (nodeId : Nat) : PipeNetworkManager :=
  match manager.nodes.lookup nodeId with
  | none => manager
  | some node =>
    let posKey := pipePosKey node.position
    let unlinked := manager.dropEdges nodeId
    rebuildNetworks
      { unlinked with
        nodeByPos :=
          if unlinked.nodeByPos.lookup posKey = some nodeId then unlinked.nodeByPos.erase posKey
          else unlinked.nodeByPos
        nodes := unlinked.nodes.erase nodeId }

/-- Two nodes share at most one edge, in either direction. -/
def findEdge (fromNode toNode : Nat) : Option Nat :=
  (manager.edges.values.find? fun edge =>
    (edge.fromNode == fromNode && edge.toNode == toNode) ||
      (edge.fromNode == toNode && edge.toNode == fromNode)).map (·.id)

def storeEdge (fromNode toNode : Nat) : PipeNetworkManager :=
  { manager with
    edges := AList.insert manager.nextEdgeId ⟨manager.nextEdgeId, fromNode, toNode⟩ manager.edges
    nextEdgeId := manager.nextEdgeId + 1 }

def bothPresent (fromNode toNode : Nat) : Bool :=
  (manager.nodes.lookup fromNode).isSome && (manager.nodes.lookup toNode).isSome

def addEdge (fromNode toNode : Nat) : PipeNetworkManager × Nat :=
  if !manager.bothPresent fromNode toNode then (manager, 0)
  else
    match manager.findEdge fromNode toNode with
    | some edgeId => (manager, edgeId)
    | none => ((manager.storeEdge fromNode toNode).rebuildNetworks, manager.nextEdgeId)

/-- The loop of `addEdges`, with the number of edges it has added. -/
def storeEdges (manager : PipeNetworkManager) : List (Nat × Nat) → PipeNetworkManager × Nat
  | [] => (manager, 0)
  | (fromNode, toNode) :: rest =>
    if manager.bothPresent fromNode toNode && (manager.findEdge fromNode toNode).isNone then
      let (stored, added) := storeEdges (manager.storeEdge fromNode toNode) rest
      (stored, added + 1)
    else storeEdges manager rest

def addEdges (nodePairs : List (Nat × Nat)) : PipeNetworkManager × Nat :=
  let (stored, added) := manager.storeEdges nodePairs
  (if added ≠ 0 then stored.rebuildNetworks else stored, added)

def removeEdge (edgeId : Nat) : PipeNetworkManager :=
  rebuildNetworks { manager with edges := manager.edges.erase edgeId }

def removeEdgesForNode (nodeId : Nat) : PipeNetworkManager :=
  (manager.dropEdges nodeId).rebuildNetworks

def setNodeMeta (nodeId blockMeta : Nat) : PipeNetworkManager :=
  manager.updateNode nodeId fun node => { node with blockMeta := blockMeta }

/-- The legacy setters write one pair of roles into one domain. -/
def setRoles (kind : ResourceKind) (isSource isSink : Bool) (domains : Domains) : Domains :=
  domains.set { domains.get kind with isSource := isSource, isSink := isSink } kind

def setNodeEnergy (nodeId : Nat) (energy capacity : Int)
    (isSource isSink : Bool) : PipeNetworkManager :=
  manager.updateNode nodeId fun node =>
    { node with
      energyBuffer := energy
      energyCapacity := capacity
      domains := setRoles .eu isSource isSink node.domains }

def setNodeFluid (nodeId : Nat) (fluid capacity : Int)
    (fluidId : Nat) (isSource isSink : Bool) : PipeNetworkManager :=
  manager.updateNode nodeId fun node =>
    { node with
      fluidBuffer := fluid
      fluidCapacity := capacity
      fluidId := fluidId
      domains := setRoles .fluid isSource isSink node.domains }

def setNodeItemProps (nodeId itemCapacity : Nat)
    (isItemSource isItemSink : Bool) : PipeNetworkManager :=
  manager.updateNode nodeId fun node =>
    { node with
      itemCapacity := itemCapacity
      domains := setRoles .item isItemSource isItemSink node.domains }

def addNodeItem (nodeId : Nat) (slot : ItemSlot) : PipeNetworkManager :=
  manager.updateNode nodeId fun node => { node with itemBuffer := node.itemBuffer ++ [slot] }

def setNodeHeat (nodeId : Nat) (heat capacity : Int)
    (isSource isSink : Bool) : PipeNetworkManager :=
  manager.updateNode nodeId fun node =>
    { node with
      heatStored := heat
      heatCapacity := capacity
      domains := setRoles .hu isSource isSink node.domains }

def setNodeSideConfig (nodeId : Nat) (sideConfig : List Nat) : PipeNetworkManager :=
  manager.updateNode nodeId fun node => { node with sideConfig := sideConfig }

structure Rewired (before after : PipeNetworkManager) : Prop where
  nodes : after.nodes = before.nodes
  ports : after.ports = before.ports
  transactions : after.fluidTransactions = before.fluidTransactions
  tick : after.fluidTick = before.fluidTick
  counter : after.nextNodeId = before.nextNodeId

namespace Rewired

variable (manager : PipeNetworkManager)

theorem refl : Rewired manager manager := ⟨rfl, rfl, rfl, rfl, rfl⟩

theorem trans (before : Rewired first second) (after : Rewired second third) :
    Rewired first third :=
  ⟨after.nodes.trans before.nodes, after.ports.trans before.ports,
    after.transactions.trans before.transactions, after.tick.trans before.tick,
    after.counter.trans before.counter⟩

theorem installNetworks (describe : Nat → List Nat → Network) (manager : PipeNetworkManager)
    (found : List (List Nat)) :
    Rewired manager (PipeNetworkManager.installNetworks describe manager found) := by
  induction found generalizing manager with
  | nil => exact refl manager
  | cons component rest ih =>
    refine trans ?_ (ih _)
    exact ⟨rfl, rfl, rfl, rfl, rfl⟩

theorem rebuildWith (describe : PipeNetworkManager → Nat → List Nat → Network) :
    Rewired manager (manager.rebuildWith describe) := by
  refine trans ?_ (installNetworks _ _ _)
  exact ⟨rfl, rfl, rfl, rfl, rfl⟩

theorem rebuildNetworks : Rewired manager manager.rebuildNetworks := rebuildWith _ _

theorem rebuildItemNetworks : Rewired manager manager.rebuildItemNetworks := rebuildWith _ _

theorem addEdge (fromNode toNode : Nat) : Rewired manager (manager.addEdge fromNode toNode).1 := by
  unfold PipeNetworkManager.addEdge
  split
  · exact refl manager
  split
  · exact refl manager
  · refine trans ?_ (rebuildNetworks _)
    exact ⟨rfl, rfl, rfl, rfl, rfl⟩

theorem storeEdges (nodePairs : List (Nat × Nat)) :
    Rewired manager (manager.storeEdges nodePairs).1 := by
  induction nodePairs generalizing manager with
  | nil => exact refl manager
  | cons pair rest ih =>
    simp only [PipeNetworkManager.storeEdges]
    split
    · refine trans ?_ (ih _)
      exact ⟨rfl, rfl, rfl, rfl, rfl⟩
    · exact ih manager

theorem addEdges (nodePairs : List (Nat × Nat)) :
    Rewired manager (manager.addEdges nodePairs).1 := by
  simp only [PipeNetworkManager.addEdges]
  split
  · exact (storeEdges manager nodePairs).trans (rebuildNetworks _)
  · exact storeEdges manager nodePairs

theorem removeEdge (edgeId : Nat) : Rewired manager (manager.removeEdge edgeId) := by
  refine trans ?_ (rebuildNetworks _)
  exact ⟨rfl, rfl, rfl, rfl, rfl⟩

theorem removeEdgesForNode (nodeId : Nat) :
    Rewired manager (manager.removeEdgesForNode nodeId) := by
  refine trans ?_ (rebuildNetworks _)
  exact ⟨rfl, rfl, rfl, rfl, rfl⟩

end Rewired

end PipeNetworkManager

end GtnhPlatform.PipeNetwork
