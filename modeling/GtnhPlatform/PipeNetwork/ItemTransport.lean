import GtnhPlatform.PipeNetwork.Service

namespace GtnhPlatform.PipeNetwork

structure ConsumedItemEvent where
  sinkNodeId : Nat
  sourceNodeId : Nat
  item : ItemSlot
  position : Position

namespace PipeNode

def hasItemRoom (node : PipeNode) : Bool :=
  decide (node.itemBuffer.length < node.itemCapacity) || node.itemCapacity == 0

def isItemSource (node : PipeNode) : Bool := node.domains.item.isSource && !node.itemBuffer.isEmpty

def isOpenSink (node : PipeNode) : Bool := node.domains.item.isSink && node.hasItemRoom

def dropItem (node : PipeNode) : PipeNode := { node with itemBuffer := node.itemBuffer.dropLast }

def pushItem (slot : ItemSlot) (node : PipeNode) : PipeNode :=
  { node with itemBuffer := node.itemBuffer ++ [slot] }

end PipeNode

namespace PipeNetworkManager

/-- The neighbours of one node: the first open sink among them ends the loop, and pipes
are queued. -/
def scanNeighbours (manager : PipeNetworkManager) (visited queue : List Nat) :
    List Nat → List Nat × List Nat × Nat
  | [] => (visited, queue, 0)
  | neighbour :: rest =>
    if neighbour ∈ visited then scanNeighbours manager visited queue rest
    else
      match manager.nodes.lookup neighbour with
      | none => scanNeighbours manager (visited ++ [neighbour]) queue rest
      | some node =>
        if node.isOpenSink then (visited ++ [neighbour], queue, neighbour)
        else if 0 < node.itemCapacity then
          scanNeighbours manager (visited ++ [neighbour]) (queue ++ [neighbour]) rest
        else scanNeighbours manager (visited ++ [neighbour]) queue rest

/-- The queue loop, until a sink is found; 0 is none. A node is queued once, when it is
first visited, so the number of edge ends bounds the rounds. -/
def nearestSinkFrom (manager : PipeNetworkManager) : Nat → List Nat → List Nat → Nat
  | 0, _, _ => 0
  | _, _, [] => 0
  | rounds + 1, visited, current :: queue =>
    let (visited, queue, bestSink) :=
      manager.scanNeighbours visited queue (manager.neighbours current)
    if bestSink ≠ 0 then bestSink else nearestSinkFrom manager rounds visited queue

variable (manager : PipeNetworkManager)

def nearestSink (srcId : Nat) : Nat :=
  manager.nearestSinkFrom (2 * manager.edges.entries.length + 1) [srcId] [srcId]

def putItem (srcId bestSink : Nat) (moving : ItemSlot) :
    PipeNetworkManager × List ConsumedItemEvent :=
  match manager.nodes.lookup bestSink with
  | none => (manager, [])
  | some sink =>
    if 0 < sink.itemCapacity ∧ sink.itemBuffer.length < sink.itemCapacity then
      (manager.updateNode bestSink (PipeNode.pushItem moving), [])
    else (manager, [⟨bestSink, srcId, moving, sink.position⟩])

/-- The turn of `moveItemsInNetwork`'s loop for one source. -/
def moveFrom (srcId : Nat) : PipeNetworkManager × List ConsumedItemEvent :=
  match (manager.nodes.lookup srcId).bind fun src => src.itemBuffer.getLast? with
  | none => (manager, [])
  | some moving =>
    let bestSink := manager.nearestSink srcId
    if bestSink = 0 then (manager, [])
    else (manager.updateNode srcId PipeNode.dropItem).putItem srcId bestSink moving

def moveFromEach (manager : PipeNetworkManager) :
    List Nat → PipeNetworkManager × List ConsumedItemEvent
  | [] => (manager, [])
  | srcId :: rest =>
    let (moved, events) := manager.moveFrom srcId
    let (last, later) := moveFromEach moved rest
    (last, events ++ later)

def itemNodesWhere (network : Network) (choose : PipeNode → Bool) : List Nat :=
  network.itemNodes.filter fun nodeId => (manager.nodes.lookup nodeId).any choose

/-- Nothing moves in a network that has no sink of its own with room. -/
def moveItemsInNetwork (network : Network) : PipeNetworkManager × List ConsumedItemEvent :=
  if manager.itemNodesWhere network PipeNode.isOpenSink = [] then (manager, [])
  else manager.moveFromEach (manager.itemNodesWhere network PipeNode.isItemSource)

def moveInEach (manager : PipeNetworkManager) :
    List Network → PipeNetworkManager × List ConsumedItemEvent
  | [] => (manager, [])
  | network :: rest =>
    let (moved, events) := manager.moveItemsInNetwork network
    let (last, later) := moveInEach moved rest
    (last, events ++ later)

def tickItemNetworks : PipeNetworkManager × List ConsumedItemEvent :=
  manager.rebuildItemNetworks.moveInEach manager.rebuildItemNetworks.networks.values

end PipeNetworkManager

structure ItemTransferReq where
  nodeId : Nat
  itemId : UInt16
  count : Int8

structure ItemTransferResp where
  transferred : Int
  remaining : Int

/-- A request is accepted whole or not at all; the accepted count is a `uint8_t`. -/
def PipeNetworkService.handleItemTransferRequest (service : PipeNetworkService)
    (request : ItemTransferReq) : PipeNetworkService × ItemTransferResp :=
  match service.protocolToMgr.lookup request.nodeId with
  | none => (service, ⟨0, request.count.toInt⟩)
  | some nodeId =>
    (service.withManager fun manager =>
      (manager.setNodeItemProps nodeId 0 true false).addNodeItem nodeId
        ⟨request.itemId.toNat, request.count.toUInt8.toNat⟩,
      ⟨request.count.toInt, 0⟩)

end GtnhPlatform.PipeNetwork
