import GtnhPlatform.PipeNetwork.ConsumeReplay
import GtnhPlatform.PipeNetwork.ConsumeTracker

namespace GtnhPlatform.PipeNetwork

open GtnhPlatform.Common

/-! The handlers of the pipe service that place and remove nodes and typed ports. -/

inductive EnergyType where
  | electricity
  | heat
  | steam
  | rotation
  deriving DecidableEq

structure NodeState where
  energy : Int := 0
  capacity : Int := 0
  type : EnergyType := .electricity
  fluidId : Nat := 0
  isSource : Bool := false
  isSink : Bool := false

structure ChunkKey where
  x : Int
  y : Int
  z : Int
  deriving DecidableEq

def isPipeBlock (blockId : Nat) : Bool :=
  blockId == blockIdItemPipe || blockId == blockIdFluidPipe || blockId == blockIdDenseItemPipe ||
    blockId == blockIdDenseFluidPipe || blockId == blockIdHeatPipe

/-- `isCableBlock`: the six keys of `CABLE_DEFS`, each with its definition. -/
def isCableBlock (blockId : Nat) : Bool := decide (62464 ≤ blockId) && decide (blockId < 62470)

/-- What a handler publishes about pendings, and which manager nodes it
removes. A pending completed with its pipe part answers its consumer with
`pipeAccepted` and `requested - pipeAccepted`. -/
inductive ServiceEvent where
  | nodeRemoved (nodeId : Nat)
  | completed (pending : PendingConsume)
  | fluidConsumeResponse (consumed remaining : Int)
  | drainRequest (request : ResourceTransferRequest)
  deriving DecidableEq

structure PipeNetworkService where
  networkManager : PipeNetworkManager := {}
  nodeStates : Table Nat NodeState := ∅
  protocolToMgr : Table Nat Nat := ∅
  consumeTracker : PipeConsumeTracker
  serviceTick : Nat := 0
  nextTxnId : Nat
  pipeNodes : Table Nat Nat := ∅
  cableNodes : Table Nat Nat := ∅
  pipeMeta : Table Nat Nat := ∅
  chunkPipePositions : Table ChunkKey (List Nat) := ∅
  machineNodes : Table Nat Nat := ∅

def kPendingConsumeTtlTicks : Nat := 50

namespace PipeNetworkService

def start (seed : Nat) : PipeNetworkService where
  consumeTracker := PipeConsumeTracker.new kPendingConsumeTtlTicks
  nextTxnId := seed

variable (service : PipeNetworkService)

def withManager (change : PipeNetworkManager → PipeNetworkManager) : PipeNetworkService :=
  { service with networkManager := change service.networkManager }

/-- Run a handler's next part and append what it publishes. -/
def continueWith (current : PipeNetworkService × List ServiceEvent)
    (part : PipeNetworkService → PipeNetworkService × List ServiceEvent) :
    PipeNetworkService × List ServiceEvent :=
  let (service, events) := part current.1
  (service, current.2 ++ events)

def removeManagerNode (nodeId : Nat) : PipeNetworkService × List ServiceEvent :=
  (service.withManager fun manager => manager.removeNode nodeId,
    if (service.networkManager.nodes.lookup nodeId).isSome then [.nodeRemoved nodeId] else [])

def cancelPendings (nodeId : Nat) : PipeNetworkService × List ServiceEvent :=
  let (tracker, cancelled) := service.consumeTracker.cancelForNode nodeId
  ({ service with consumeTracker := tracker }, cancelled.map .completed)

def faceOffsets : List (Nat × Position) :=
  [(0, ⟨1, 0, 0⟩), (1, ⟨-1, 0, 0⟩), (2, ⟨0, 1, 0⟩), (3, ⟨0, -1, 0⟩), (4, ⟨0, 0, 1⟩),
    (5, ⟨0, 0, -1⟩)]

def adjacent (position offset : Position) : Position :=
  ⟨position.x + offset.x, position.y + offset.y, position.z + offset.z⟩

def pipeFaceOpen (faceMask face : Nat) : Bool := faceMask == 0 || faceMask.testBit face

def pipeFacesConnected (fromMeta toMeta face : Nat) : Bool :=
  pipeFaceOpen fromMeta face && pipeFaceOpen toMeta (face ^^^ 1)

def endpointAt (key : Nat) : Nat × Bool :=
  match service.pipeNodes.lookup key with
  | some node => (node, true)
  | none => ((service.machineNodes.lookup key).getD 0, false)

def compatible (nodeId : Nat) (node : PipeNode) (neighbourIsPipe isItem isHeat : Bool) : Bool :=
  if isItem then decide (0 < node.itemCapacity)
  else if isHeat then
    decide (0 < node.heatCapacity) &&
      (neighbourIsPipe ||
        (service.nodeStates.lookup nodeId).any fun state => state.type == EnergyType.heat)
  else decide (0 < node.fluidCapacity)

def candidateEdge (sourceNodeId : Nat) (position : Position)
    (sourceMeta : Nat) (isItem isHeat sourceIsPipe : Bool) (face : Nat × Position) :
    Option (Nat × Nat) :=
  let key := pipePosKey (adjacent position face.2)
  let (nodeId, neighbourIsPipe) := service.endpointAt key
  match service.networkManager.nodes.lookup nodeId with
  | none => none
  | some node =>
    if nodeId ≠ 0 && (sourceIsPipe || neighbourIsPipe) &&
        service.compatible nodeId node neighbourIsPipe isItem isHeat &&
        (if neighbourIsPipe then
          pipeFacesConnected sourceMeta ((service.pipeMeta.lookup key).getD 0) face.1
        else pipeFaceOpen sourceMeta face.1) then
      some (sourceNodeId, nodeId)
    else none

def connectNodeNeighbors (sourceNodeId : Nat)
    (position : Position) (sourceMeta : Nat) (isItem isHeat sourceIsPipe : Bool) :
    PipeNetworkService :=
  let candidates := faceOffsets.filterMap
    (service.candidateEdge sourceNodeId position sourceMeta isItem isHeat sourceIsPipe)
  service.withManager fun manager => (manager.addEdges candidates).1

def connectEach (sourceNodeId : Nat) (service : PipeNetworkService) (nodes : List Nat) :
    PipeNetworkService :=
  nodes.foldl
    (fun service node =>
      service.withManager fun manager => (manager.addEdge sourceNodeId node).1)
    service

def connectEnergyNeighbors (sourceNodeId : Nat) (position : Position) : PipeNetworkService :=
  let cables := faceOffsets.filterMap fun face =>
    service.cableNodes.lookup (pipePosKey (adjacent position face.2))
  let machines := service.machineNodes.values.filter fun node =>
    (service.networkManager.nodes.lookup node).any fun candidate =>
      (candidate.position.x - position.x).natAbs + (candidate.position.y - position.y).natAbs +
        (candidate.position.z - position.z).natAbs == 1
  connectEach sourceNodeId service (cables ++ machines)

def setMask (key nodeId blockMeta : Nat) : PipeNetworkService :=
  { service with
    pipeMeta := AList.insert key blockMeta service.pipeMeta
    networkManager := service.networkManager.setNodeMeta nodeId blockMeta }

def addPipeNode (position : Position) (blockId : Nat) : PipeNetworkService :=
  let (manager, nodeId) := service.networkManager.addNode position blockId
  { service with
    networkManager := manager
    pipeNodes := AList.insert (pipePosKey position) nodeId service.pipeNodes }

def registerPipeBlock (position : Position)
    (blockId blockMeta : Nat) : PipeNetworkService × List ServiceEvent :=
  let key := pipePosKey position
  match service.pipeNodes.lookup key with
  | none =>
    let added := service.addPipeNode position blockId
    (added.setMask key ((added.pipeNodes.lookup key).getD 0) blockMeta, [])
  | some nodeId =>
    if (service.networkManager.nodes.lookup nodeId).any fun node => node.blockId == blockId then
      (service.setMask key nodeId blockMeta, [])
    else
      let (removed, events) := service.removeManagerNode nodeId
      let added := { removed with pipeNodes := removed.pipeNodes.erase key }.addPipeNode
        position blockId
      (added.setMask key ((added.pipeNodes.lookup key).getD 0) blockMeta, events)

def isItemBlock (blockId : Nat) : Bool :=
  blockId == blockIdItemPipe || blockId == blockIdDenseItemPipe

def refreshPipeConnections (nodeId : Nat) (position : Position)
    (blockId blockMeta : Nat) : PipeNetworkService :=
  (service.withManager fun manager => manager.removeEdgesForNode nodeId).connectNodeNeighbors
    nodeId position blockMeta (isItemBlock blockId) (blockId == blockIdHeatPipe) true

def forgetPosition (key : Nat) : PipeNetworkService :=
  { service with
    chunkPipePositions := service.chunkPipePositions.mapValues fun _ positions =>
      positions.filter (· != key) }

def removeCableAt (key : Nat) : PipeNetworkService × List ServiceEvent :=
  match service.cableNodes.lookup key with
  | none => (service, [])
  | some nodeId =>
    let (removed, events) := service.removeManagerNode nodeId
    ({ removed with cableNodes := removed.cableNodes.erase key }, events)

def removePipeAt (key : Nat) : PipeNetworkService × List ServiceEvent :=
  match service.pipeNodes.lookup key with
  | none => (service, [])
  | some nodeId =>
    let (removed, events) := service.removeManagerNode nodeId
    ({ removed with pipeNodes := removed.pipeNodes.erase key }, events)

/-- The pipe and machine halves of the air branch cancel what is tied to their
nodes; the machine's node stays. -/
def cancelPipeAt (key : Nat) : PipeNetworkService × List ServiceEvent :=
  match service.pipeNodes.lookup key with
  | none => (service, [])
  | some nodeId => continueWith (service.removePipeAt key) fun removed =>
    removed.cancelPendings nodeId

def cancelMachineAt (key : Nat) : PipeNetworkService × List ServiceEvent :=
  match service.machineNodes.lookup key with
  | none => (service, [])
  | some nodeId =>
    let (cancelled, events) := service.cancelPendings nodeId
    ({ cancelled with machineNodes := cancelled.machineNodes.erase key }, events)

def handleAir (key : Nat) : PipeNetworkService × List ServiceEvent :=
  let (cleared, events) := continueWith
      (continueWith ((service.forgetPosition key).removeCableAt key) fun current =>
        current.cancelPipeAt key)
      fun current => current.cancelMachineAt key
  ({ cleared with pipeMeta := cleared.pipeMeta.erase key }, events)

def displacePipe (key : Nat) : PipeNetworkService × List ServiceEvent :=
  let (removed, events) := service.removePipeAt key
  let unmasked :=
    if (service.pipeNodes.lookup key).isSome then
      { removed with pipeMeta := removed.pipeMeta.erase key }
    else removed
  (unmasked.forgetPosition key, events)

def placeCable (position : Position) (blockId blockMeta : Nat) : PipeNetworkService :=
  let key := pipePosKey position
  let (placed, nodeId) :=
    match service.cableNodes.lookup key with
    | some nodeId => (service, nodeId)
    | none =>
      let (manager, nodeId) := service.networkManager.addNode position blockId
      ({ service with
          networkManager := manager
          cableNodes := AList.insert key nodeId service.cableNodes }, nodeId)
  (placed.setMask key nodeId blockMeta).connectEnergyNeighbors nodeId position

/-- The chunk of a position: division by 32 rounds down. -/
def chunkKeyOf (position : Position) : ChunkKey :=
  ⟨position.x.fdiv 32, position.y.fdiv 32, position.z.fdiv 32⟩

def rememberPosition (position : Position) : PipeNetworkService :=
  let known := (service.chunkPipePositions.lookup (chunkKeyOf position)).getD []
  let key := pipePosKey position
  { service with
    chunkPipePositions := AList.insert (chunkKeyOf position)
      (if key ∈ known then known else known ++ [key]) service.chunkPipePositions }

def placePipe (position : Position)
    (blockId blockMeta : Nat) : PipeNetworkService × List ServiceEvent :=
  let key := pipePosKey position
  let (registered, events) := service.registerPipeBlock position blockId blockMeta
  let nodeId := (registered.pipeNodes.lookup key).getD 0
  let refreshed :=
    ((registered.setMask key nodeId blockMeta).rememberPosition position).refreshPipeConnections
      nodeId position blockId blockMeta
  (refreshed.withManager fun manager => manager.rebuildItemNetworks, events)

def handleBlockChanged (position : Position)
    (blockId blockMeta : Nat) : PipeNetworkService × List ServiceEvent :=
  let key := pipePosKey position
  if blockId = 0 then service.handleAir key
  else if isPipeBlock blockId then
    continueWith (service.removeCableAt key) fun current =>
      current.placePipe position blockId blockMeta
  else
    continueWith (service.displacePipe key) fun current =>
      if isCableBlock blockId then (current.placeCable position blockId blockMeta, [])
      else current.removeCableAt key

structure SnapshotPipeBlock where
  position : Position
  blockId : Nat
  blockMeta : Nat

/-- The blocks of a decoded chunk, by local x, y and z. -/
structure ChunkBlocks where
  coord : ChunkKey
  getBlock : Nat → Nat → Nat → Nat
  getMeta : Nat → Nat → Nat → Nat

def ChunkBlocks.worldPosition (chunk : ChunkBlocks) (lx ly lz : Nat) : Position :=
  ⟨chunk.coord.x * 32 + lx, chunk.coord.y * 32 + ly, chunk.coord.z * 32 + lz⟩

def snapshotPipes (chunk : ChunkBlocks) : List SnapshotPipeBlock :=
  (List.range 32).flatMap fun ly => (List.range 32).flatMap fun lz =>
    (List.range 32).filterMap fun lx =>
      if isPipeBlock (chunk.getBlock lx ly lz) then
        some ⟨chunk.worldPosition lx ly lz, chunk.getBlock lx ly lz, chunk.getMeta lx ly lz⟩
      else none

def removeMissing (current : List Nat) (service : PipeNetworkService) :
    List Nat → PipeNetworkService × List ServiceEvent
  | [] => (service, [])
  | oldKey :: rest =>
    if oldKey ∈ current then removeMissing current service rest
    else
      match service.pipeNodes.lookup oldKey with
      | none => removeMissing current service rest
      | some _ =>
        let (removed, events) := service.removePipeAt oldKey
        let unmasked := { removed with pipeMeta := removed.pipeMeta.erase oldKey }
        let (cleared, later) := removeMissing current unmasked rest
        (cleared, events ++ later)

def registerSnapshot (service : PipeNetworkService) :
    List SnapshotPipeBlock → PipeNetworkService × List ServiceEvent
  | [] => (service, [])
  | pipe :: rest =>
    continueWith (service.registerPipeBlock pipe.position pipe.blockId pipe.blockMeta)
      fun registered => registerSnapshot registered rest

def refreshSnapshot (pipes : List SnapshotPipeBlock) : PipeNetworkService :=
  pipes.foldl
    (fun service pipe =>
      match service.pipeNodes.lookup (pipePosKey pipe.position) with
      | none => service
      | some nodeId =>
        service.refreshPipeConnections nodeId pipe.position pipe.blockId pipe.blockMeta)
    service

def handleChunkLoaded (chunk : ChunkBlocks) : PipeNetworkService × List ServiceEvent :=
  let snapshot := snapshotPipes chunk
  let current := snapshot.map fun pipe => pipePosKey pipe.position
  let previous := (service.chunkPipePositions.lookup chunk.coord).getD []
  let (registered, events) :=
    continueWith (removeMissing current service previous) fun cleared =>
      registerSnapshot cleared snapshot
  let remembered :=
    { registered with
      chunkPipePositions := AList.insert chunk.coord current registered.chunkPipePositions }
  ((remembered.refreshSnapshot snapshot).withManager fun manager => manager.rebuildItemNetworks,
    events)

def handleResourcePortRegister (port : ResourcePort) : PipeNetworkService × List ServiceEvent :=
  let existing := service.networkManager.ports.lookup (PipeNetworkManager.portKey port)
  let (manager, accepted) := service.networkManager.registerPort port
  let registered := { service with networkManager := manager }
  if accepted && existing.any (fun stored => stored.epoch != port.epoch) &&
      port.resourceKind == ResourceKind.fluid then
    let (tracker, cancelled) := (registered.consumeTracker.clearRejectionBackoffForPort port.ownerId
        port.portId).cancelStaleEpoch port.ownerId port.portId port.epoch
    ({ registered with consumeTracker := tracker }, cancelled.map .completed)
  else (registered, [])

def handleResourcePortRemove (key : PortKey) (epoch : Nat) :
    PipeNetworkService × List ServiceEvent :=
  let (manager, removed) := service.networkManager.removePort key epoch
  let unregistered := { service with networkManager := manager }
  if removed then
    let (tracker, cleared) := unregistered.consumeTracker.clearForPort key.ownerId key.portId
    ({ unregistered with consumeTracker := tracker }, cleared.map .completed)
  else (unregistered, [])

def peersOf (connectedNodes : List Nat) : List Nat :=
  connectedNodes.filterMap fun peer => service.protocolToMgr.lookup peer

def bindMachine (protocolId nodeId : Nat) (position : Position) : PipeNetworkService :=
  { service with
    protocolToMgr := AList.insert protocolId nodeId service.protocolToMgr
    machineNodes := AList.insert (pipePosKey position) nodeId service.machineNodes }

structure EnergyNodeUpdate where
  nodeId : Nat
  position : Position
  type : EnergyType
  energy : Int
  capacity : Int
  isSource : Bool
  isSink : Bool
  connectedNodes : List Nat

def registerEnergyNode (protocolId : Nat) (position : Position) : PipeNetworkService × Nat :=
  let found := service.networkManager.findNodeAtPosition position
  if found ≠ 0 ∧ (service.networkManager.nodes.lookup found).any (fun node => node.blockId == 1) then
    (service, found)
  else if protocolId ≠ 0 ∧ (service.networkManager.addNodeWithId protocolId position 1).2 then
    (service.withManager fun manager => (manager.addNodeWithId protocolId position 1).1, protocolId)
  else
    let (manager, nodeId) := service.networkManager.addNode position 1
    ({ service with networkManager := manager }, nodeId)

def handleNodeUpdate (update : EnergyNodeUpdate) : PipeNetworkService :=
  let (bound, nodeId) :=
    match service.protocolToMgr.lookup update.nodeId with
    | some nodeId => (service, nodeId)
    | none =>
      let (added, nodeId) := service.registerEnergyNode update.nodeId update.position
      (if nodeId = 0 then added else added.bindMachine update.nodeId nodeId update.position, nodeId)
  if nodeId = 0 ∧ (service.protocolToMgr.lookup update.nodeId).isNone then bound
  else
    let state := (bound.nodeStates.lookup nodeId).getD {}
    let noted :=
      { bound with
        nodeStates := AList.insert nodeId
          { state with
            energy := update.energy
            capacity := update.capacity
            type := update.type
            isSource := update.isSource
            isSink := update.isSink } bound.nodeStates }
    let mirrored := noted.withManager fun manager =>
      if update.type = .electricity ∨ update.type = .rotation then
        manager.setNodeEnergy nodeId update.energy update.capacity update.isSource update.isSink
      else manager.setNodeHeat nodeId update.energy update.capacity update.isSource update.isSink
    let linked :=
      if update.type = .heat then
        mirrored.connectNodeNeighbors nodeId update.position 0 false true false
      else if update.type = .electricity ∨ update.type = .rotation then
        mirrored.connectEnergyNeighbors nodeId update.position
      else mirrored
    connectEach nodeId linked (linked.peersOf update.connectedNodes)

structure FluidNodeUpdate where
  nodeId : Nat
  position : Position
  fluidId : Nat
  amount : Int
  capacity : Int
  isSource : Bool
  isSink : Bool
  connectedNodes : List Nat

/-- The registering half of `handleFluidNodeUpdate`: when the protocol id is
taken, whatever node is indexed at the position is used. -/
def registerFluidNode (protocolId : Nat) (position : Position) : PipeNetworkService × Nat :=
  let (manager, added) := service.networkManager.addNodeWithId protocolId position blockIdFluidPipe
  if added then ({ service with networkManager := manager }, protocolId)
  else
    let found := service.networkManager.findNodeAtPosition position
    if found ≠ 0 ∧ (service.networkManager.nodes.lookup found).isSome then (service, found)
    else
      let (manager, nodeId) := service.networkManager.addNode position blockIdFluidPipe
      ({ service with networkManager := manager }, nodeId)

def handleFluidNodeUpdate (update : FluidNodeUpdate) : PipeNetworkService :=
  let (bound, nodeId) :=
    match service.protocolToMgr.lookup update.nodeId with
    | some nodeId => (service, nodeId)
    | none =>
      let (added, nodeId) := service.registerFluidNode update.nodeId update.position
      (added.bindMachine update.nodeId nodeId update.position, nodeId)
  let state := (bound.nodeStates.lookup nodeId).getD {}
  let noted :=
    { bound with
      networkManager := bound.networkManager.setNodeFluid nodeId update.amount update.capacity
        update.fluidId update.isSource update.isSink
      nodeStates := AList.insert nodeId
        { state with
          energy := update.amount
          capacity := update.capacity
          fluidId := update.fluidId
          isSource := update.isSource
          isSink := update.isSink } bound.nodeStates }
  let linked := connectEach nodeId noted (noted.peersOf update.connectedNodes)
  linked.connectNodeNeighbors nodeId update.position 0 false false false

structure ItemNodeUpdate where
  nodeId : Nat
  position : Position
  capacity : Int
  isSource : Bool
  isSink : Bool
  items : List ItemSlot
  connectedNodes : List Nat

def addItems (manager : PipeNetworkManager) (nodeId : Nat) (items : List ItemSlot) :
    PipeNetworkManager :=
  (items.filter fun slot => decide (0 < slot.count) && decide (0 < slot.itemId)).foldl
    (fun manager slot => manager.addNodeItem nodeId slot) manager

def handleItemNodeUpdate (update : ItemNodeUpdate) : PipeNetworkService :=
  let registered :=
    match service.protocolToMgr.lookup update.nodeId with
    | some nodeId => some (service, nodeId)
    | none =>
      let (manager, added) := service.networkManager.addNodeWithId update.nodeId update.position 0
      if added then
        some (({ service with networkManager := manager }).bindMachine update.nodeId
          update.nodeId update.position, update.nodeId)
      else none
  match registered with
  | none => service
  | some (bound, nodeId) =>
    let filled := bound.withManager fun manager =>
      addItems
        (manager.setNodeItemProps nodeId ((max update.capacity 0).toNat % 2 ^ 8)
          update.isSource update.isSink)
        nodeId update.items
    if update.connectedNodes = [] then
      filled.connectNodeNeighbors nodeId update.position 0 true false false
    else connectEach nodeId filled (filled.peersOf update.connectedNodes)

structure FluidConsumeReq where
  nodeId : Nat
  position : Position
  fluidId : Nat
  amount : Int

/-- The typed FLUID source port of a position: the first one a scan meets. -/
def sourcePortAt (posKey : Nat) : Option ResourcePort :=
  service.networkManager.ports.values.find? fun port =>
    port.resourceKind == ResourceKind.fluid && port.role == PortRole.source &&
      pipePosKey (PipeNetworkManager.portPosition port) == posKey

structure SourceCandidate where
  nodeId : Nat := 0
  amount : Int := 0
  ownerId : Nat := 0
  portId : PortId := 0
  epoch : Nat := 0

def sourceCandidate (fluidId nodeId : Nat) : Option SourceCandidate :=
  match service.nodeStates.lookup nodeId with
  | none => none
  | some state =>
    let node := service.networkManager.nodes.lookup nodeId
    let port := node.bind fun node => service.sourcePortAt (pipePosKey node.position)
    let candidate : SourceCandidate := {
      nodeId := nodeId
      amount := state.energy
      ownerId := (port.map (·.ownerId)).getD 0
      portId := (port.map (·.portId)).getD 0
      epoch := (port.map (·.epoch)).getD 0 }
    if state.isSource && decide (0 < state.energy) &&
        !(node.any fun node => node.fluidId != 0 && node.fluidId != fluidId) &&
        !service.consumeTracker.sourceInRejectionBackoff
          ⟨nodeId, candidate.ownerId, candidate.portId⟩ service.serviceTick then
      some candidate
    else none

/-- The richest source wins; an earlier one keeps a tie. -/
def bestSource (fluidId : Nat) (network : List Nat) : SourceCandidate :=
  (network.filterMap (service.sourceCandidate fluidId)).foldl
    (fun best candidate => if best.amount < candidate.amount then candidate else best) {}

def requestSource (nodeId consumeRequestId fluidId : Nat)
    (requested pipeAccepted : Int) : PipeNetworkService × List ServiceEvent :=
  let best := service.bestSource fluidId (service.networkManager.discoverNetwork nodeId)
  let shortFill := [ServiceEvent.fluidConsumeResponse pipeAccepted (requested - pipeAccepted)]
  if best.nodeId = 0 then (service, shortFill)
  else
    let drainRequestId := wrapU64 (service.nextTxnId + 1)
    let (tracker, decision) := service.consumeTracker.planShortfall
      { drainRequestId := drainRequestId
        consumeRequestId := consumeRequestId
        sinkNodeId := nodeId
        fluidId := fluidId
        requested := requested
        pipeAccepted := pipeAccepted
        sourceNodeId := best.nodeId
        sourceOwnerId := best.ownerId
        sourcePortId := best.portId
        nowTick := service.serviceTick
        sourceEpoch := best.epoch }
    let planned := { service with consumeTracker := tracker, nextTxnId := drainRequestId }
    match decision with
    | none => (planned, shortFill)
    | some decision =>
      (planned, [.drainRequest {
        requestId := drainRequestId
        portId := best.portId
        resourceKind := .fluid
        resourceId := fluidId
        amount := decision.shortfall }])

def resolveConsumer (request : FluidConsumeReq) : Option (PipeNetworkService × Nat) :=
  match service.protocolToMgr.lookup request.nodeId with
  | some nodeId => some (service, nodeId)
  | none =>
    (service.machineNodes.lookup (pipePosKey request.position)).map fun nodeId =>
      ({ service with
          protocolToMgr := AList.insert request.nodeId nodeId service.protocolToMgr }, nodeId)

def handleFluidConsumeRequest (request : FluidConsumeReq) :
    PipeNetworkService × List ServiceEvent :=
  match service.resolveConsumer request with
  | none => (service, [.fluidConsumeResponse 0 request.amount])
  | some (resolved, nodeId) =>
    if request.amount ≤ 0 ∨ request.fluidId = 0 then
      (resolved, [.fluidConsumeResponse 0 (max request.amount 0)])
    else
      let consumeRequestId := wrapU64 (resolved.nextTxnId + 1)
      let (manager, result) := resolved.networkManager.consumeFluid
        ⟨nodeId, consumeRequestId, request.fluidId, request.amount⟩
      let served := { resolved with networkManager := manager, nextTxnId := consumeRequestId }
      if 0 < result.remaining then
        served.requestSource nodeId consumeRequestId request.fluidId request.amount
          result.acceptedAmount
      else (served, [.fluidConsumeResponse result.acceptedAmount result.remaining])

def cancelDrain (drainRequestId : Nat) : PipeNetworkService × List ServiceEvent :=
  let (tracker, cancelled) := service.consumeTracker.cancelRequest drainRequestId
  ({ service with consumeTracker := tracker }, cancelled.map .completed)

/-- `drainResponsePortLive`, on the registered port; port id zero is not
checked. -/
def portLive (ownerId : Nat) (portId : PortId) (epoch : Nat) : Bool :=
  portId == 0 || (service.networkManager.ports.lookup ⟨ownerId, .fluid, portId⟩).any
    fun port => port.epoch == epoch

def handleResourceDrainResponse
    (response : ResourceTransferResponse) : PipeNetworkService × List ServiceEvent :=
  if response.resourceKind ≠ .fluid then (service, [])
  else if (service.consumeTracker.pending.lookup response.requestId).any fun pending =>
      !service.portLive pending.sourceOwnerId pending.sourcePortId pending.sourceEpoch then
    service.cancelDrain response.requestId
  else
    match service.consumeTracker.applyDrainResponse response.requestId response.resourceId
        response.acceptedAmount with
    | (_, none) => (service, [])
    | (tracker, some applied) =>
      let source : SourceKey := ⟨applied.completed.sourceNodeId,
        applied.completed.sourceOwnerId, applied.completed.sourcePortId⟩
      let noted :=
        if applied.sourceAccepted = 0 then
          tracker.noteSourceRejection source service.serviceTick
        else tracker.clearSourceRejection source
      ({ service with consumeTracker := noted },
        [.fluidConsumeResponse applied.combinedAccepted applied.remaining])

def retryAll (service : PipeNetworkService) :
    List DrainRetry → PipeNetworkService × List ServiceEvent
  | [] => (service, [])
  | retry :: rest =>
    let turn :=
      if service.portLive retry.sourceOwnerId retry.sourcePortId retry.sourceEpoch then
        (service, [ServiceEvent.drainRequest {
          requestId := retry.drainRequestId
          portId := retry.sourcePortId
          resourceKind := .fluid
          resourceId := retry.fluidId
          amount := retry.shortfall }])
      else service.cancelDrain retry.drainRequestId
    continueWith turn fun current => retryAll current rest

/-- The part of `tick` that works on the pendings: retries, then expiry. -/
def tick : PipeNetworkService × List ServiceEvent :=
  let now := wrapU64 (service.serviceTick + 1)
  let (tracker, retries) := service.consumeTracker.collectRetries now
  continueWith
    (retryAll { service with consumeTracker := tracker, serviceTick := now } retries)
    fun current =>
      let (expiring, expired) := current.consumeTracker.expire now
      ({ current with consumeTracker := expiring }, expired.map .completed)

inductive ServiceInput where
  | blockChanged (position : Position) (blockId blockMeta : Nat)
  | chunkLoaded (chunk : ChunkBlocks)
  | portRegister (port : ResourcePort)
  | portRemove (key : PortKey) (epoch : Nat)
  | nodeUpdate (update : EnergyNodeUpdate)
  | fluidNodeUpdate (update : FluidNodeUpdate)
  | itemNodeUpdate (update : ItemNodeUpdate)
  | fluidConsume (request : FluidConsumeReq)
  | drainResponse (response : ResourceTransferResponse)
  | tick

def handle : ServiceInput → PipeNetworkService × List ServiceEvent
  | .blockChanged position blockId blockMeta =>
    service.handleBlockChanged position blockId blockMeta
  | .chunkLoaded chunk => service.handleChunkLoaded chunk
  | .portRegister port => service.handleResourcePortRegister port
  | .portRemove key epoch => service.handleResourcePortRemove key epoch
  | .nodeUpdate update => (service.handleNodeUpdate update, [])
  | .fluidNodeUpdate update => (service.handleFluidNodeUpdate update, [])
  | .itemNodeUpdate update => (service.handleItemNodeUpdate update, [])
  | .fluidConsume request => service.handleFluidConsumeRequest request
  | .drainResponse response => service.handleResourceDrainResponse response
  | .tick => service.tick

def machine : Machine PipeNetworkService ServiceInput ServiceEvent := ⟨handle⟩

end PipeNetworkService

end GtnhPlatform.PipeNetwork
