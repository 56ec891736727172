import GtnhPlatform.PipeNetwork.Service
import Mathlib.Logic.Relation

namespace GtnhPlatform.PipeNetwork

open PipeNetworkService

/-! The cable graph. Packets, temperatures and machines play no part in how it groups
the cables. -/

structure CableDef where
  blockId : Nat
  tier : Nat
  name : String
  lossPerBlock : Nat
  maxVoltage : Nat
  ampacity : Nat
  deriving DecidableEq

def cableDefs : List CableDef := [⟨62464, 1, "cable_tin", 0x05f5e100, 0x20, 0x20⟩,
    ⟨62465, 1, "cable_copper", 0x03f5e100, 0x20, 0x40⟩,
    ⟨62466, 2, "cable_gold", 0x02f5e100, 0x80, 0x80⟩,
    ⟨62467, 2, "cable_aluminium", 0x02f5e100, 0x80, 0x100⟩,
    ⟨62468, 3, "cable_tungsten", 0x01f5e100, 0x200, 0x200⟩,
    ⟨62469, 4, "cable_platinum", 0x00f5e100, 0x800, 0x400⟩]

def getCableDef (blockId : Nat) : Option CableDef :=
  cableDefs.find? fun cable => cable.blockId == blockId

structure CableNode where
  id : Nat
  position : Position
  tier : Nat
  maxVoltage : Nat
  ampacity : Nat
  lossPerBlock : Nat
  blockId : Nat
  faceMask : Nat

structure CableGraph where
  nodes : Table Nat CableNode := ∅
  posToNode : Table Nat Nat := ∅
  cableNetworks : List (List Nat) := []

/-- The 64-bit spatial key: the coordinates as 32-bit words, shifted by 42, 21
and 0 bits. -/
def packPos (position : Position) : Nat := (((position.x % 2 ^ 32).toNat <<< 42) % 2 ^ 64) |||
    ((position.y % 2 ^ 32).toNat <<< 21) ||| (position.z % 2 ^ 32).toNat

namespace CableGraph

variable (graph : CableGraph)

def neighbours (node : CableNode) : List Nat :=
  faceOffsets.filterMap fun (face, offset) =>
    match graph.posToNode.lookup (packPos (adjacent node.position offset)) with
    | none => none
    | some neighbourId =>
      match graph.nodes.lookup neighbourId with
      | none => none
      | some neighbour =>
        if pipeFacesConnected node.faceMask neighbour.faceMask face then some neighbourId
        else none

def visit (state : List Nat × List Nat) (neighbourId : Nat) : List Nat × List Nat :=
  if neighbourId ∈ state.1 then state
  else (state.1 ++ [neighbourId], state.2 ++ [neighbourId])

/-- The search from one cable: the visited ids and the component, in the order
the queue gives them up. Every id is queued once, so as many turns as there
are nodes empty the queue. -/
def search (graph : CableGraph) : Nat → List Nat → List Nat → List Nat → List Nat × List Nat
  | 0, visited, _, component => (visited, component)
  | _ + 1, visited, [], component => (visited, component)
  | fuel + 1, visited, current :: queue, component =>
    let reached :=
      match graph.nodes.lookup current with
      | none => []
      | some node => graph.neighbours node
    let (visited, queue) := reached.foldl visit (visited, queue)
    graph.search fuel visited queue (component ++ [current])

def growFrom (state : List Nat × List (List Nat)) (nodeId : Nat) : List Nat × List (List Nat) :=
  if nodeId ∈ state.1 then state
  else
    let (visited, component) :=
      graph.search graph.nodes.keys.length (state.1 ++ [nodeId]) [nodeId] []
    (visited, if component.isEmpty then state.2 else state.2 ++ [component])

def rebuildGraph : CableGraph :=
  { graph with cableNetworks := (graph.nodes.keys.foldl graph.growFrom ([], [])).2 }

def hasCableNode (nodeId : Nat) : Bool := (graph.nodes.lookup nodeId).isSome

def addCableNode (nodeId : Nat) (cable : CableDef) (position : Position)
    (faceMask : Nat) : CableGraph :=
  let node : CableNode :=
    { id := nodeId, position, tier := cable.tier, maxVoltage := cable.maxVoltage,
      ampacity := cable.ampacity, lossPerBlock := cable.lossPerBlock,
      blockId := cable.blockId, faceMask }
  { graph with
    nodes := AList.insert nodeId node graph.nodes
    posToNode := AList.insert (packPos position) nodeId graph.posToNode }

def setCableMeta (nodeId faceMask : Nat) : CableGraph :=
  match graph.nodes.lookup nodeId with
  | none => graph
  | some node =>
    if node.faceMask = faceMask then graph
    else
      { graph with
        nodes := AList.insert nodeId { node with faceMask } graph.nodes }.rebuildGraph

def removeCableNode (nodeId : Nat) : CableGraph :=
  match graph.nodes.lookup nodeId with
  | none => graph
  | some node =>
    { graph with
      nodes := graph.nodes.erase nodeId
      posToNode := graph.posToNode.erase (packPos node.position) }.rebuildGraph

end CableGraph

structure BlockChangedEvent where
  position : Position
  blockId : Nat
  faceMask : Nat

namespace CableGraph

/-- The cable branch of `handleBlockChanged`, which the handler goes through
twice for one event. -/
def placeCable (graph : CableGraph) (event : BlockChangedEvent) : CableGraph :=
  match getCableDef event.blockId with
  | none => graph
  | some cable =>
    let key := pipePosKey event.position
    if graph.hasCableNode key then graph.setCableMeta key event.faceMask
    else graph.addCableNode key cable event.position event.faceMask

def handleBlockChanged (graph : CableGraph) (event : BlockChangedEvent) : CableGraph :=
  if event.blockId = 0 then graph.removeCableNode (pipePosKey event.position)
  else if isCableBlock event.blockId then (graph.placeCable event).placeCable event
  else graph

def machine : Machine CableGraph BlockChangedEvent Empty where
  step graph event := (graph.handleBlockChanged event, [])

end CableGraph

open PipeNetworkService

namespace CableGraph

variable (graph : CableGraph)

def indexed (position : Position) : Option Nat :=
  graph.posToNode.lookup (packPos position)

def standing (position : Position) : Option Nat :=
  (graph.nodes.entries.find? fun entry => entry.2.position == position).map (·.1)

section Search

variable (nodes : Table Nat CableNode) (find : Position → Option Nat)

def neighboursBy (node : CableNode) : List Nat :=
  faceOffsets.filterMap fun (face, offset) =>
    match find (adjacent node.position offset) with
    | none => none
    | some neighbourId =>
      match nodes.lookup neighbourId with
      | none => none
      | some neighbour =>
        if pipeFacesConnected node.faceMask neighbour.faceMask face then some neighbourId
        else none

def reachedBy (current : Nat) : List Nat :=
  match nodes.lookup current with
  | none => []
  | some node => neighboursBy nodes find node

/-- The first cable of a tier beside a position, any cable for tier `0`, and `0` for no
cable. A cable without a node is a lookup that throws. -/
def adjacentBy (position : Position) (tier : Nat) : List (Nat × Position) → Option Nat
  | [] => some 0
  | (_, offset) :: rest =>
    match find (adjacent position offset) with
    | none => adjacentBy position tier rest
    | some nodeId =>
      if tier = 0 then some nodeId
      else
        match nodes.lookup nodeId with
        | none => none
        | some node => if node.tier = tier then some nodeId else adjacentBy position tier rest

end Search

section Traversal

variable (reached : Nat → List Nat)

def searchBy : Nat → List Nat → List Nat → List Nat → List Nat × List Nat
  | 0, visited, _, component => (visited, component)
  | _ + 1, visited, [], component => (visited, component)
  | fuel + 1, visited, current :: queue, component =>
    let (visited, queue) := (reached current).foldl visit (visited, queue)
    searchBy fuel visited queue (component ++ [current])

def growBy (size : Nat) (state : List Nat × List (List Nat)) (nodeId : Nat) :
    List Nat × List (List Nat) :=
  if nodeId ∈ state.1 then state
  else
    let (visited, component) := searchBy reached size (state.1 ++ [nodeId]) [nodeId] []
    (visited, if component.isEmpty then state.2 else state.2 ++ [component])

def networksBy (nodeIds : List Nat) : List (List Nat) :=
  (nodeIds.foldl (growBy reached nodeIds.length) ([], [])).2

def extend (path : List Nat) (state : List Nat × List (Nat × List Nat)) (neighbourId : Nat) :
    List Nat × List (Nat × List Nat) :=
  if neighbourId ∈ state.1 then state
  else (state.1 ++ [neighbourId], state.2 ++ [(neighbourId, path ++ [neighbourId])])

/-- The path search: the queue holds the cables with the paths to them. -/
def pathBy (target : Nat) : Nat → List Nat → List (Nat × List Nat) → List Nat
  | 0, _, _ => []
  | _ + 1, _, [] => []
  | fuel + 1, visited, (current, path) :: queue =>
    if current = target then path
    else
      let (visited, queue) := (reached current).foldl (extend path) (visited, queue)
      pathBy target fuel visited queue

/-- Every cable is queued once, after the one the search begins with. -/
def pathFrom (nodeIds : List Nat) (fromCable toCable : Nat) : List Nat :=
  if fromCable = 0 ∨ toCable = 0 then []
  else pathBy reached toCable (nodeIds.length + 1) [fromCable] [(fromCable, [fromCable])]

end Traversal

def findPath (fromCable toCable : Nat) : List Nat :=
  pathFrom (reachedBy graph.nodes graph.indexed) graph.nodes.keys fromCable toCable

def findAdjacentCable (position : Position) (tier : Nat) : Option Nat :=
  adjacentBy graph.nodes graph.indexed position tier faceOffsets

variable (graph : CableGraph)

theorem search_eq (fuel : Nat) (visited queue component : List Nat) :
    graph.search fuel visited queue component =
      searchBy (reachedBy graph.nodes graph.indexed) fuel visited queue component := by
  induction fuel generalizing visited queue component with
  | zero => rfl
  | succ fuel ih =>
    cases queue with
    | nil => rfl
    | cons current queue => exact ih _ _ _

theorem growFrom_eq : graph.growFrom =
      growBy (reachedBy graph.nodes graph.indexed) graph.nodes.keys.length := by
  funext state nodeId
  rw [growFrom, growBy, search_eq]

theorem rebuildGraph_cableNetworks : graph.rebuildGraph.cableNetworks =
      networksBy (reachedBy graph.nodes graph.indexed) graph.nodes.keys := by
  rw [networksBy, ← growFrom_eq]
  rfl

variable {first second : Position → Option Nat}

theorem reachedBy_congr {nodes : Table Nat CableNode}
    (same : ∀ id node, nodes.lookup id = some node → ∀ face ∈ faceOffsets,
      first (adjacent node.position face.2) = second (adjacent node.position face.2)) :
    reachedBy nodes first = reachedBy nodes second := by
  funext current
  unfold reachedBy
  cases found : nodes.lookup current with
  | none => rfl
  | some node =>
    apply List.filterMap_congr
    intro face mem
    dsimp only
    rw [same current node found face mem]

theorem adjacentBy_congr (nodes : Table Nat CableNode) (position : Position) (tier : Nat)
    (same : ∀ face ∈ faces, first (adjacent position face.2) = second (adjacent position face.2)) :
    adjacentBy nodes first position tier faces = adjacentBy nodes second position tier faces := by
  induction faces with
  | nil => rfl
  | cons face rest ih =>
    simp only [adjacentBy]
    rw [same face List.mem_cons_self, ih fun other mem => same other (List.mem_cons_of_mem _ mem)]

end CableGraph

end GtnhPlatform.PipeNetwork
