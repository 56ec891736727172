import GtnhPlatform.Data.PathSearch
import GtnhPlatform.PipeNetwork.CableAttachments

namespace GtnhPlatform.PipeNetwork

/-! What a cable leaves of a voltage is computed in floating point and is a parameter. -/

structure EnergyPacket where
  voltage : Nat
  ampCount : Nat
  sourceId : Nat
  targetId : Nat
  tickIssued : Nat
  deriving DecidableEq

structure CableLoad where
  packetsThisTick : Nat := 0
  maxSeenVoltage : Nat := 0
  packetsIn : List EnergyPacket := []
  packetsOut : List EnergyPacket := []

structure PowerGraph where
  wired : WiredGraph := {}
  loads : Nat → CableLoad := fun _ => {}

inductive Obstacle where
  | missing
  | overVoltage
  | dissipated
  | overAmpacity

abbrev Delivery := Nat × EnergyPacket

namespace PowerGraph

variable (power : PowerGraph)

def nodeOf (id : Nat) : Option CableNode := power.wired.graph.nodes.lookup id

def updateLoad (id : Nat) (change : CableLoad → CableLoad) : PowerGraph :=
  { power with
    loads := fun other => if other = id then change (power.loads id) else power.loads other }

def injectPacket (packet : EnergyPacket) (startNodeId : Nat) : PowerGraph :=
  match power.nodeOf startNodeId with
  | none => power
  | some _ =>
    power.updateLoad startNodeId fun load =>
      { load with packetsIn := load.packetsIn ++ [packet] }

def collectPackets (machineNodeId : Nat) : PowerGraph × List EnergyPacket :=
  match power.wired.machineToCable.cables.lookup machineNodeId with
  | none => (power, [])
  | some cable =>
    match power.nodeOf cable with
    | none => (power, [])
    | some _ =>
      (power.updateLoad cable fun load => { load with packetsOut := [] },
        (power.loads cable).packetsOut)

def reached : Nat → List Nat :=
  CableGraph.reachedBy power.wired.graph.nodes power.wired.graph.indexed

def isMachineAdjacent (cable : Nat) : Bool :=
  (power.nodeOf cable).isSome && decide (cable ∈ power.wired.machineToCable.cables.values)

def pathToMachine (start : Nat) : List Nat :=
  QueueSearch.pathTo power.reached power.isMachineAdjacent
    (power.wired.graph.nodes.keys.length + 1) [start] [(start, [start])]

def packetPath (start : Nat) (packet : EnergyPacket) : List Nat :=
  if packet.targetId = 0 then power.pathToMachine start
  else
    match power.wired.machineToCable.cables.lookup packet.targetId with
    | none => []
    | some cable => power.wired.graph.findPath start cable

section Tick

variable (effectiveVoltage : Nat → Nat → Option Nat)

variable (power : PowerGraph)

def see (cable voltage : Nat) : PowerGraph :=
  power.updateLoad cable fun load =>
    { load with maxSeenVoltage := max load.maxSeenVoltage voltage }

def count (cable : Nat) : PowerGraph :=
  power.updateLoad cable fun load => { load with packetsThisTick := load.packetsThisTick + 1 }

def deliver (cable : Nat) (packet : EnergyPacket) : PowerGraph :=
  power.updateLoad cable fun load => { load with packetsOut := load.packetsOut ++ [packet] }

def hop (current next : Nat) (packet : EnergyPacket) :
    PowerGraph × EnergyPacket × Option Obstacle :=
  match power.nodeOf current, power.nodeOf next with
  | some node, some nextNode =>
    let power := power.see next packet.voltage
    if nextNode.maxVoltage < packet.voltage then (power, packet, some .overVoltage)
    else
      match effectiveVoltage node.lossPerBlock packet.voltage with
      | none => (power, packet, some .dissipated)
      | some voltage =>
        let power := power.count current
        (power, { packet with voltage },
          if node.ampacity < (power.loads current).packetsThisTick then some .overAmpacity
          else none)
  | _, _ => (power, packet, some .missing)

/-- The loop over the path. A failed turn leaves the packet where it is and goes on to the
cable after the next. -/
def walk (power : PowerGraph) (packet : EnergyPacket) (current : Nat) :
    List Nat → PowerGraph × List Delivery
  | [] => (power, [])
  | next :: rest =>
    match power.hop effectiveVoltage current next packet with
    | (power, packet, none) =>
      let (power, deliveries) := (power.deliver next packet).walk packet next rest
      (power, (next, packet) :: deliveries)
    | (power, packet, some _) => power.walk packet current rest

def routePacket (start : Nat) (packet : EnergyPacket) : PowerGraph × List Delivery :=
  match power.packetPath start packet with
  | [] => (power, [])
  | first :: rest => power.walk effectiveVoltage packet first rest

def packetTurns (start : Nat) : Machine PowerGraph EnergyPacket Delivery where
  step power packet := power.routePacket effectiveVoltage start packet

def takePackets (id : Nat) : PowerGraph :=
  power.updateLoad id fun load => { load with packetsIn := [] }

def cableTurns : Machine PowerGraph Nat Delivery where
  step power id :=
    match power.nodeOf id with
    | none => (power, [])
    | some _ =>
      let packets := (power.loads id).packetsIn
      ((packetTurns effectiveVoltage id).final (power.takePackets id) packets,
        (packetTurns effectiveVoltage id).outputs (power.takePackets id) packets)

def startTick : PowerGraph :=
  { power with
    loads := fun id => { power.loads id with packetsThisTick := 0, maxSeenVoltage := 0 } }

def moved : PowerGraph :=
  (cableTurns effectiveVoltage).final power.startTick power.wired.graph.cableNetworks.flatten

def deliveries : List Delivery :=
  (cableTurns effectiveVoltage).outputs power.startTick power.wired.graph.cableNetworks.flatten

def tick (exploded : CableNode → CableLoad → Bool) (power : PowerGraph) : PowerGraph :=
  let moved := power.moved effectiveVoltage
  { moved with
    wired := moved.wired.processOverheat fun node => exploded node (moved.loads node.id) }

end Tick

end PowerGraph

end GtnhPlatform.PipeNetwork
