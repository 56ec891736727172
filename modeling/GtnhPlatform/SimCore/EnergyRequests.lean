import GtnhPlatform.PipeNetwork.Service
import GtnhPlatform.Sim.Components

namespace GtnhPlatform.SimCore.EnergyRequests

open GtnhPlatform.Sim

/-! Energy consume requests. A request names the node of the machine that asks. -/

structure BatteryBufferComponent where
  capacity : Nat
  stored : Int
  maxInput : Int

/-- `EnergyStorage` with the components that `MachineSystem` looks at before it
credits it. -/
structure EnergyStorage where
  capacity : Int
  current : Int
  type : PipeNetwork.EnergyType := .electricity
  isMachine : Bool := true
  hasProgress : Bool := true
  heatIntake : Option Int := none

structure EnergyConsumeReq where
  nodeId : Nat
  amount : Int
  deriving DecidableEq

structure EnergyConsumeResp where
  nodeId : Nat
  consumed : Int
  remaining : Int

/-- The systems that keep an entry for a request under way, in the order in
which they are offered a response. -/
inductive Requester where
  | battery
  | lcr
  | ebf
  | machine
  deriving DecidableEq

structure EnergyServer where
  buffers : Table Nat BatteryBufferComponent := ∅
  storages : Table Nat EnergyStorage := ∅
  batteryRequests : Table Nat Int := ∅
  lcrConsumes : Table Nat Int := ∅
  ebfConsumes : Table Nat Int := ∅
  machineConsumes : Table Nat Int := ∅
  requests : List EnergyConsumeReq := []
  responses : List EnergyConsumeResp := []

namespace EnergyServer

/-- `min(current + consumed, capacity)`; the saturating sum makes no difference
under the minimum. -/
def credited (storage : EnergyStorage) (consumed : Int) : EnergyStorage :=
  { storage with current := min (storage.current + consumed) storage.capacity }

variable (server : EnergyServer)

def sendConsumeRequest (nodeId : Nat) (amount : Int) : EnergyServer :=
  { server with requests := server.requests ++ [⟨nodeId, amount⟩] }

def clampStored (buffer : BatteryBufferComponent) : BatteryBufferComponent :=
  if buffer.stored < 0 then { buffer with stored := 0 }
  else if (buffer.capacity : Int) < buffer.stored then { buffer with stored := buffer.capacity }
  else buffer

/-- `BatteryBufferSystem::tick` at one buffer, after its tools are charged. -/
def tickBattery (nodeId : Nat) : EnergyServer :=
  match server.buffers.lookup nodeId with
  | none => server
  | some found =>
    let buffer := clampStored found
    let clamped := { server with buffers := AList.insert nodeId buffer server.buffers }
    let needed := min ((buffer.capacity : Int) - buffer.stored) buffer.maxInput
    if buffer.stored < (buffer.capacity : Int) ∧
        server.batteryRequests.lookup nodeId = none ∧ 0 < needed then
      { clamped.sendConsumeRequest nodeId needed with
        batteryRequests := AList.insert nodeId needed server.batteryRequests }
    else clamped

def starved (nodeId : Nat) (perTickCost : Int) : Bool :=
  match server.storages.lookup nodeId with
  | none => false
  | some storage => decide (storage.current < perTickCost)

def tickLcr (nodeId : Nat) (perTickCost : Int) : EnergyServer :=
  if server.starved nodeId perTickCost then
    { server.sendConsumeRequest nodeId perTickCost with
      lcrConsumes := AList.insert nodeId perTickCost server.lcrConsumes }
  else server

def tickEbf (nodeId : Nat) (perTickCost : Int) : EnergyServer :=
  if server.starved nodeId perTickCost ∧ server.ebfConsumes.lookup nodeId = none then
    { server.sendConsumeRequest nodeId perTickCost with
      ebfConsumes := AList.insert nodeId perTickCost server.ebfConsumes }
  else server

def tickMachine (nodeId : Nat) (needed : Int) : EnergyServer :=
  if server.starved nodeId needed ∧ server.machineConsumes.lookup nodeId = none then
    { server.sendConsumeRequest nodeId needed with
      machineConsumes := AList.insert nodeId needed server.machineConsumes }
  else server

variable (response : EnergyConsumeResp)

/-- `BatteryBufferSystem::onConsumeResponse`; `none` passes the response on. -/
def batteryResponse : Option EnergyServer :=
  if response.consumed ≤ 0 then none
  else
    match server.batteryRequests.lookup response.nodeId with
    | none => none
    | some _ =>
      let entity := entityOf response.nodeId
      some
        { server with
          buffers :=
            match server.buffers.lookup entity with
            | none => server.buffers
            | some buffer =>
              AList.insert entity
                { buffer with
                  stored := min (buffer.stored + response.consumed) buffer.capacity }
                server.buffers
          batteryRequests := server.batteryRequests.erase response.nodeId }

/-- The credit that `LCRSystem` and `EBFSystem` give after erasing their entry. -/
def creditEntity : EnergyServer :=
  let entity := entityOf response.nodeId
  if response.consumed ≤ 0 then server
  else
    match server.storages.lookup entity with
    | none => server
    | some storage =>
      { server with
        storages := AList.insert entity (credited storage response.consumed) server.storages }

def lcrResponse : Option EnergyServer :=
  match server.lcrConsumes.lookup response.nodeId with
  | none => none
  | some _ =>
    some ({ server with
      lcrConsumes := server.lcrConsumes.erase response.nodeId }.creditEntity response)

def ebfResponse : Option EnergyServer :=
  match server.ebfConsumes.lookup response.nodeId with
  | none => none
  | some _ =>
    some ({ server with
      ebfConsumes := server.ebfConsumes.erase response.nodeId }.creditEntity response)

/-- `MachineSystem` credits an entity with all the components of a machine, and
keeps the heat intake of a heat machine in step. -/
def creditMachine (entity : Nat) (consumed : Int) : EnergyServer :=
  match server.storages.lookup entity with
  | none => server
  | some storage =>
    if storage.isMachine && storage.hasProgress then
      let next := credited storage consumed
      { server with
        storages := AList.insert entity
            (if next.type = .heat then
              { next with heatIntake := next.heatIntake.map fun _ => next.current }
            else next) server.storages }
    else server

/-- The key at which an iteration over a hash table begins: any key it holds. -/
def beginKey (table : Table Nat Int) (first : Nat) : Option Nat :=
  if (table.lookup first).isSome then some first else table.keys.head?

def eraseMachineConsume (nodeId : Nat) : EnergyServer :=
  { server with machineConsumes := server.machineConsumes.erase nodeId }

def machineResponse (first : Nat) : EnergyServer :=
  if response.consumed ≤ 0 then
    if response.nodeId ≠ 0 then server.eraseMachineConsume response.nodeId else server
  else if response.nodeId ≠ 0 then
    (server.creditMachine (entityOf response.nodeId) response.consumed).eraseMachineConsume
      response.nodeId
  else
    match beginKey server.machineConsumes first with
    | none => server
    | some oldest =>
      (server.creditMachine (entityOf oldest) response.consumed).eraseMachineConsume oldest

def onConsumeResponse (first : Nat) : EnergyServer :=
  match server.batteryResponse response with
  | some taken => taken
  | none =>
    match server.lcrResponse response with
    | some taken => taken
    | none =>
      match server.ebfResponse response with
      | some taken => taken
      | none => server.machineResponse response first

end EnergyServer

inductive EnergyInput where
  | setBuffer (entity : Nat) (buffer : Option BatteryBufferComponent)
  | setStorage (entity : Nat) (storage : Option EnergyStorage)
  | tickBattery (nodeId : Nat)
  | tickLcr (nodeId : Nat) (perTickCost : Int)
  | tickEbf (nodeId : Nat) (perTickCost : Int)
  | tickMachine (nodeId : Nat) (needed : Int)
  | ask (nodeId : Nat) (amount : Int)
  | answer (index : Nat) (consumed remaining : Int)
  | deliver (index first : Nat)

namespace EnergyServer

def setEntry (table : Table Nat ν) (key : Nat) (entry : Option ν) : Table Nat ν :=
  match entry with
  | none => table.erase key
  | some value => AList.insert key value table

def answer (server : EnergyServer) (index : Nat) (consumed remaining : Int) : EnergyServer :=
  match server.requests[index]? with
  | none => server
  | some request =>
    { server with
      requests := server.requests.eraseIdx index
      responses := server.responses ++ [⟨request.nodeId, consumed, remaining⟩] }

def deliver (server : EnergyServer) (index first : Nat) : EnergyServer :=
  match server.responses[index]? with
  | none => server
  | some response =>
    { server with
      responses := server.responses.eraseIdx index }.onConsumeResponse response first

def handle (server : EnergyServer) : EnergyInput → EnergyServer
  | .setBuffer entity buffer =>
    { server with buffers := setEntry server.buffers entity buffer }
  | .setStorage entity storage =>
    { server with storages := setEntry server.storages entity storage }
  | .tickBattery nodeId => server.tickBattery nodeId
  | .tickLcr nodeId perTickCost => server.tickLcr nodeId perTickCost
  | .tickEbf nodeId perTickCost => server.tickEbf nodeId perTickCost
  | .tickMachine nodeId needed => server.tickMachine nodeId needed
  | .ask nodeId amount => server.sendConsumeRequest nodeId amount
  | .answer index consumed remaining => server.answer index consumed remaining
  | .deliver index first => server.deliver index first

def machine : Machine EnergyServer EnergyInput Empty where
  step server input := (server.handle input, [])

end EnergyServer

end GtnhPlatform.SimCore.EnergyRequests
