import Mathlib.Algebra.Order.Ring.Rat
import GtnhPlatform.Common.ResourcePort
import GtnhPlatform.Data.EvictingCache
import GtnhPlatform.Data.Machine
import GtnhPlatform.Sim.Components

namespace GtnhPlatform.SimCore

open GtnhPlatform.Common GtnhPlatform.Sim

/-! `ResourceDrainHandler` over the machine buffers. The log throttle is left out. -/

def kReplayCacheMaxEntries : Nat := 4096

structure MachineBuffers where
  steamOutput : Option SteamOutputComponent
  fluidStorage : Option FluidStorage
  deriving DecidableEq

abbrev Registry := Table Nat MachineBuffers

structure ReplayEntry where
  response : ResourceTransferResponse
  ownerId : Nat

structure ResourceDrainHandler where
  steamId : Nat
  ports : Table PortId ResourcePort
  replay : EvictingCache Nat ReplayEntry

namespace ResourceDrainHandler

def new (steamId : Nat) : ResourceDrainHandler where
  steamId := steamId
  ports := ∅
  replay := EvictingCache.empty

variable (handler : ResourceDrainHandler)

def handlePortRegister (port : ResourcePort) : ResourceDrainHandler :=
  if port.portId = 0 then handler
  else
    match handler.ports.lookup port.portId with
    | none => { handler with ports := AList.insert port.portId port handler.ports }
    | some existing =>
      if existing.ownerId = port.ownerId ∧ existing.resourceKind = port.resourceKind ∧
          existing.epoch = port.epoch then
        { handler with ports := AList.insert port.portId port handler.ports }
      else if port.epoch < existing.epoch then handler
      -- a conflicting owner or kind is only reported
      else { handler with ports := AList.insert port.portId port handler.ports }

def exactPort (key : ResourcePortRegistrationKey) : Option ResourcePort :=
  (handler.ports.lookup key.portId).filter fun port =>
    port.ownerId = key.ownerId && port.resourceKind = key.resourceKind &&
      port.epoch = key.epoch

def handlePortRemove (key : ResourcePortRegistrationKey) : ResourceDrainHandler :=
  match handler.exactPort key with
  | none => handler
  | some _ =>
    { handler with
      ports := handler.ports.erase key.portId
      replay := handler.replay.purge fun _ entry => entry.response.portId == key.portId }

def ownsPort (ownerId : Nat) : Bool :=
  handler.ports.entries.any fun entry => entry.2.ownerId == ownerId

/-- The keys published for the ports that go are returned. -/
def removeOwnerPorts (ownerId : Nat) : ResourceDrainHandler × List ResourcePortRegistrationKey :=
  if handler.ownsPort ownerId then
    ({ handler with
        ports := handler.ports.filter fun _ port => port.ownerId != ownerId
        replay := handler.replay.purge fun _ entry => entry.ownerId == ownerId },
      (handler.ports.select fun _ port => port.ownerId == ownerId).map
        ResourcePort.registrationKey)
  else (handler, [])

def drainSteamOutput (steamId : Nat) (steam : SteamOutputComponent)
    (request : ResourceTransferRequest) (rateLimit : Int) : SteamOutputComponent × Int :=
  if steamId = 0 ∨ request.resourceId ≠ steamId then (steam, 0)
  else
    let available := (max 0 steam.steamStored).floor
    let wanted := min request.amount rateLimit
    let accepted := min wanted available
    if accepted ≤ 0 then (steam, 0)
    else ({ steam with steamStored := steam.steamStored - accepted }, accepted)

def drainFluidStorage (fluid : FluidStorage) (request : ResourceTransferRequest)
    (rateLimit : Int) : FluidStorage × Int :=
  if fluid.fluidId = 0 ∨ request.resourceId ≠ fluid.fluidId then (fluid, 0)
  else fluid.removeFluid (min request.amount rateLimit)

/-- Steam is looked for first. -/
def drainBuffers (steamId : Nat) (buffers : MachineBuffers)
    (request : ResourceTransferRequest) (rateLimit : Int) : MachineBuffers × Int :=
  match buffers.steamOutput, buffers.fluidStorage with
  | some steam, _ =>
    let (steam, accepted) := drainSteamOutput steamId steam request rateLimit
    ({ buffers with steamOutput := some steam }, accepted)
  | none, some fluid =>
    let (fluid, accepted) := drainFluidStorage fluid request rateLimit
    ({ buffers with fluidStorage := some fluid }, accepted)
  | none, none => (buffers, 0)

def drainMachineBuffer (registry : Registry)
    (port : ResourcePort) (request : ResourceTransferRequest) : Registry × Int :=
  match registry.lookup (entityOf port.ownerId) with
  | none => (registry, 0)
  | some buffers =>
    let rateLimit := if 0 < port.rate then port.rate else request.amount
    let (drained, accepted) := drainBuffers handler.steamId buffers request rateLimit
    (AList.insert (entityOf port.ownerId) drained registry, accepted)

def zeroResponse (request : ResourceTransferRequest) : ResourceTransferResponse where
  requestId := request.requestId
  portId := request.portId
  resourceKind := request.resourceKind
  resourceId := request.resourceId
  acceptedAmount := 0

def portServes (port : ResourcePort) (request : ResourceTransferRequest) : Bool :=
  port.role = .source && port.resourceKind = request.resourceKind &&
    0 < request.amount && request.resourceKind = .fluid

def executeDrain (registry : Registry)
    (request : ResourceTransferRequest) : Registry × ReplayEntry :=
  match handler.ports.lookup request.portId with
  | none => (registry, ⟨zeroResponse request, 0⟩)
  | some port =>
    if portServes port request then
      let (registry, accepted) := handler.drainMachineBuffer registry port request
      (registry, ⟨{ zeroResponse request with acceptedAmount := accepted }, port.ownerId⟩)
    else (registry, ⟨zeroResponse request, port.ownerId⟩)

def cacheResponse (requestId : Nat) (entry : ReplayEntry) : ResourceDrainHandler :=
  { handler with replay := handler.replay.insert kReplayCacheMaxEntries requestId entry }

def handleDrainRequest (registry : Registry) (request : ResourceTransferRequest) :
    ResourceDrainHandler × Registry × ResourceTransferResponse :=
  if request.requestId = 0 then (handler, registry, zeroResponse request)
  else
    match handler.replay.lookup request.requestId with
    | some entry => (handler, registry, entry.response)
    | none =>
      let (registry, entry) := handler.executeDrain registry request
      (handler.cacheResponse request.requestId entry, registry, entry.response)

variable (handler : ResourceDrainHandler)

theorem executeDrain_portId (registry : Registry) (request : ResourceTransferRequest) :
    (handler.executeDrain registry request).2.response.portId = request.portId := by
  rw [executeDrain]
  cases handler.ports.lookup request.portId with
  | none => rfl
  | some port => cases serves : portServes port request <;> simp [serves, zeroResponse]

theorem executeDrain_ownerId (registry : Registry)
    (request : ResourceTransferRequest) : (handler.executeDrain registry request).2.ownerId =
      ((handler.ports.lookup request.portId).map ResourcePort.ownerId).getD 0 := by
  rw [executeDrain]
  cases handler.ports.lookup request.portId with
  | none => rfl
  | some port => cases serves : portServes port request <;> simp [serves]

end ResourceDrainHandler

structure DrainOwner where
  handler : ResourceDrainHandler
  registry : Registry

inductive OwnerInput where
  | portRegister (port : ResourcePort)
  | portRemove (key : ResourcePortRegistrationKey)
  | ownerRemoved (ownerId : Nat)
  | drain (request : ResourceTransferRequest)
  | simulate (registry : Registry)

inductive OwnerOutput where
  | portRemoved (key : ResourcePortRegistrationKey)
  | drained (response : ResourceTransferResponse)
  deriving DecidableEq

namespace DrainOwner

def new (steamId : Nat) (registry : Registry) : DrainOwner where
  handler := ResourceDrainHandler.new steamId
  registry := registry

/-- `simulate` stands for whatever the simulation does to the entities between
two messages. -/
def step (owner : DrainOwner) : OwnerInput → DrainOwner × List OwnerOutput
  | .portRegister port => ({ owner with handler := owner.handler.handlePortRegister port }, [])
  | .portRemove key => ({ owner with handler := owner.handler.handlePortRemove key }, [])
  | .ownerRemoved ownerId =>
    let (handler, keys) := owner.handler.removeOwnerPorts ownerId
    ({ owner with handler := handler }, keys.map .portRemoved)
  | .drain request =>
    let (handler, registry, response) := owner.handler.handleDrainRequest owner.registry request
    ({ handler := handler, registry := registry }, [.drained response])
  | .simulate registry => ({ owner with registry := registry }, [])

def machine : Machine DrainOwner OwnerInput OwnerOutput := ⟨step⟩

end DrainOwner

end GtnhPlatform.SimCore
