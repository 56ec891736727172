import GtnhPlatform.PipeNetwork.ConsumeCompletion
import GtnhPlatform.SimCore.ResourceDrain
import Mathlib.Algebra.Order.Ring.Rat

namespace GtnhPlatform.SimCore

open GtnhPlatform.Common GtnhPlatform.PipeNetwork GtnhPlatform.Sim ResourceDrainHandler

/-! Who is debited by a planned drain: the planner, the wire and the owner side. -/

def kMachineClassHeatBoiler : Nat := 1
def kSlotSteamSource : Nat := 2

def makeMachinePortId (machineClass slot : Nat) : PortId := (machineClass <<< 8) ||| slot

def kBoilerSteamSourcePortId : PortId := makeMachinePortId kMachineClassHeatBoiler kSlotSteamSource

def makeSteamSourcePort (ownerId : Nat) (x y z fluidCapacity fluidRate : Int) (epoch : Nat) :
    ResourcePort where
  portId := kBoilerSteamSourcePortId
  ownerId := ownerId
  resourceKind := .fluid
  role := .source
  x := x
  y := y
  z := z
  facePolicy := .allFaces
  faceMask := 0x3f
  capacity := fluidCapacity
  rate := fluidRate
  epoch := epoch

def Supplies (steamId : Nat) (buffers : MachineBuffers) (resourceId : Nat) : Prop :=
  match buffers.steamOutput, buffers.fluidStorage with
  | some steam, _ => steamId ≠ 0 ∧ resourceId = steamId ∧ 1 ≤ steam.steamStored
  | none, some fluid => fluid.fluidId ≠ 0 ∧ resourceId = fluid.fluidId ∧ fluid.Yields
  | none, none => False

def Serves (steamId : Nat) (registry : Registry) (port : ResourcePort)
    (request : ResourceTransferRequest) : Prop :=
  ResourceDrainHandler.portServes port request = true ∧
    ∃ buffers, registry.lookup (entityOf port.ownerId) = some buffers ∧
      Supplies steamId buffers request.resourceId

namespace ResourceDrainHandler

variable {rateLimit : Int}

theorem drainSteamOutput_ne_iff (steamId : Nat) (steam : SteamOutputComponent)
    (request : ResourceTransferRequest) (positive : 0 < request.amount) (limited : 0 < rateLimit) :
    (drainSteamOutput steamId steam request rateLimit).1 ≠ steam ↔
      steamId ≠ 0 ∧ request.resourceId = steamId ∧ 1 ≤ steam.steamStored := by
  have wholeUnit : 1 ≤ (max 0 steam.steamStored).floor ↔ 1 ≤ steam.steamStored := by
    rw [Rat.le_floor_iff]
    simp
  rw [drainSteamOutput]
  by_cases mismatch : steamId = 0 ∨ request.resourceId ≠ steamId
  · rw [if_pos mismatch]
    constructor
    · intro changed
      exact absurd rfl changed
    intro supplied
    cases mismatch with
    | inl unset => exact absurd unset supplied.1
    | inr other => exact absurd supplied.2.1 other
  · rw [if_neg mismatch]
    have fits := not_or.mp mismatch
    by_cases nothing : min (min request.amount rateLimit) (max 0 steam.steamStored).floor ≤ 0
    · rw [if_pos nothing]
      constructor
      · intro changed
        exact absurd rfl changed
      · intro supplied
        have available := wholeUnit.mpr supplied.2.2
        omega
    · rw [if_neg nothing]
      have available : 1 ≤ (max 0 steam.steamStored).floor := by omega
      refine ⟨fun _ => ⟨fits.1, not_not.mp fits.2, wholeUnit.mp available⟩, fun _ same => ?_⟩
      have balance := sub_eq_self.mp (congrArg SteamOutputComponent.steamStored same)
      have taken : min (min request.amount rateLimit) (max 0 steam.steamStored).floor = 0 := by
        exact_mod_cast balance
      omega

theorem drainFluidStorage_ne_iff (fluid : FluidStorage) (request : ResourceTransferRequest)
    (positive : 0 < request.amount) (limited : 0 < rateLimit) :
    (drainFluidStorage fluid request rateLimit).1 ≠ fluid ↔
      fluid.fluidId ≠ 0 ∧ request.resourceId = fluid.fluidId ∧ fluid.Yields := by
  rw [drainFluidStorage]
  by_cases mismatch : fluid.fluidId = 0 ∨ request.resourceId ≠ fluid.fluidId
  · rw [if_pos mismatch]
    constructor
    · intro changed
      exact absurd rfl changed
    intro supplied
    cases mismatch with
    | inl unset => exact absurd unset supplied.1
    | inr other => exact absurd supplied.2.1 other
  · rw [if_neg mismatch]
    have fits := not_or.mp mismatch
    rw [fluid.removeFluid_ne_iff (by omega)]
    exact ⟨fun yields => ⟨fits.1, not_not.mp fits.2, yields⟩, fun supplied => supplied.2.2⟩

theorem drainBuffers_ne_iff (steamId : Nat) (buffers : MachineBuffers)
    (request : ResourceTransferRequest) (positive : 0 < request.amount) (limited : 0 < rateLimit) :
    (drainBuffers steamId buffers request rateLimit).1 ≠ buffers ↔
      Supplies steamId buffers request.resourceId := by
  obtain ⟨steamOutput, fluidStorage⟩ := buffers
  cases steamOutput with
  | some steam =>
    simp only [drainBuffers, Supplies, Ne, MachineBuffers.mk.injEq, Option.some.injEq, and_true]
    exact drainSteamOutput_ne_iff steamId steam request positive limited
  | none =>
    cases fluidStorage with
    | some fluid =>
      simp only [drainBuffers, Supplies, Ne, MachineBuffers.mk.injEq, Option.some.injEq, true_and]
      exact drainFluidStorage_ne_iff fluid request positive limited
    | none => simp [drainBuffers, Supplies]

variable {port : ResourcePort}

variable (handler : ResourceDrainHandler)

theorem executeDrain_lookup_of_ne (registry : Registry) (request : ResourceTransferRequest)
    (registered : handler.ports.lookup request.portId = some port)
    (other : entity ≠ entityOf port.ownerId) :
    (handler.executeDrain registry request).1.lookup entity = registry.lookup entity := by
  simp only [executeDrain, registered]
  cases serves : portServes port request with
  | false => rfl
  | true =>
    simp only [if_true, drainMachineBuffer]
    cases registry.lookup (entityOf port.ownerId) with
    | none => rfl
    | some buffers => exact Table.lookup_insert_of_ne _ _ other

theorem executeDrain_lookup_owner (registry : Registry) (request : ResourceTransferRequest)
    (registered : handler.ports.lookup request.portId = some port) :
    (handler.executeDrain registry request).1.lookup (entityOf port.ownerId) ≠
        registry.lookup (entityOf port.ownerId) ↔ Serves handler.steamId registry port request := by
  simp only [executeDrain, registered, Serves]
  cases serves : portServes port request with
  | false => simp
  | true =>
    have positive : 0 < request.amount := by
      simp only [portServes, Bool.and_eq_true, decide_eq_true_eq] at serves
      exact serves.1.2
    simp only [if_true, drainMachineBuffer, true_and]
    cases found : registry.lookup (entityOf port.ownerId) with
    | none => simp [found]
    | some buffers =>
      have limited : 0 < if 0 < port.rate then port.rate else request.amount := by
        split <;> assumption
      simp only [Table.lookup_insert_self, Ne, Option.some.injEq, exists_eq_left']
      exact drainBuffers_ne_iff handler.steamId buffers request positive limited

end ResourceDrainHandler

structure DrainSystem where
  tracker : PipeConsumeTracker
  owner : DrainOwner
  sent : List PlannedDrain

inductive SystemInput where
  | plan (plan : ShortfallPlan)
  | retry (portLive : DrainRetry → Bool) (nowTick : Nat)
  | track (input : TrackerInput)
  | owner (input : OwnerInput)
  | deliver (drain : PlannedDrain)

namespace DrainSystem

def new (steamId ttlTicks : Nat) (registry : Registry) : DrainSystem where
  tracker := PipeConsumeTracker.new ttlTicks
  owner := DrainOwner.new steamId registry
  sent := []

/-- `track` is any other operation on the pendings; `owner` any other message
to the owner side. -/
def step (system : DrainSystem) : SystemInput → DrainSystem × List OwnerOutput
  | .plan plan =>
    let (tracker, drains) := system.tracker.requestShortfall plan
    ({ system with tracker := tracker, sent := system.sent ++ drains }, [])
  | .retry portLive nowTick =>
    let (tracker, drains) := system.tracker.retryDrains portLive nowTick
    ({ system with tracker := tracker, sent := system.sent ++ drains }, [])
  | .track input => ({ system with tracker := (system.tracker.step input).1 }, [])
  | .owner input =>
    let (owner, outputs) := system.owner.step input
    ({ system with owner := owner }, outputs)
  | .deliver drain =>
    if drain ∈ system.sent then
      let (owner, outputs) := system.owner.step (.drain drain.request)
      ({ system with owner := owner }, outputs)
    else (system, [])

def machine : Machine DrainSystem SystemInput OwnerOutput := ⟨step⟩

/-- A delivered drain debits nobody but the owner it was planned against. -/
def DebitsPlannedOwner (system : DrainSystem) : SystemInput → Prop
  | .deliver drain => ∀ entity, entity ≠ entityOf drain.ownerId →
      (system.step (.deliver drain)).1.owner.registry.lookup entity =
        system.owner.registry.lookup entity
  | _ => True

def FindsPlannedOwner (system : DrainSystem) : SystemInput → Prop
  | .deliver drain =>
    drain ∈ system.sent → drain.request.requestId ≠ 0 →
    system.owner.handler.replay.lookup drain.request.requestId = none →
    ∀ port, system.owner.handler.ports.lookup drain.request.portId = some port →
      entityOf port.ownerId = entityOf drain.ownerId ∨
        ¬ Serves system.owner.handler.steamId system.owner.registry port drain.request
  | _ => True

variable {system : DrainSystem} {drain : PlannedDrain}

theorem deliver_registry_of_replayed (settled : drain ∉ system.sent ∨ drain.request.requestId = 0 ∨
      (system.owner.handler.replay.lookup drain.request.requestId).isSome) :
    (system.step (.deliver drain)).1.owner.registry = system.owner.registry := by
  by_cases sent : drain ∈ system.sent
  · simp only [step, if_pos sent, DrainOwner.step, handleDrainRequest]
    by_cases unset : drain.request.requestId = 0
    · rw [if_pos unset]
    rw [if_neg unset]
    cases cached : system.owner.handler.replay.lookup drain.request.requestId with
    | some entry => rfl
    | none =>
      rw [cached] at settled
      cases settled with
      | inl unsent => exact absurd sent unsent
      | inr other =>
        cases other with
        | inl zero => exact absurd zero unset
        | inr found => contradiction
  · simp only [step, if_neg sent]

theorem deliver_registry_of_fresh (sent : drain ∈ system.sent)
    (identity : drain.request.requestId ≠ 0)
    (uncached : system.owner.handler.replay.lookup drain.request.requestId = none) :
    (system.step (.deliver drain)).1.owner.registry =
      (system.owner.handler.executeDrain system.owner.registry drain.request).1 := by
  simp only [step, if_pos sent, DrainOwner.step, handleDrainRequest, if_neg identity, uncached]

theorem debitsPlannedOwner_iff (system : DrainSystem) (input : SystemInput) :
    DebitsPlannedOwner system input ↔ FindsPlannedOwner system input := by
  cases input with
  | plan plan => exact Iff.rfl
  | retry portLive nowTick => exact Iff.rfl
  | track input => exact Iff.rfl
  | owner input => exact Iff.rfl
  | deliver drain =>
    constructor
    · intro debits sent identity uncached port registered
      by_cases same : entityOf port.ownerId = entityOf drain.ownerId
      · exact Or.inl same
      refine Or.inr fun serves => ?_
      have kept := debits (entityOf port.ownerId) same
      rw [deliver_registry_of_fresh sent identity uncached] at kept
      exact (executeDrain_lookup_owner _ _ _ registered).mpr serves kept
    · intro finds entity other
      by_cases fresh : drain ∈ system.sent ∧ drain.request.requestId ≠ 0 ∧
          system.owner.handler.replay.lookup drain.request.requestId = none
      · obtain ⟨sent, identity, uncached⟩ := fresh
        rw [deliver_registry_of_fresh sent identity uncached]
        cases registered : system.owner.handler.ports.lookup drain.request.portId with
        | none => simp only [executeDrain, registered]
        | some port =>
          by_cases owned : entity = entityOf port.ownerId
          · cases finds sent identity uncached port registered with
            | inl same => exact absurd (owned.trans same) other
            | inr idle =>
              rw [owned]
              exact not_not.mp fun changed => idle
                ((executeDrain_lookup_owner _ _ _ registered).mp changed)
          · exact executeDrain_lookup_of_ne _ _ _ registered owned
      · rw [deliver_registry_of_replayed]
        by_cases sent : drain ∈ system.sent
        · by_cases unset : drain.request.requestId = 0
          · exact Or.inr (Or.inl unset)
          refine Or.inr (Or.inr ?_)
          cases cached : system.owner.handler.replay.lookup drain.request.requestId with
          | none => exact absurd ⟨sent, unset, cached⟩ fresh
          | some entry => rfl
        · exact Or.inl sent

theorem run_debitsPlannedOwner_iff (steamId ttlTicks : Nat) (registry : Registry)
    (inputs : List SystemInput) :
    machine.Along DebitsPlannedOwner (new steamId ttlTicks registry) inputs ↔
      machine.Along FindsPlannedOwner (new steamId ttlTicks registry) inputs := by
  constructor
  · exact Machine.Along.mono machine fun system input => (debitsPlannedOwner_iff system input).mp
  · exact Machine.Along.mono machine fun system input => (debitsPlannedOwner_iff system input).mpr

def boilerRegistry : Registry :=
  AList.insert 1 ⟨some ⟨500⟩, none⟩ (AList.insert 2 ⟨some ⟨500⟩, none⟩ ∅)

def boilerShortfall : ShortfallPlan where
  drainRequestId := 2
  consumeRequestId := 1
  sinkNodeId := 30
  fluidId := 9
  requested := 100
  pipeAccepted := 0
  sourceNodeId := 11
  sourceOwnerId := 1
  sourcePortId := kBoilerSteamSourcePortId
  nowTick := 0
  sourceEpoch := 1

def boilerDrain : PlannedDrain where
  ownerId := 1
  request := {
    requestId := 2
    portId := kBoilerSteamSourcePortId
    resourceKind := .fluid
    resourceId := 9
    amount := 100 }

theorem second_boiler_pays : ¬ machine.Along DebitsPlannedOwner (new 9 20 boilerRegistry)
      [.owner (.portRegister (makeSteamSourcePort 1 0 64 0 1000 100 1)),
        .owner (.portRegister (makeSteamSourcePort 2 8 64 0 1000 100 1)),
        .plan boilerShortfall, .deliver boilerDrain] := by
  intro along
  have debits := along.2.2.2.1
  exact absurd (debits 2 (by decide)) (by decide +kernel)

end DrainSystem

end GtnhPlatform.SimCore
