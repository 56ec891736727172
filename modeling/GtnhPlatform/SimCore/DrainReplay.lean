import GtnhPlatform.SimCore.ResourceDrain

namespace GtnhPlatform.SimCore

open GtnhPlatform.Common GtnhPlatform.Sim ResourceDrainHandler List

def OwnerInput.requestId? : OwnerInput → Option Nat
  | .drain request => some request.requestId
  | _ => none

def otherIds (id : Nat) (inputs : List OwnerInput) : Finset Nat :=
  ((inputs.filterMap OwnerInput.requestId?).filter fun other => other ≠ id).toFinset

theorem otherIds_concat_drain {id : Nat} (inputs : List OwnerInput)
    {request : ResourceTransferRequest} (other : request.requestId ≠ id) :
    otherIds id (inputs ++ [.drain request]) = insert request.requestId (otherIds id inputs) := by
  simp [otherIds, OwnerInput.requestId?, filterMap_append, other]

theorem otherIds_mono (id : Nat) (inputs : List OwnerInput) (input : OwnerInput) :
    otherIds id inputs ⊆ otherIds id (inputs ++ [input]) := by
  simp only [otherIds, filterMap_append, filter_append, toFinset_append]
  exact Finset.subset_union_left

namespace DrainOwner

/-- Whether a step drops a cached answer that was given for `portId` on behalf
of `ownerId`: the port is removed under its exact key, or the owner goes while
it still has a port. -/
def PurgesAnswer (portId : PortId) (ownerId : Nat) (owner : DrainOwner) : OwnerInput → Prop
  | .portRemove key => key.portId = portId ∧ (owner.handler.exactPort key).isSome
  | .ownerRemoved removed => removed = ownerId ∧ owner.handler.ownsPort removed
  | _ => False

def recordedOwner (owner : DrainOwner) (request : ResourceTransferRequest) : Nat :=
  ((owner.handler.ports.lookup request.portId).map ResourcePort.ownerId).getD 0

structure Queues (inputs : List OwnerInput) (owner : DrainOwner) : Prop where
  queued : EvictingCache.Queued owner.handler.replay.entries owner.handler.replay.order
  handled : ∀ id ∈ owner.handler.replay.order, id ∈ inputs.filterMap OwnerInput.requestId?

theorem registers_replay (handler : ResourceDrainHandler) (port : ResourcePort) :
    (handler.handlePortRegister port).replay = handler.replay := by
  unfold handlePortRegister
  split
  · rfl
  split
  · rfl
  · split
    · rfl
    · split <;> rfl

variable {owner : DrainOwner} {inputs : List OwnerInput}

theorem Queues.step (queues : Queues inputs owner) (input : OwnerInput) :
    Queues (inputs ++ [input]) (owner.step input).1 := by
  have earlier : ∀ id ∈ owner.handler.replay.order,
      id ∈ (inputs ++ [input]).filterMap OwnerInput.requestId? := by
    intro id mem
    rw [filterMap_append]
    exact mem_append_left _ (queues.handled id mem)
  cases input with
  | portRegister port =>
    simp only [DrainOwner.step]
    constructor
    · rw [registers_replay]
      exact queues.queued
    · rw [registers_replay]
      exact earlier
  | portRemove key =>
    simp only [DrainOwner.step, handlePortRemove]
    cases owner.handler.exactPort key with
    | none => exact ⟨queues.queued, earlier⟩
    | some port => exact ⟨EvictingCache.purge_queued queues.queued _, earlier⟩
  | ownerRemoved ownerId =>
    simp only [DrainOwner.step, removeOwnerPorts]
    cases owner.handler.ownsPort ownerId with
    | true => exact ⟨EvictingCache.purge_queued queues.queued _, earlier⟩
    | false => exact ⟨queues.queued, earlier⟩
  | drain request =>
    simp only [DrainOwner.step, handleDrainRequest]
    by_cases unset : request.requestId = 0
    · rw [if_pos unset]
      exact ⟨queues.queued, earlier⟩
    rw [if_neg unset]
    cases owner.handler.replay.lookup request.requestId with
    | some entry => exact ⟨queues.queued, earlier⟩
    | none =>
      refine ⟨EvictingCache.insert_queued queues.queued _ _, ?_⟩
      intro id mem
      cases EvictingCache.mem_order_of_insert mem with
      | inl old => exact earlier id old
      | inr new => simp [OwnerInput.requestId?, new]
  | simulate registry => exact ⟨queues.queued, earlier⟩

theorem queues_run (steamId : Nat) (registry : Registry) (inputs : List OwnerInput) :
    Queues inputs (machine.final (new steamId registry) inputs) := by
  refine machine.invariant (fun _ _ => True) (fun inputs owner _ => Queues inputs owner)
    ?_ ?_ inputs (machine.along_true _ _)
  · constructor
    · intro id entry found
      simp [new, ResourceDrainHandler.new, EvictingCache.empty] at found
    · intro id mem
      simp [new, ResourceDrainHandler.new, EvictingCache.empty] at mem
  · intro inputs owner _ input queues _
    exact queues.step input

variable {entry : ReplayEntry}

theorem holds_step {id : Nat} {newer : Finset Nat}
    (holds : EvictingCache.Holds owner.handler.replay id entry newer) (input : OwnerInput)
    (kept : ¬ PurgesAnswer entry.response.portId entry.ownerId owner input)
    (room : ∀ request, input = .drain request → request.requestId ≠ id →
      (insert request.requestId newer).card < kReplayCacheMaxEntries) :
    EvictingCache.Holds (owner.step input).1.handler.replay id entry
      (newer ∪ otherIds id [input]) := by
  have wider : EvictingCache.Holds owner.handler.replay id entry (newer ∪ otherIds id [input]) :=
    holds.mono Finset.subset_union_left
  cases input with
  | portRegister port =>
    simp only [step]
    rw [registers_replay]
    exact wider
  | portRemove key =>
    simp only [step, handlePortRemove]
    cases exact : owner.handler.exactPort key with
    | none => exact wider
    | some port =>
      refine wider.purge _ ?_
      have otherPort : entry.response.portId ≠ key.portId := by
        intro same
        exact kept ⟨same.symm, by rw [exact]; rfl⟩
      simpa using otherPort
  | ownerRemoved removed =>
    simp only [step, removeOwnerPorts]
    cases owns : owner.handler.ownsPort removed with
    | false => exact wider
    | true =>
      refine wider.purge _ ?_
      have otherOwner : entry.ownerId ≠ removed := by
        intro same
        exact kept ⟨same.symm, owns⟩
      simpa using otherOwner
  | drain request =>
    simp only [step, handleDrainRequest]
    by_cases unset : request.requestId = 0
    · rw [if_pos unset]
      exact wider
    rw [if_neg unset]
    cases found : owner.handler.replay.lookup request.requestId with
    | some cached => exact wider
    | none =>
      have other : request.requestId ≠ id := by
        intro same
        have cached := holds.cached
        rw [← same, found] at cached
        contradiction
      have counted : newer ∪ otherIds id [.drain request] =
          insert request.requestId newer := by
        simp [otherIds, OwnerInput.requestId?, other]
      rw [counted]
      exact holds.insert _ _ other (room request rfl other)
  | simulate registry => exact wider

variable {request : ResourceTransferRequest}

theorem step_drain_cached (identity : request.requestId ≠ 0)
    (cached : owner.handler.replay.lookup request.requestId = some entry) :
    owner.step (.drain request) = (owner, [.drained entry.response]) := by
  simp only [step, handleDrainRequest, if_neg identity, cached]

theorem holds_first (queues : Queues inputs owner) (identity : request.requestId ≠ 0)
    (fresh : request.requestId ∉ inputs.filterMap OwnerInput.requestId?) :
    ∃ entry, EvictingCache.Holds (owner.step (.drain request)).1.handler.replay
        request.requestId entry ∅ ∧
      entry.response.portId = request.portId ∧ entry.ownerId = owner.recordedOwner request ∧
      (owner.step (.drain request)).2 = [.drained entry.response] := by
  have unqueued : request.requestId ∉ owner.handler.replay.order := fun mem =>
    fresh (queues.handled _ mem)
  have uncached : owner.handler.replay.lookup request.requestId = none := by
    cases found : owner.handler.replay.lookup request.requestId with
    | none => rfl
    | some entry => exact absurd (queues.queued _ _ found) unqueued
  refine ⟨(owner.handler.executeDrain owner.registry request).2, ?_, ?_, ?_, ?_⟩
  · simp only [step, handleDrainRequest, if_neg identity, uncached]
    exact EvictingCache.insert_holds (by decide) queues.queued _ unqueued
  · exact executeDrain_portId owner.handler owner.registry request
  · exact executeDrain_ownerId owner.handler owner.registry request
  · simp only [step, handleDrainRequest, if_neg identity, uncached]

/-- A redelivery takes nothing and answers as the first delivery did. -/
structure AnsweredOnce (owner : DrainOwner) (first : ResourceTransferRequest)
    (between : List OwnerInput) (again : ResourceTransferRequest) : Prop where
  registry :
    let later := machine.final (owner.step (.drain first)).1 between
    (later.step (.drain again)).1.registry = later.registry
  answer :
    let later := machine.final (owner.step (.drain first)).1 between
    (later.step (.drain again)).2 = (owner.step (.drain first)).2

theorem redelivery_answeredOnce (steamId : Nat) (registry : Registry)
    (before between : List OwnerInput) (first again : ResourceTransferRequest)
    (identity : first.requestId ≠ 0) (same : again.requestId = first.requestId)
    (fresh : first.requestId ∉ before.filterMap OwnerInput.requestId?)
    (few : (otherIds first.requestId between).card < kReplayCacheMaxEntries)
    (unpurged : let owner := machine.final (new steamId registry) before
      machine.Along (fun later input =>
          ¬ PurgesAnswer first.portId (owner.recordedOwner first) later input)
        (owner.step (.drain first)).1 between) :
    AnsweredOnce (machine.final (new steamId registry) before) first between again := by
  have queues := queues_run steamId registry before
  generalize machine.final (new steamId registry) before = owner at unpurged queues ⊢
  obtain ⟨entry, held, portEq, ownerEq, answered⟩ := holds_first queues identity fresh
  have holds : EvictingCache.Holds
      (machine.final (owner.step (.drain first)).1 between).handler.replay first.requestId entry
      (otherIds first.requestId between) := by
    refine machine.invariant
      (fun later input => ¬ PurgesAnswer first.portId (owner.recordedOwner first) later input)
      (fun inputs later _ => (otherIds first.requestId inputs).card < kReplayCacheMaxEntries →
        EvictingCache.Holds later.handler.replay first.requestId entry
          (otherIds first.requestId inputs)) ?_ ?_ between unpurged few
    · intro _
      exact held
    intro inputs later _ input ih kept few
    have fewer := (Finset.card_le_card (otherIds_mono first.requestId inputs input)).trans_lt few
    have split : otherIds first.requestId (inputs ++ [input]) =
        otherIds first.requestId inputs ∪ otherIds first.requestId [input] := by
      simp [otherIds, filterMap_append]
    rw [split]
    refine holds_step (ih fewer) input ?_ ?_
    · rw [portEq, ownerEq]
      exact kept
    · intro request equality other
      rw [equality, otherIds_concat_drain inputs other] at few
      exact few
  have nonzero : again.requestId ≠ 0 := by
    rw [same]
    exact identity
  have cached : (machine.final (owner.step (.drain first)).1 between).handler.replay.lookup
      again.requestId = some entry := by
    rw [same]
    exact holds.cached
  have repeated := step_drain_cached nonzero cached
  constructor
  · exact congrArg (fun result => result.1.registry) repeated
  · exact (congrArg Prod.snd repeated).trans answered.symm

def tankRegistry : Registry := AList.insert 1 ⟨none, some ⟨5, 100, 100, 100, 100⟩⟩ ∅

def tankPort : ResourcePort where
  portId := 258
  ownerId := 1
  resourceKind := .fluid
  role := .source
  x := 0
  y := 64
  z := 0
  facePolicy := .allFaces
  faceMask := 63
  capacity := 100
  rate := 100
  epoch := 1

def tankDrain (requestId : Nat) : ResourceTransferRequest where
  requestId := requestId
  portId := 258
  resourceKind := .fluid
  resourceId := 5
  amount := 30

theorem redelivery_answeredOnce_tank :
    AnsweredOnce (machine.final (new 0 tankRegistry) [.portRegister tankPort]) (tankDrain 7)
      [.drain (tankDrain 8), .portRegister { tankPort with epoch := 2 }, .ownerRemoved 4]
      (tankDrain 7) := by
  refine redelivery_answeredOnce 0 tankRegistry [.portRegister tankPort] _ (tankDrain 7)
    (tankDrain 7) (by decide) rfl (by decide) (by decide) ?_
  exact ⟨id, id, fun purges => absurd purges.1 (by decide), trivial⟩

theorem redelivery_not_always_answeredOnce :
    ¬ ∀ (steamId : Nat) (registry : Registry) (before between : List OwnerInput)
      (request : ResourceTransferRequest), request.requestId ≠ 0 →
      request.requestId ∉ before.filterMap OwnerInput.requestId? →
      (otherIds request.requestId between).card < kReplayCacheMaxEntries →
      AnsweredOnce (machine.final (new steamId registry) before) request between request := by
  intro always
  have once := always 0 tankRegistry [.portRegister tankPort]
    [.portRemove tankPort.registrationKey, .portRegister tankPort] (tankDrain 7)
    (by decide) (by decide) (by decide)
  have kept := congrArg (AList.lookup 1) once.registry
  exact absurd kept (by decide)

end DrainOwner

end GtnhPlatform.SimCore
