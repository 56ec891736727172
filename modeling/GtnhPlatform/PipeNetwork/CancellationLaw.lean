import GtnhPlatform.PipeNetwork.SnapshotReload

namespace GtnhPlatform.PipeNetwork

open GtnhPlatform.Common List

namespace PipeNetworkService

open PipeNetworkManager (SameBlocks)

variable {service : PipeNetworkService}

theorem portRegister_keeps_nodes (port : ResourcePort) (nodeId : Nat) :
    .nodeRemoved nodeId ∉ (service.handleResourcePortRegister port).2 := by
  unfold handleResourcePortRegister
  dsimp only
  split
  · simp
  · exact not_mem_nil

theorem portRegister_spares (port : ResourcePort) (other : port.resourceKind ≠ .fluid) :
    service.SparesPendings (.portRegister port) := by
  have quiet : service.handleResourcePortRegister port =
      ({ service with networkManager := (service.networkManager.registerPort port).1 }, []) := by
    unfold handleResourcePortRegister
    dsimp only
    rw [if_neg]
    simp [other]
  change (service.handleResourcePortRegister port).1.consumeTracker.pending = _ ∧
    ∀ pending, _ ∉ (service.handleResourcePortRegister port).2
  rw [quiet]
  exact ⟨rfl, fun _ => not_mem_nil⟩

theorem removePort_accepted (manager : PipeNetworkManager) (key : PortKey) (epoch : Nat) :
    (manager.removePort key epoch).2 = true ↔
      key.portId ≠ 0 ∧ (manager.ports.lookup key).map (·.epoch) = some epoch := by
  unfold PipeNetworkManager.removePort
  by_cases unnamed : key.portId = 0
  · simp [unnamed]
  rw [if_neg unnamed]
  cases manager.ports.lookup key with
  | none => simp
  | some port =>
    dsimp only
    by_cases current : port.epoch = epoch
    · rw [if_neg (not_not.mpr current)]
      exact iff_of_true rfl ⟨unnamed, congrArg some current⟩
    rw [if_pos current]
    refine iff_of_false Bool.false_ne_true ?_
    rintro ⟨_, same⟩
    exact current (Option.some.inj same)

theorem portRemove_keeps_nodes (key : PortKey) (epoch nodeId : Nat) :
    .nodeRemoved nodeId ∉ (service.handleResourcePortRemove key epoch).2 := by
  unfold handleResourcePortRemove
  dsimp only
  split
  · simp
  · exact not_mem_nil

theorem clearForPort_spares (tracker : PipeConsumeTracker) (ownerId : Nat) (named : portId ≠ 0) :
    ((tracker.clearForPort ownerId portId).1.pending = tracker.pending ∧
        (tracker.clearForPort ownerId portId).2 = []) ↔
      ∀ id pending, tracker.pending.lookup id = some pending → pending.cancelled = false →
        ¬ (pending.sourceOwnerId = ownerId ∧ pending.sourcePortId = portId) := by
  simp only [PipeConsumeTracker.clearForPort, if_neg named,
    PipeConsumeTracker.clearRejectionBackoffForPort]
  constructor
  · rintro ⟨_, none⟩ id pending found unmarked ⟨owner, port⟩
    have mem : pending ∈ tracker.pending.select fun _ pending =>
        pending.sourcePortId == portId && pending.sourceOwnerId == ownerId &&
          !pending.cancelled :=
      Table.mem_select_iff.mpr ⟨id, found, by simp [owner, port, unmarked]⟩
    rw [none] at mem
    cases mem
  · intro safe
    have unaddressed : ∀ id pending, tracker.pending.lookup id = some pending →
        (pending.sourcePortId == portId && pending.sourceOwnerId == ownerId &&
          !pending.cancelled) = false := by
      intro id pending found
      cases unmarked : pending.cancelled with
      | true => simp
      | false =>
        have apart := safe id pending found unmarked
        simp only [Bool.not_false, Bool.and_true, Bool.and_eq_false_iff, beq_eq_false_iff_ne]
        exact (not_and_or.mp apart).symm
    constructor
    · apply AList.ext
      apply filter_eq_self.mpr
      intro entry mem
      have found : tracker.pending.lookup entry.1 = some entry.2 := Table.mem_entries_iff.mp mem
      dsimp only
      rw [unaddressed _ _ found]
      rfl
    · apply eq_nil_iff_forall_not_mem.mpr
      intro pending mem
      obtain ⟨id, found, addressed⟩ := Table.mem_select_iff.mp mem
      rw [unaddressed id pending found] at addressed
      cases addressed

theorem portRemove_spares (key : PortKey) (epoch : Nat) :
    service.SparesPendings (.portRemove key epoch) ↔
      (service.Removes key epoch → ∀ id pending, service.Live id pending →
        ¬ (pending.sourceOwnerId = key.ownerId ∧ pending.sourcePortId = key.portId)) := by
  change ((service.handleResourcePortRemove key epoch).1.consumeTracker.pending = _ ∧
    ∀ pending, _ ∉ (service.handleResourcePortRemove key epoch).2) ↔ _
  simp only [handleResourcePortRemove]
  by_cases removes : service.Removes key epoch
  · have removed := (removePort_accepted service.networkManager key epoch).mpr removes
    rw [if_pos removed]
    have cleared := clearForPort_spares service.consumeTracker key.ownerId removes.1
    constructor
    · rintro ⟨same, silent⟩ _ id pending ⟨found, unmarked⟩
      refine cleared.mp ⟨same, ?_⟩ id pending found unmarked
      apply eq_nil_iff_forall_not_mem.mpr
      intro other mem
      exact silent other (mem_map.mpr ⟨other, mem, rfl⟩)
    · intro safe
      obtain ⟨same, none⟩ := cleared.mpr fun id pending found unmarked =>
        safe removes id pending ⟨found, unmarked⟩
      refine ⟨same, ?_⟩
      rw [none]
      exact fun _ => not_mem_nil
  · have refused : (service.networkManager.removePort key epoch).2 = false := by
      rw [Bool.eq_false_iff]
      exact mt (removePort_accepted service.networkManager key epoch).mp removes
    rw [refused, if_neg Bool.false_ne_true]
    exact iff_of_true ⟨rfl, fun _ => not_mem_nil⟩ fun accepted => absurd accepted removes

structure Grows (before after : PipeNetworkService) : Prop where
  counter : before.networkManager.nextNodeId ≤ after.networkManager.nextNodeId
  sites : ∀ site, after.nodeAt site = before.nodeAt site
  blocks : ∀ nodeId, (before.networkManager.blockOf nodeId).isSome →
    after.networkManager.blockOf nodeId = before.networkManager.blockOf nodeId

namespace Grows

theorem trans (before : Grows first second) (after : Grows second third) : Grows first third := by
  refine ⟨Nat.le_trans before.counter after.counter, ?_, ?_⟩
  · intro site
    rw [after.sites, before.sites]
  · intro nodeId live
    have kept := before.blocks nodeId live
    rw [after.blocks nodeId (by rw [kept]; exact live), kept]

variable {before after : PipeNetworkService}

theorem of_sameBlocks (same : SameBlocks before.networkManager after.networkManager)
    (pipes : after.pipeNodes = before.pipeNodes) (cables : after.cableNodes = before.cableNodes) :
    Grows before after := by
  refine ⟨Nat.le_of_eq same.counter.symm, ?_, fun nodeId _ => same.blocks nodeId⟩
  intro site
  cases site with
  | pipe key => exact congrArg (AList.lookup key) pipes
  | cable key => exact congrArg (AList.lookup key) cables

theorem of_quiet (quiet : Quiet before after) : Grows before after :=
  of_sameBlocks quiet.manager quiet.pipes quiet.cables

theorem refl (service : PipeNetworkService) : Grows service service := of_quiet (Quiet.refl service)

theorem books (grows : Grows before after) (books : NodeBooks before) : NodeBooks after :=
  books.keep grows.counter grows.sites grows.blocks

variable (service : PipeNetworkService)

theorem managed (same : SameBlocks service.networkManager manager) :
    Grows service { service with networkManager := manager } :=
  of_sameBlocks same rfl rfl

theorem tracked (tracker : PipeConsumeTracker) :
    Grows service { service with consumeTracker := tracker } :=
  of_sameBlocks (SameBlocks.refl _) rfl rfl

theorem addNode (position : Position) (blockId : Nat) :
    Grows service
      { service with networkManager := (service.networkManager.addNode position blockId).1 } := by
  obtain ⟨fresh, _, counter, blocks⟩ :=
    PipeNetworkManager.addNode_spec service.networkManager position blockId
  generalize service.networkManager.addNode position blockId = added at fresh counter blocks ⊢
  refine ⟨counter, ?_, ?_⟩
  · intro site
    cases site <;> rfl
  intro nodeId live
  change added.1.blockOf nodeId = _
  rw [blocks, if_neg]
  rintro rfl
  rw [fresh] at live
  cases live

theorem addNodeWithId (id : Nat) (position : Position)
    (blockId : Nat) :
    Grows service
      { service with
        networkManager := (service.networkManager.addNodeWithId id position blockId).1 } := by
  obtain ⟨counter, blocks⟩ :=
    PipeNetworkManager.addNodeWithId_spec service.networkManager id position blockId
  refine ⟨Nat.le_of_eq counter.symm, ?_, blocks⟩
  intro site
  cases site <;> rfl

theorem handleResourcePortRegister (port : ResourcePort) :
    Grows service (service.handleResourcePortRegister port).1 := by
  have registered := managed service (SameBlocks.registerPort service.networkManager port)
  simp only [PipeNetworkService.handleResourcePortRegister]
  split
  · exact registered.trans (tracked _ _)
  · exact registered

theorem handleResourcePortRemove (key : PortKey) (epoch : Nat) :
    Grows service (service.handleResourcePortRemove key epoch).1 := by
  have removed := managed service (SameBlocks.removePort service.networkManager key epoch)
  simp only [PipeNetworkService.handleResourcePortRemove]
  split
  · exact removed.trans (tracked _ _)
  · exact removed

theorem bindMachine (protocolId nodeId : Nat) (position : Position) :
    Grows service (service.bindMachine protocolId nodeId position) :=
  of_sameBlocks (SameBlocks.refl _) rfl rfl

theorem registerEnergyNode (protocolId : Nat) (position : Position) :
    Grows service (service.registerEnergyNode protocolId position).1 := by
  unfold PipeNetworkService.registerEnergyNode
  dsimp only
  split
  · exact refl service
  · split
    · exact addNodeWithId service protocolId position 1
    · exact addNode service position 1

theorem registerFluidNode (protocolId : Nat) (position : Position) :
    Grows service (service.registerFluidNode protocolId position).1 := by
  unfold PipeNetworkService.registerFluidNode
  dsimp only
  split
  · exact addNodeWithId service protocolId position blockIdFluidPipe
  · split
    · exact refl service
    · exact addNode service position blockIdFluidPipe

theorem mirror (states : Table Nat NodeState) (nodeId : Nat)
    (change : PipeNode → PipeNode) (keeps : ∀ node, (change node).blockId = node.blockId) :
    Grows service
      { service with
        networkManager := service.networkManager.updateNode nodeId change
        nodeStates := states } :=
  of_sameBlocks (SameBlocks.updateNode _ _ change keeps) rfl rfl

theorem handleNodeUpdate (update : EnergyNodeUpdate) :
    Grows service (service.handleNodeUpdate update) := by
  unfold PipeNetworkService.handleNodeUpdate
  split
  next bound nodeId registered =>
  have grown : Grows service bound := by
    split at registered
    · obtain ⟨rfl, _⟩ := Prod.mk.inj registered
      exact refl service
    dsimp only at registered
    rw [← (Prod.mk.inj registered).1]
    split
    · exact registerEnergyNode service _ _
    · exact (registerEnergyNode service _ _).trans (bindMachine _ _ _ _)
  split
  · exact grown
  refine grown.trans (trans ?_ (of_quiet (Quiet.connectEach _ _ _)))
  have linked : ∀ mirrored : PipeNetworkService, Grows mirrored
      (if update.type = .heat then
        mirrored.connectNodeNeighbors nodeId update.position 0 false true false
      else if update.type = .electricity ∨ update.type = .rotation then
        mirrored.connectEnergyNeighbors nodeId update.position
      else mirrored) := by
    intro mirrored
    split
    · exact of_quiet (Quiet.connectNodeNeighbors _ _ _ _ _ _ _)
    · split
      · exact of_quiet (Quiet.connectEnergyNeighbors _ _ _)
      · exact refl mirrored
  refine trans ?_ (linked _)
  by_cases energy : update.type = .electricity ∨ update.type = .rotation
  · simp only [if_pos energy]
    exact mirror bound _ nodeId _ fun _ => rfl
  · simp only [if_neg energy]
    exact mirror bound _ nodeId _ fun _ => rfl

theorem handleFluidNodeUpdate (update : FluidNodeUpdate) :
    Grows service (service.handleFluidNodeUpdate update) := by
  unfold PipeNetworkService.handleFluidNodeUpdate
  split
  next bound nodeId registered =>
  have grown : Grows service bound := by
    split at registered
    · obtain ⟨rfl, _⟩ := Prod.mk.inj registered
      exact refl service
    · obtain ⟨rfl, _⟩ := Prod.mk.inj registered
      exact (registerFluidNode service _ _).trans (bindMachine _ _ _ _)
  refine grown.trans (trans ?_ (of_quiet (Quiet.connectNodeNeighbors _ _ _ _ _ _ _)))
  refine trans ?_ (of_quiet (Quiet.connectEach _ _ _))
  exact mirror bound _ nodeId _ fun _ => rfl

theorem handleItemNodeUpdate (update : ItemNodeUpdate) :
    Grows service (service.handleItemNodeUpdate update) := by
  unfold PipeNetworkService.handleItemNodeUpdate
  dsimp only
  split
  · exact refl service
  rename_i bound nodeId registered
  have grown : Grows service bound := by
    split at registered
    · obtain ⟨rfl, _⟩ := Prod.mk.inj (Option.some.inj registered)
      exact refl service
    split at registered
    · obtain ⟨rfl, _⟩ := Prod.mk.inj (Option.some.inj registered)
      exact (addNodeWithId service _ _ 0).trans (bindMachine _ _ _ _)
    · cases registered
  have capped : SameBlocks bound.networkManager
      (bound.networkManager.setNodeItemProps nodeId
        ((max update.capacity 0).toNat % 2 ^ 8) update.isSource update.isSink) :=
    SameBlocks.updateNode _ _ _ fun _ => rfl
  have filled := capped.trans (SameBlocks.addItems _ nodeId update.items)
  refine grown.trans (trans (managed bound filled) (of_quiet ?_))
  split
  · exact Quiet.connectNodeNeighbors _ _ _ _ _ _ _
  · exact Quiet.connectEach _ _ _

theorem requestSource (nodeId consumeRequestId fluidId : Nat)
    (requested pipeAccepted : Int) : Grows service
      (service.requestSource nodeId consumeRequestId fluidId requested pipeAccepted).1 := by
  unfold PipeNetworkService.requestSource
  dsimp only
  split
  · exact refl service
  · split
    · exact of_sameBlocks (SameBlocks.refl _) rfl rfl
    · exact of_sameBlocks (SameBlocks.refl _) rfl rfl

theorem resolveConsumer {service resolved : PipeNetworkService}
    (found : service.resolveConsumer request = some (resolved, nodeId)) :
    Grows service resolved := by
  unfold PipeNetworkService.resolveConsumer at found
  split at found
  · obtain ⟨rfl, _⟩ := Prod.mk.inj (Option.some.inj found)
    exact refl service
  · obtain ⟨bound, _, equality⟩ := Option.map_eq_some_iff.mp found
    obtain ⟨rfl, _⟩ := Prod.mk.inj equality
    exact of_sameBlocks (SameBlocks.refl _) rfl rfl

variable (service : PipeNetworkService)

theorem serve (call : PipeNetworkManager.ConsumeCall)
    (nextTxnId : Nat) :
    Grows service
      { service with
        networkManager := (service.networkManager.consumeFluid call).1
        nextTxnId := nextTxnId } :=
  of_sameBlocks (SameBlocks.consumeFluid _ _) rfl rfl

theorem handleFluidConsumeRequest (request : FluidConsumeReq) :
    Grows service (service.handleFluidConsumeRequest request).1 := by
  unfold PipeNetworkService.handleFluidConsumeRequest
  split
  · exact refl service
  rename_i resolved nodeId found
  have grown := resolveConsumer found
  split
  · exact grown
  have served := serve resolved ⟨nodeId, wrapU64 (resolved.nextTxnId + 1), request.fluidId,
    request.amount⟩ (wrapU64 (resolved.nextTxnId + 1))
  dsimp only
  split
  · exact grown.trans (trans served (requestSource _ _ _ _ _ _))
  · exact grown.trans served

theorem cancelDrain (drainRequestId : Nat) : Grows service (service.cancelDrain drainRequestId).1 :=
  tracked service _

theorem handleResourceDrainResponse (response : ResourceTransferResponse) :
    Grows service (service.handleResourceDrainResponse response).1 := by
  unfold PipeNetworkService.handleResourceDrainResponse
  split
  · exact refl service
  split
  · exact cancelDrain service _
  · split
    · exact refl service
    · exact tracked service _

theorem retryAll (retries : List DrainRetry) : Grows service (service.retryAll retries).1 := by
  induction retries generalizing service with
  | nil => exact refl service
  | cons retry rest ih =>
    unfold PipeNetworkService.retryAll
    dsimp only [continueWith]
    refine trans ?_ (ih _)
    split
    · exact refl service
    · exact cancelDrain service _

theorem tick : Grows service service.tick.1 := by
  unfold PipeNetworkService.tick
  dsimp only [continueWith]
  refine trans ?_ (tracked _ _)
  refine trans ?_ (retryAll _ _)
  exact of_sameBlocks (SameBlocks.refl _) rfl rfl

end Grows

theorem requestSource_keeps_nodes (nodeId consumeRequestId fluidId : Nat)
    (requested pipeAccepted : Int) (other : Nat) : .nodeRemoved other ∉
      (service.requestSource nodeId consumeRequestId fluidId requested pipeAccepted).2 := by
  unfold requestSource
  dsimp only
  split
  · simp
  · split <;> simp

theorem fluidConsume_keeps_nodes (request : FluidConsumeReq) (nodeId : Nat) :
    .nodeRemoved nodeId ∉ (service.handleFluidConsumeRequest request).2 := by
  unfold handleFluidConsumeRequest
  split
  · simp
  split
  · simp
  dsimp only
  split
  · exact requestSource_keeps_nodes _ _ _ _ _ _
  · simp

theorem drainResponse_keeps_nodes (response : ResourceTransferResponse) (nodeId : Nat) :
    .nodeRemoved nodeId ∉ (service.handleResourceDrainResponse response).2 := by
  unfold handleResourceDrainResponse
  split
  · simp
  · split
    · simp [cancelDrain]
    · split <;> simp

theorem retryAll_keeps_nodes (service : PipeNetworkService) (retries : List DrainRetry)
    (nodeId : Nat) : .nodeRemoved nodeId ∉ (service.retryAll retries).2 := by
  induction retries generalizing service with
  | nil => exact not_mem_nil
  | cons retry rest ih =>
    unfold retryAll
    dsimp only [continueWith]
    rw [mem_append, not_or]
    refine ⟨?_, ih _⟩
    split <;> simp [cancelDrain]

theorem tick_keeps_nodes (nodeId : Nat) : .nodeRemoved nodeId ∉ service.tick.2 := by
  unfold tick
  dsimp only [continueWith]
  rw [mem_append, not_or]
  refine ⟨retryAll_keeps_nodes _ _ _, ?_⟩
  simp

theorem handle_books (books : NodeBooks service) (input : ServiceInput) :
    NodeBooks (service.handle input).1 := by
  cases input with
  | blockChanged position blockId blockMeta =>
    by_cases air : blockId = 0
    · subst air
      exact (handleAir_spec books _).1
    · exact (handleBlockChanged_spec books position air blockMeta).1
  | chunkLoaded chunk => exact (handleChunkLoaded_spec books chunk).1
  | portRegister port => exact (Grows.handleResourcePortRegister service port).books books
  | portRemove key epoch => exact (Grows.handleResourcePortRemove service key epoch).books books
  | nodeUpdate update => exact (Grows.handleNodeUpdate service update).books books
  | fluidNodeUpdate update => exact (Grows.handleFluidNodeUpdate service update).books books
  | itemNodeUpdate update => exact (Grows.handleItemNodeUpdate service update).books books
  | fluidConsume request => exact (Grows.handleFluidConsumeRequest service request).books books
  | drainResponse response =>
    exact (Grows.handleResourceDrainResponse service response).books books
  | tick => exact (Grows.tick service).books books

variable {input : ServiceInput}

theorem cancelsExactly_of_no_port (noPort : portKind input = none) :
    service.CancelsExactly input ↔ service.CancelsRemoved input := by
  constructor
  · exact CancelsExactly.removed
  intro removed
  refine ⟨removed, ?_⟩
  intro kind onPort
  rw [noPort] at onPort
  cases onPort

theorem cancelsExactly_of_keeps (noPort : portKind input = none)
    (keeps : ∀ nodeId, .nodeRemoved nodeId ∉ (service.handle input).2) :
    service.CancelsExactly input := by
  apply (cancelsExactly_of_no_port noPort).mpr
  intro nodeId removed
  exact absurd removed (keeps nodeId)

theorem handle_cancelsExactly_iff (books : NodeBooks service) (input : ServiceInput) :
    service.CancelsExactly input ↔ service.NoneAtRisk input := by
  cases input with
  | blockChanged position blockId blockMeta =>
    rw [cancelsExactly_of_no_port rfl]
    by_cases air : blockId = 0
    · subst air
      exact cancelsRemoved_air books position blockMeta
    · exact cancelsRemoved_solid books position air blockMeta
  | chunkLoaded chunk =>
    rw [cancelsExactly_of_no_port rfl]
    have log : RemovalLog (service.handle (.chunkLoaded chunk)).2
        (service.ChunkDisplaces chunk) := (handleChunkLoaded_spec books chunk).2.2
    exact cancelsRemoved_iff_of_log log
  | portRegister port =>
    refine iff_of_true ⟨?_, ?_⟩ trivial
    · intro nodeId removed
      exact absurd removed (portRegister_keeps_nodes port nodeId)
    · intro kind onPort other
      cases onPort
      exact portRegister_spares port other
  | portRemove key epoch =>
    constructor
    · intro exactly other
      exact (portRemove_spares key epoch).mp (exactly.otherKinds key.resourceKind rfl other)
    intro safe
    refine ⟨?_, ?_⟩
    · intro nodeId removed
      exact absurd removed (portRemove_keeps_nodes key epoch nodeId)
    · intro kind onPort other
      cases onPort
      exact (portRemove_spares key epoch).mpr (safe other)
  | nodeUpdate update =>
    exact iff_of_true (cancelsExactly_of_keeps rfl fun _ => not_mem_nil) trivial
  | fluidNodeUpdate update =>
    exact iff_of_true (cancelsExactly_of_keeps rfl fun _ => not_mem_nil) trivial
  | itemNodeUpdate update =>
    exact iff_of_true (cancelsExactly_of_keeps rfl fun _ => not_mem_nil) trivial
  | fluidConsume request =>
    exact iff_of_true (cancelsExactly_of_keeps rfl (fluidConsume_keeps_nodes request)) trivial
  | drainResponse response =>
    exact iff_of_true (cancelsExactly_of_keeps rfl (drainResponse_keeps_nodes response)) trivial
  | tick => exact iff_of_true (cancelsExactly_of_keeps rfl tick_keeps_nodes) trivial

theorem cancelsExactly_iff_noneAtRisk (seed : Nat) (inputs : List ServiceInput) :
    machine.Along CancelsExactly (start seed) inputs ↔
      machine.Along NoneAtRisk (start seed) inputs := by
  have keeps : ∀ current input, NodeBooks current → NodeBooks (machine.step current input).1 :=
    fun _ input books => handle_books books input
  have agree : ∀ current input, NodeBooks current →
      (CancelsExactly current input ↔ NoneAtRisk current input) :=
    fun _ input books => handle_cancelsExactly_iff books input
  exact machine.along_congr keeps agree (NodeBooks.start seed) inputs

def tankSource : FluidNodeUpdate where
  nodeId := 7
  position := ⟨1, 0, 0⟩
  fluidId := 5
  amount := 100
  capacity := 100
  isSource := true
  isSink := false
  connectedNodes := []

def displacedSink : List ServiceInput :=
  [.blockChanged ⟨0, 0, 0⟩ blockIdFluidPipe 0, .fluidNodeUpdate {
      nodeId := 1
      position := ⟨0, 0, 0⟩
      fluidId := 0
      amount := 0
      capacity := 100
      isSource := false
      isSink := true
      connectedNodes := [] },
    .fluidNodeUpdate tankSource,
    .fluidConsume ⟨1, ⟨0, 0, 0⟩, 5, 10⟩]

def tankPort (kind : ResourceKind) : ResourcePort where
  portId := 1
  ownerId := 9
  resourceKind := kind
  role := .source
  x := 1
  y := 0
  z := 0
  facePolicy := .allFaces
  faceMask := 0
  capacity := 100
  rate := 100
  epoch := 1

def sharedPortId : List ServiceInput :=
  [.fluidNodeUpdate tankSource, .fluidNodeUpdate {
      nodeId := 8
      position := ⟨0, 0, 0⟩
      fluidId := 0
      amount := 0
      capacity := 100
      isSource := false
      isSink := true
      connectedNodes := [7] },
    .portRegister (tankPort .fluid),
    .portRegister (tankPort .eu),
    .fluidConsume ⟨8, ⟨0, 0, 0⟩, 5, 10⟩]

theorem displaced_sink_and_shared_port_break_law : ¬ machine.Along CancelsExactly (start 0)
        (displacedSink ++ [.blockChanged ⟨0, 0, 0⟩ 5 0]) ∧ ¬ machine.Along CancelsExactly (start 0)
        (sharedPortId ++ [.portRemove ⟨9, .eu, 1⟩ 1]) := by
  constructor
  · intro along
    have law := ((machine.along_concat _ _ _ _).mp along).2
    have removed : ServiceEvent.nodeRemoved 1 ∈
        ((machine.final (start 0) displacedSink).handle (.blockChanged ⟨0, 0, 0⟩ 5 0)).2 := by
      decide +kernel
    have waiting : ∃ pending, (machine.final (start 0) displacedSink).Live 2 pending ∧
        Tied pending 1 := by
      refine ⟨_, ⟨rfl, ?_⟩, ?_⟩ <;> decide +kernel
    obtain ⟨pending, live, tied⟩ := waiting
    have ended := law.removed 1 removed 2 pending live tied
    have silent : ((machine.final (start 0) displacedSink).handle
        (.blockChanged ⟨0, 0, 0⟩ 5 0)).2 = [.nodeRemoved 1] := by
      decide +kernel
    have completed := ended.completed
    rw [silent] at completed
    simp at completed
  · intro along
    have law := ((machine.along_concat _ _ _ _).mp along).2
    have spared := law.otherKinds .eu rfl (by decide)
    have completed : ServiceEvent.completed {
        drainRequestId := 2
        consumeRequestId := 1
        sinkNodeId := 8
        sourceNodeId := 7
        sourceOwnerId := 9
        sourcePortId := 1
        sourceEpoch := 1
        fluidId := 5
        requested := 10
        pipeAccepted := 0
        expiresAt := 50
        retryCount := 0
        nextRetryAt := 2
        cancelled := false } ∈
        ((machine.final (start 0) sharedPortId).handle (.portRemove ⟨9, .eu, 1⟩ 1)).2 := by
      decide +kernel
    exact spared.2 _ completed

end PipeNetworkService

end GtnhPlatform.PipeNetwork
