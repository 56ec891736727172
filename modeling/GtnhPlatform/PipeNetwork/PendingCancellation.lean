import GtnhPlatform.PipeNetwork.NodeBooks

namespace GtnhPlatform.PipeNetwork

open GtnhPlatform.Common PipeNetworkManager.SameBlocks PipeConsumeTracker List

namespace PipeNetworkService

def Tied (pending : PendingConsume) (nodeId : Nat) : Prop :=
  pending.sourceNodeId = nodeId ∨ pending.sinkNodeId = nodeId

instance (pending : PendingConsume) (nodeId : Nat) : Decidable (Tied pending nodeId) := by
  unfold Tied
  infer_instance

variable (service : PipeNetworkService)

def Live (id : Nat) (pending : PendingConsume) : Prop :=
  service.consumeTracker.pending.lookup id = some pending ∧ pending.cancelled = false

structure Ends (result : PipeNetworkService × List ServiceEvent) (id : Nat)
    (pending : PendingConsume) : Prop where
  cancelled : result.1.consumeTracker.pending.lookup id =
    some (PipeConsumeTracker.markCancelled pending)
  completed : .completed (PipeConsumeTracker.markCancelled pending) ∈ result.2

def CancelsRemoved (input : ServiceInput) : Prop :=
  ∀ nodeId, .nodeRemoved nodeId ∈ (service.handle input).2 →
    ∀ id pending, service.Live id pending → Tied pending nodeId →
      Ends (service.handle input) id pending

def SparesPendings (input : ServiceInput) : Prop :=
  (service.handle input).1.consumeTracker.pending = service.consumeTracker.pending ∧
    ∀ pending, .completed pending ∉ (service.handle input).2

def portKind : ServiceInput → Option ResourceKind
  | .portRegister port => some port.resourceKind
  | .portRemove key _ => some key.resourceKind
  | _ => none

structure CancelsExactly (service : PipeNetworkService) (input : ServiceInput) : Prop where
  removed : service.CancelsRemoved input
  otherKinds : ∀ kind, portKind input = some kind → kind ≠ .fluid → service.SparesPendings input

def Free (nodeId : Nat) : Prop :=
  ∀ id pending, service.Live id pending → ¬ Tied pending nodeId

def Displaces (position : Position) (blockId nodeId : Nat) : Prop :=
  (isCableBlock blockId = false ∧ service.nodeAt (.cable (pipePosKey position)) = some nodeId) ∨
    (service.nodeAt (.pipe (pipePosKey position)) = some nodeId ∧
      (isPipeBlock blockId = true → service.networkManager.blockOf nodeId ≠ some blockId))

def ChunkDisplaces (chunk : ChunkBlocks) (nodeId : Nat) : Prop :=
  (∃ key ∈ (service.chunkPipePositions.lookup chunk.coord).getD [],
      key ∉ (snapshotPipes chunk).map (fun pipe => pipePosKey pipe.position) ∧
        service.nodeAt (.pipe key) = some nodeId) ∨
    ∃ pipe ∈ snapshotPipes chunk, service.nodeAt (.pipe (pipePosKey pipe.position)) = some nodeId ∧
        service.networkManager.blockOf nodeId ≠ some pipe.blockId

def AirCancels (position : Position) (nodeId : Nat) : Prop :=
  service.nodeAt (.pipe (pipePosKey position)) = some nodeId ∨
    (service.machineNodes.lookup (pipePosKey position) = some nodeId ∧ nodeId ≠ 0)

def Removes (key : PortKey) (epoch : Nat) : Prop :=
  key.portId ≠ 0 ∧ (service.networkManager.ports.lookup key).map (·.epoch) = some epoch

def NoneAtRisk : ServiceInput → Prop
  | .blockChanged position blockId _ =>
    if blockId = 0 then
      ∀ nodeId, service.nodeAt (.cable (pipePosKey position)) = some nodeId →
        ∀ id pending, service.Live id pending → Tied pending nodeId →
          ∃ other, service.AirCancels position other ∧ Tied pending other
    else ∀ nodeId, service.Displaces position blockId nodeId → service.Free nodeId
  | .chunkLoaded chunk => ∀ nodeId, service.ChunkDisplaces chunk nodeId → service.Free nodeId
  | .portRemove key epoch =>
    key.resourceKind ≠ .fluid → service.Removes key epoch → ∀ id pending, service.Live id pending →
        ¬ (pending.sourceOwnerId = key.ownerId ∧ pending.sourcePortId = key.portId)
  | _ => True

structure RemovalLog (events : List ServiceEvent) (gone : Nat → Prop) : Prop where
  only : ∀ event ∈ events, ∃ nodeId, event = .nodeRemoved nodeId
  mem : ∀ nodeId, .nodeRemoved nodeId ∈ events ↔ gone nodeId

theorem removalLog_map (nodes : List Nat) : RemovalLog (nodes.map .nodeRemoved) (· ∈ nodes) := by
  constructor
  · intro event member
    obtain ⟨nodeId, _, rfl⟩ := mem_map.mp member
    exact ⟨nodeId, rfl⟩
  · intro nodeId
    simp

variable {gone also : Nat → Prop}

theorem RemovalLog.append (before : RemovalLog first gone) (after : RemovalLog second also) :
    RemovalLog (first ++ second) fun nodeId => gone nodeId ∨ also nodeId := by
  constructor
  · intro event member
    rcases mem_append.mp member with early | late
    · exact before.only event early
    · exact after.only event late
  · intro nodeId
    rw [mem_append, before.mem, after.mem]

variable {events : List ServiceEvent}

theorem RemovalLog.congr
    (log : RemovalLog events gone) (same : ∀ nodeId, gone nodeId ↔ also nodeId) :
    RemovalLog events also :=
  ⟨log.only, fun nodeId => (log.mem nodeId).trans (same nodeId)⟩

theorem RemovalLog.not_completed {gone : Nat → Prop} (log : RemovalLog events gone)
    (pending : PendingConsume) : .completed pending ∉ events := by
  intro member
  obtain ⟨nodeId, equality⟩ := log.only _ member
  cases equality

theorem cancelsRemoved_iff_of_log {service : PipeNetworkService} {gone : Nat → Prop}
    (log : RemovalLog (service.handle input).2 gone) :
    service.CancelsRemoved input ↔ ∀ nodeId, gone nodeId → service.Free nodeId := by
  constructor
  · intro cancels nodeId removed id pending live tied
    have ended := cancels nodeId ((log.mem nodeId).mpr removed) id pending live tied
    exact log.not_completed _ ended.completed
  · intro free nodeId removed id pending live tied
    exact absurd tied (free nodeId ((log.mem nodeId).mp removed) id pending live)

variable {service : PipeNetworkService}

variable (books : NodeBooks service)

include books

theorem registerPipeBlock_log (position : Position)
    (blockId blockMeta : Nat) :
    RemovalLog (service.registerPipeBlock position blockId blockMeta).2 fun nodeId =>
      service.nodeAt (.pipe (pipePosKey position)) = some nodeId ∧
        service.networkManager.blockOf nodeId ≠ some blockId := by
  rw [registerPipeBlock_events books]
  apply (removalLog_map _).congr
  intro nodeId
  simp

theorem removePipeAt_log (key : Nat) :
    RemovalLog (service.removePipeAt key).2 fun nodeId =>
      service.nodeAt (.pipe key) = some nodeId := by
  rw [removePipeAt_events books]
  apply (removalLog_map _).congr
  intro nodeId
  simp

theorem removeCableAt_log (key : Nat) :
    RemovalLog (service.removeCableAt key).2 fun nodeId =>
      service.nodeAt (.cable key) = some nodeId := by
  rw [removeCableAt_events books]
  apply (removalLog_map _).congr
  intro nodeId
  simp

theorem placePipe_outside (position : Position) (blockId blockMeta : Nat) :
    Outside (· = .pipe (pipePosKey position)) service
      (service.placePipe position blockId blockMeta).1 := by
  have registered := registerPipeBlock_outside books position blockId blockMeta
  refine registered.trans (Outside.of_quiet registered.books ?_)
  unfold placePipe
  dsimp only
  generalize (service.registerPipeBlock position blockId blockMeta).1 = current
  exact ((Quiet.setMask _ _ _ _).trans (Quiet.rememberPosition _ _)).trans
    ((Quiet.refreshPipeConnections _ _ _ _ _).trans (Quiet.withManager (rebuildItemNetworks _)))

theorem displacePipe_outside (key : Nat) :
    Outside (· = .pipe key) service (service.displacePipe key).1 := by
  have removed := removePipeAt_outside books key
  refine removed.trans (Outside.of_quiet removed.books ?_)
  unfold displacePipe
  dsimp only
  split
  · exact ⟨refl _, rfl, rfl, rfl, rfl⟩
  · exact ⟨refl _, rfl, rfl, rfl, rfl⟩

omit books

variable {blockId : Nat}

theorem pipe_not_cable (pipe : isPipeBlock blockId = true) : isCableBlock blockId = false := by
  simp only [isPipeBlock, Bool.or_eq_true, beq_iff_eq, blockIdItemPipe, blockIdFluidPipe,
    blockIdDenseItemPipe, blockIdDenseFluidPipe, blockIdHeatPipe] at pipe
  simp only [isCableBlock, Bool.and_eq_false_iff, decide_eq_false_iff_not]
  omega

theorem handleBlockChanged_spec (books : NodeBooks service) (position : Position)
    (solid : blockId ≠ 0) (blockMeta : Nat) :
    NodeBooks (service.handleBlockChanged position blockId blockMeta).1 ∧
      (service.handleBlockChanged position blockId blockMeta).1.consumeTracker =
        service.consumeTracker ∧
      RemovalLog (service.handleBlockChanged position blockId blockMeta).2
        (service.Displaces position blockId) := by
  unfold handleBlockChanged
  simp only [if_neg solid]
  by_cases pipe : isPipeBlock blockId = true
  · rw [if_pos pipe]
    have first := removeCableAt_outside books (pipePosKey position)
    have second := placePipe_outside first.books position blockId blockMeta
    refine ⟨second.books, second.tracker.trans first.tracker, ?_⟩
    refine ((removeCableAt_log books (pipePosKey position)).append
      (registerPipeBlock_log first.books position blockId blockMeta)).congr ?_
    intro nodeId
    rw [Displaces, first.sites _ (by simp)]
    constructor
    · rintro (cable | ⟨held, differs⟩)
      · exact Or.inl ⟨pipe_not_cable pipe, cable⟩
      · rw [first.blocks _ nodeId (by simp) held] at differs
        exact Or.inr ⟨held, fun _ => differs⟩
    · rintro (⟨_, cable⟩ | ⟨held, differs⟩)
      · exact Or.inl cable
      · right
        rw [first.blocks _ nodeId (by simp) held]
        exact ⟨held, differs pipe⟩
  · rw [if_neg pipe]
    have first := displacePipe_outside books (pipePosKey position)
    have log : RemovalLog (service.displacePipe (pipePosKey position)).2 fun nodeId =>
        service.nodeAt (.pipe (pipePosKey position)) = some nodeId :=
      removePipeAt_log books (pipePosKey position)
    by_cases cable : isCableBlock blockId = true
    · have second := placeCable_outside first.books position blockId blockMeta
      simp only [continueWith, if_pos cable, append_nil]
      refine ⟨second.books, second.tracker.trans first.tracker, log.congr ?_⟩
      intro nodeId
      simp [Displaces, cable, pipe]
    · have second := removeCableAt_outside first.books (pipePosKey position)
      simp only [continueWith, if_neg cable]
      refine ⟨second.books, second.tracker.trans first.tracker, ?_⟩
      refine (log.append (removeCableAt_log first.books (pipePosKey position))).congr ?_
      intro nodeId
      rw [first.sites _ (by simp)]
      simp [Displaces, cable, pipe, or_comm]

def cancelFor (tracker : PipeConsumeTracker) (node : Option Nat) :
    PipeConsumeTracker × List PendingConsume :=
  node.elim (tracker, []) tracker.cancelForNode

def Marks (node : Option Nat) (pending : PendingConsume) : Prop :=
  ∃ nodeId, node = some nodeId ∧ nodeId ≠ 0 ∧ Tied pending nodeId

variable {pending : PendingConsume} {tracker : PipeConsumeTracker} {id : Nat}

theorem cancelFor_live (node : Option Nat) (found : tracker.pending.lookup id = some pending)
    (live : pending.cancelled = false) :
    (Marks node pending → (cancelFor tracker node).1.pending.lookup id =
          some (markCancelled pending) ∧ markCancelled pending ∈ (cancelFor tracker node).2) ∧
      (¬ Marks node pending → (cancelFor tracker node).1.pending.lookup id = some pending) := by
  cases node with
  | none =>
    constructor
    · rintro ⟨nodeId, none, _⟩
      cases none
    · intro _
      exact found
  | some nodeId =>
    simp only [cancelFor, Option.elim_some, cancelForNode]
    by_cases zero : nodeId = 0
    · rw [if_pos zero]
      constructor
      · rintro ⟨other, same, nonzero, _⟩
        exact absurd ((Option.some.inj same).symm.trans zero) nonzero
      · intro _
        exact found
    · rw [if_neg zero]
      simp only [cancelWhere, Table.lookup_mapValues, found, live,
        Bool.not_false, Bool.true_and, Option.map_some, Bool.or_eq_true, beq_iff_eq]
      constructor
      · rintro ⟨other, same, _, tied⟩
        cases same
        unfold Tied at tied
        rw [if_pos tied]
        refine ⟨rfl, mem_map.mpr ⟨pending, ?_, rfl⟩⟩
        rw [Table.mem_select_iff]
        refine ⟨id, found, ?_⟩
        simpa [live] using tied
      · intro unmarked
        rw [if_neg]
        intro tied
        exact unmarked ⟨nodeId, rfl, zero, tied⟩

theorem cancelFor_marked (node : Option Nat) (found : tracker.pending.lookup id = some pending)
    (marked : pending.cancelled = true) :
    (cancelFor tracker node).1.pending.lookup id = some pending := by
  cases node with
  | none => exact found
  | some nodeId =>
    simp only [cancelFor, Option.elim_some, cancelForNode]
    split
    · exact found
    · simp [cancelWhere, Table.lookup_mapValues, found, marked]

theorem cancelPipeAt_eq (books : NodeBooks service) (key : Nat) :
    (service.cancelPipeAt key).1 =
        { (service.removePipeAt key).1 with
          consumeTracker := (cancelFor service.consumeTracker (service.nodeAt (.pipe key))).1 } ∧
      (service.cancelPipeAt key).2 = (service.removePipeAt key).2 ++
        (cancelFor service.consumeTracker (service.nodeAt (.pipe key))).2.map .completed := by
  have same := (removePipeAt_outside books key).tracker
  unfold cancelPipeAt
  rw [nodeAt]
  cases held : service.pipeNodes.lookup key with
  | none =>
    have idle : service.removePipeAt key = (service, []) := by
      rw [removePipeAt, held]
    rw [idle]
    exact ⟨rfl, rfl⟩
  | some nodeId =>
    simp [continueWith, cancelPendings, cancelFor, same]

theorem cancelMachineAt_books (books : NodeBooks service) (key : Nat) :
    NodeBooks (service.cancelMachineAt key).1 := by
  refine books.keep_sameBlocks ?_ ?_
  · unfold cancelMachineAt
    split
    · exact refl _
    · exact refl _
  · intro site
    unfold cancelMachineAt
    split
    · rfl
    · cases site <;> rfl

theorem cancelMachineAt_eq (service : PipeNetworkService) (key : Nat) :
    (service.cancelMachineAt key).1.consumeTracker =
        (cancelFor service.consumeTracker (service.machineNodes.lookup key)).1 ∧
      (service.cancelMachineAt key).2 =
        (cancelFor service.consumeTracker (service.machineNodes.lookup key)).2.map .completed := by
  unfold cancelMachineAt
  cases service.machineNodes.lookup key with
  | none => exact ⟨rfl, rfl⟩
  | some nodeId => exact ⟨rfl, rfl⟩

variable (books : NodeBooks service)

include books

theorem handleAir_spec (key : Nat) : NodeBooks (service.handleAir key).1 ∧
      (∀ nodeId, .nodeRemoved nodeId ∈ (service.handleAir key).2 ↔
        service.nodeAt (.cable key) = some nodeId ∨ service.nodeAt (.pipe key) = some nodeId) ∧
      (service.handleAir key).1.consumeTracker =
        (cancelFor (cancelFor service.consumeTracker (service.nodeAt (.pipe key))).1
          (service.machineNodes.lookup key)).1 ∧
      ∀ pending, .completed pending ∈ (service.handleAir key).2 ↔
        pending ∈ (cancelFor service.consumeTracker (service.nodeAt (.pipe key))).2 ∨
          pending ∈ (cancelFor (cancelFor service.consumeTracker (service.nodeAt (.pipe key))).1
            (service.machineNodes.lookup key)).2 := by
  have forgot := Quiet.forgetPosition service key
  have forgotBooks := forgot.books books
  have uncabled := removeCableAt_outside forgotBooks key
  have unpiped := removePipeAt_outside uncabled.books key
  obtain ⟨pipeState, pipeEvents⟩ := cancelPipeAt_eq uncabled.books key
  have pipeBooks : NodeBooks (((service.forgetPosition key).removeCableAt key).1.cancelPipeAt key).1 := by
    rw [pipeState]
    refine unpiped.books.keep_sameBlocks (refl _) ?_
    intro site
    cases site <;> rfl
  have machines : (((service.forgetPosition key).removeCableAt key).1.cancelPipeAt
      key).1.machineNodes = service.machineNodes := by
    rw [pipeState]
    exact unpiped.machines.trans (uncabled.machines.trans forgot.machines)
  have pipeSite : ((service.forgetPosition key).removeCableAt key).1.nodeAt (.pipe key) =
      service.nodeAt (.pipe key) := by
    rw [uncabled.sites _ (by simp), forgot.sites]
  have tracker : ((service.forgetPosition key).removeCableAt key).1.consumeTracker =
      service.consumeTracker := uncabled.tracker.trans forgot.tracker
  rw [pipeSite, tracker] at pipeState pipeEvents
  have pipeTracker := congrArg PipeNetworkService.consumeTracker pipeState
  obtain ⟨machineTracker, machineEvents⟩ := cancelMachineAt_eq
    (((service.forgetPosition key).removeCableAt key).1.cancelPipeAt key).1 key
  rw [machines] at machineTracker machineEvents
  have events : (service.handleAir key).2 =
      ((service.nodeAt (.cable key)).toList.map .nodeRemoved ++
        ((service.nodeAt (.pipe key)).toList.map .nodeRemoved ++
          (cancelFor service.consumeTracker (service.nodeAt (.pipe key))).2.map .completed)) ++
        (cancelFor (cancelFor service.consumeTracker (service.nodeAt (.pipe key))).1
          (service.machineNodes.lookup key)).2.map .completed := by
    simp only [handleAir, continueWith]
    rw [machineEvents, pipeEvents, removeCableAt_events forgotBooks, forgot.sites,
      removePipeAt_events uncabled.books, pipeSite, pipeTracker]
  have machineBooks := cancelMachineAt_books pipeBooks key
  have unmasked : ∃ cleared, cleared =
      ((((service.forgetPosition key).removeCableAt key).1.cancelPipeAt key).1.cancelMachineAt
        key).1 ∧
        (service.handleAir key).1 = { cleared with pipeMeta := cleared.pipeMeta.erase key } := by
    refine ⟨_, rfl, ?_⟩
    simp only [handleAir, continueWith]
  obtain ⟨cleared, clearedEq, stateEq⟩ := unmasked
  rw [← clearedEq] at machineBooks machineTracker
  rw [stateEq]
  refine ⟨?_, ?_, ?_, ?_⟩
  · refine machineBooks.keep_sameBlocks (refl _) ?_
    intro site
    cases site <;> rfl
  · intro nodeId
    rw [events]
    simp
  · rw [machineTracker, pipeTracker]
  · intro pending
    rw [events]
    simp

variable (position : Position)

theorem airCancels_iff (pending : PendingConsume) : (∃ other, service.AirCancels position other ∧ Tied pending other) ↔
      Marks (service.nodeAt (.pipe (pipePosKey position))) pending ∨
        Marks (service.machineNodes.lookup (pipePosKey position)) pending := by
  constructor
  · rintro ⟨other, pipe | ⟨machine, nonzero⟩, tied⟩
    · exact Or.inl ⟨other, pipe, (books.live _ other pipe).1, tied⟩
    · exact Or.inr ⟨other, machine, nonzero, tied⟩
  · rintro (⟨other, pipe, _, tied⟩ | ⟨other, machine, nonzero, tied⟩)
    · exact ⟨other, Or.inl pipe, tied⟩
    · exact ⟨other, Or.inr ⟨machine, nonzero⟩, tied⟩

theorem handleAir_ends (live : service.Live id pending) : Ends (service.handleAir (pipePosKey position)) id pending ↔
      ∃ other, service.AirCancels position other ∧ Tied pending other := by
  obtain ⟨_, _, tracker, completed⟩ := handleAir_spec books (pipePosKey position)
  obtain ⟨found, unmarked⟩ := live
  have pipe := cancelFor_live (service.nodeAt (.pipe (pipePosKey position))) found unmarked
  rw [airCancels_iff books]
  constructor
  · intro ended
    by_contra neither
    obtain ⟨noPipe, noMachine⟩ := not_or.mp neither
    have kept := (cancelFor_live _ (pipe.2 noPipe) unmarked).2 noMachine
    have marked := ended.cancelled
    rw [tracker, kept] at marked
    have same := congrArg PendingConsume.cancelled (Option.some.inj marked)
    rw [unmarked] at same
    cases same
  · intro marks
    by_cases byPipe : Marks (service.nodeAt (.pipe (pipePosKey position))) pending
    · obtain ⟨marked, listed⟩ := pipe.1 byPipe
      constructor
      · rw [tracker]
        exact cancelFor_marked _ marked rfl
      · exact (completed _).mpr (Or.inl listed)
    · obtain ⟨marked, listed⟩ := (cancelFor_live _ (pipe.2 byPipe) unmarked).1
        (marks.resolve_left byPipe)
      constructor
      · rw [tracker]
        exact marked
      · exact (completed _).mpr (Or.inr listed)

theorem cancelsRemoved_air (blockMeta : Nat) :
    service.CancelsRemoved (.blockChanged position 0 blockMeta) ↔
      service.NoneAtRisk (.blockChanged position 0 blockMeta) := by
  obtain ⟨_, removed, _, _⟩ := handleAir_spec books (pipePosKey position)
  constructor
  · intro cancels
    change ∀ nodeId, _
    intro nodeId cable id pending live tied
    apply (handleAir_ends books position live).mp
    exact cancels nodeId ((removed nodeId).mpr (Or.inl cable)) id pending live tied
  · intro safe nodeId gone id pending live tied
    apply (handleAir_ends books position live).mpr
    rcases (removed nodeId).mp gone with cable | pipe
    · exact safe nodeId cable id pending live tied
    · exact ⟨nodeId, Or.inl pipe, tied⟩

theorem cancelsRemoved_solid (solid : blockId ≠ 0)
    (blockMeta : Nat) : service.CancelsRemoved (.blockChanged position blockId blockMeta) ↔
      service.NoneAtRisk (.blockChanged position blockId blockMeta) := by
  have log : RemovalLog (service.handle (.blockChanged position blockId blockMeta)).2
      (service.Displaces position blockId) :=
    (handleBlockChanged_spec books position solid blockMeta).2.2
  rw [cancelsRemoved_iff_of_log log, NoneAtRisk, if_neg solid]

omit books

end PipeNetworkService

end GtnhPlatform.PipeNetwork
