import GtnhPlatform.PipeNetwork.ConsumeTracker

namespace GtnhPlatform.PipeNetwork

open GtnhPlatform.Common PipeConsumeTracker List

/-! Each shortfall is an automaton: it is recorded once, may be marked cancelled, and
leaves. -/

/-- The answer `publishFluidConsumeResponse` sends for one shortfall. -/
structure Completion where
  drainRequestId : Nat
  requested : Int
  pipeAccepted : Int
  combined : Int
  remaining : Int

def shortFill (pending : PendingConsume) : Completion where
  drainRequestId := pending.drainRequestId
  requested := pending.requested
  pipeAccepted := pending.pipeAccepted
  combined := pending.pipeAccepted
  remaining := pending.requested - pending.pipeAccepted

def appliedFill (result : DrainApplyResult) : Completion where
  drainRequestId := result.completed.drainRequestId
  requested := result.completed.requested
  pipeAccepted := result.completed.pipeAccepted
  combined := result.combinedAccepted
  remaining := result.remaining

inductive TrackerEvent where
  | recorded (pending : PendingConsume)
  | completed (completion : Completion)

inductive TrackerInput where
  | planShortfall (plan : ShortfallPlan)
  | applyDrainResponse (drainRequestId fluidId : Nat) (acceptedAmount : Int)
  | collectRetries (nowTick : Nat)
  | cancelRequest (drainRequestId : Nat)
  | cancelStaleEpoch (ownerId : Nat) (portId : PortId) (currentEpoch : Nat)
  | noteSourceRejection (key : SourceKey) (nowTick : Nat)
  | clearSourceRejection (key : SourceKey)
  | clearRejectionBackoffForPort (ownerId : Nat) (portId : PortId)
  | cancelForNode (nodeId : Nat)
  | expire (nowTick : Nat)
  | clearForPort (ownerId : Nat) (portId : PortId)
  deriving DecidableEq

namespace PipeConsumeTracker

def shortFills (pendings : List PendingConsume) : List TrackerEvent :=
  pendings.map fun pending => .completed (shortFill pending)

def step (tracker : PipeConsumeTracker) :
    TrackerInput → PipeConsumeTracker × List TrackerEvent
  | .planShortfall plan =>
    match tracker.planShortfall plan with
    | (next, some _) => (next, [.recorded (pendingOf tracker.ttlTicks plan)])
    | (next, none) => (next, [])
  | .applyDrainResponse drainRequestId fluidId acceptedAmount =>
    match tracker.applyDrainResponse drainRequestId fluidId acceptedAmount with
    | (next, some result) => (next, [.completed (appliedFill result)])
    | (next, none) => (next, [])
  | .collectRetries nowTick => ((tracker.collectRetries nowTick).1, [])
  | .cancelRequest drainRequestId =>
    let (next, cancelled) := tracker.cancelRequest drainRequestId
    (next, shortFills cancelled)
  | .cancelStaleEpoch ownerId portId currentEpoch =>
    let (next, cancelled) := tracker.cancelStaleEpoch ownerId portId currentEpoch
    (next, shortFills cancelled)
  | .noteSourceRejection key nowTick => (tracker.noteSourceRejection key nowTick, [])
  | .clearSourceRejection key => (tracker.clearSourceRejection key, [])
  | .clearRejectionBackoffForPort ownerId portId =>
    (tracker.clearRejectionBackoffForPort ownerId portId, [])
  | .cancelForNode nodeId =>
    let (next, cancelled) := tracker.cancelForNode nodeId
    (next, shortFills cancelled)
  | .expire nowTick =>
    let (next, expired) := tracker.expire nowTick
    (next, shortFills expired)
  | .clearForPort ownerId portId =>
    let (next, cleared) := tracker.clearForPort ownerId portId
    (next, shortFills cleared)

def machine : Machine PipeConsumeTracker TrackerInput TrackerEvent := ⟨step⟩

end PipeConsumeTracker

namespace TrackerEvent

def recorded? : TrackerEvent → Option PendingConsume
  | .recorded pending => some pending
  | .completed _ => none

def completed? : TrackerEvent → Option Completion
  | .recorded _ => none
  | .completed completion => some completion

end TrackerEvent

def recordedOf (id : Nat) (events : List TrackerEvent) : List PendingConsume :=
  (events.filterMap TrackerEvent.recorded?).filter fun pending => pending.drainRequestId = id

def completionsOf (id : Nat) (events : List TrackerEvent) : List Completion :=
  (events.filterMap TrackerEvent.completed?).filter fun completion =>
    completion.drainRequestId = id

@[simp] theorem recordedOf_append (id : Nat) (first second : List TrackerEvent) :
    recordedOf id (first ++ second) = recordedOf id first ++ recordedOf id second := by
  simp [recordedOf]

@[simp] theorem completionsOf_append (id : Nat) (first second : List TrackerEvent) :
    completionsOf id (first ++ second) = completionsOf id first ++ completionsOf id second := by
  simp [completionsOf]

variable {events : List TrackerEvent} {pending : PendingConsume}

theorem mem_recordedOf_iff {id : Nat} : pending ∈ recordedOf id events ↔
      .recorded pending ∈ events ∧ pending.drainRequestId = id := by
  simp only [recordedOf, mem_filter, mem_filterMap, decide_eq_true_eq]
  constructor
  · rintro ⟨⟨event, mem, selected⟩, equality⟩
    cases event with
    | recorded found =>
      cases selected
      exact ⟨mem, equality⟩
    | completed completion => contradiction
  · rintro ⟨mem, equality⟩
    exact ⟨⟨_, mem, rfl⟩, equality⟩

@[simp] theorem recordedOf_shortFills (id : Nat) (pendings : List PendingConsume) :
    recordedOf id (shortFills pendings) = [] := by
  simp [recordedOf, shortFills, filterMap_map, TrackerEvent.recorded?, Function.comp_def]

theorem completed_shortFills (pendings : List PendingConsume) :
    (shortFills pendings).filterMap TrackerEvent.completed? = pendings.map shortFill := by
  rw [shortFills, filterMap_map, ← filterMap_eq_map]
  rfl

theorem completionsOf_shortFills (id : Nat) (pendings : List PendingConsume) :
    completionsOf id (shortFills pendings) =
      (pendings.filter fun pending => pending.drainRequestId = id).map shortFill := by
  rw [completionsOf, completed_shortFills, filter_map]
  rfl

/-- Two entries for one shortfall: only retry bookkeeping and the cancellation
mark may differ. -/
structure SameShortfall (left right : PendingConsume) : Prop where
  drainRequestId : left.drainRequestId = right.drainRequestId
  requested : left.requested = right.requested
  pipeAccepted : left.pipeAccepted = right.pipeAccepted
  expiresAt : left.expiresAt = right.expiresAt

structure Admissible (pending : PendingConsume) : Prop where
  pipeNonneg : 0 ≤ pending.pipeAccepted
  pipeLe : pending.pipeAccepted ≤ pending.requested

structure Settles (completion : Completion) (pending : PendingConsume) : Prop where
  drainRequestId : completion.drainRequestId = pending.drainRequestId
  requested : completion.requested = pending.requested
  pipeAccepted : completion.pipeAccepted = pending.pipeAccepted
  pipePart : completion.pipeAccepted ≤ completion.combined
  bounded : completion.combined ≤ completion.requested
  remaining : completion.remaining = completion.requested - completion.combined

namespace SameShortfall

theorem refl (pending : PendingConsume) : SameShortfall pending pending := ⟨rfl, rfl, rfl, rfl⟩

theorem trans {first second third : PendingConsume} (left : SameShortfall first second)
    (right : SameShortfall second third) : SameShortfall first third :=
  ⟨left.drainRequestId.trans right.drainRequestId, left.requested.trans right.requested,
    left.pipeAccepted.trans right.pipeAccepted, left.expiresAt.trans right.expiresAt⟩

variable {left right : PendingConsume}

theorem admissible (same : SameShortfall left right) (admissible : Admissible left) :
    Admissible right :=
  ⟨same.pipeAccepted ▸ admissible.pipeNonneg,
    same.pipeAccepted ▸ same.requested ▸ admissible.pipeLe⟩

theorem settles (same : SameShortfall left right) (settles : Settles completion right) :
    Settles completion left :=
  ⟨settles.drainRequestId.trans same.drainRequestId.symm,
    settles.requested.trans same.requested.symm,
    settles.pipeAccepted.trans same.pipeAccepted.symm,
    settles.pipePart, settles.bounded, settles.remaining⟩

end SameShortfall

inductive EntryMove :
    Option PendingConsume → Option PendingConsume → List PendingConsume → List Completion → Prop
  | absent : EntryMove none none [] []
  | keep {before after : PendingConsume} (same : SameShortfall before after)
      (mark : after.cancelled = before.cancelled) :
      EntryMove (some before) (some after) [] []
  | record {pending : PendingConsume} (live : pending.cancelled = false)
      (admissible : Admissible pending) :
      EntryMove none (some pending) [pending] []
  | settle {pending : PendingConsume} {completion : Completion}
      (live : pending.cancelled = false) (settles : Settles completion pending) :
      EntryMove (some pending) none [] [completion]
  | cancel {before after : PendingConsume} {completion : Completion}
      (live : before.cancelled = false) (marked : after.cancelled = true)
      (same : SameShortfall before after) (settles : Settles completion before) :
      EntryMove (some before) (some after) [] [completion]
  | discard {pending : PendingConsume} (cancelled : pending.cancelled = true) :
      EntryMove (some pending) none [] []

theorem EntryMove.unchanged (entry : Option PendingConsume) : EntryMove entry entry [] [] := by
  cases entry with
  | none => exact .absent
  | some pending => exact .keep (SameShortfall.refl pending) rfl

inductive EntryState :
    List PendingConsume → Option PendingConsume → List Completion → Prop
  | fresh : EntryState [] none []
  | waiting {recorded entry : PendingConsume} (admissible : Admissible recorded)
      (same : SameShortfall recorded entry) (live : entry.cancelled = false) :
      EntryState [recorded] (some entry) []
  | cancelled {recorded entry : PendingConsume} {completion : Completion}
      (admissible : Admissible recorded) (same : SameShortfall recorded entry)
      (marked : entry.cancelled = true) (settles : Settles completion recorded) :
      EntryState [recorded] (some entry) [completion]
  | done {recorded : PendingConsume} {completion : Completion}
      (admissible : Admissible recorded) (settles : Settles completion recorded) :
      EntryState [recorded] none [completion]

theorem EntryState.move {recorded newRecorded : List PendingConsume}
    {before after : Option PendingConsume} {sent newSent : List Completion}
    (state : EntryState recorded before sent) (move : EntryMove before after newRecorded newSent)
    (once : newRecorded ≠ [] → recorded = []) :
    EntryState (recorded ++ newRecorded) after (sent ++ newSent) := by
  cases move with
  | absent =>
    simp only [append_nil]
    exact state
  | keep same mark =>
    simp only [append_nil]
    cases state with
    | waiting admissible recordedSame live =>
      exact .waiting admissible (recordedSame.trans same) (mark.trans live)
    | cancelled admissible recordedSame marked settles =>
      exact .cancelled admissible (recordedSame.trans same) (mark.trans marked) settles
  | @record pending live admissible =>
    have unrecorded := once (by simp)
    subst unrecorded
    cases state with
    | fresh => exact .waiting admissible (SameShortfall.refl pending) live
  | settle live settles =>
    simp only [append_nil]
    cases state with
    | waiting admissible same _ => exact .done admissible (same.settles settles)
    | cancelled _ _ marked _ => rw [marked] at live; contradiction
  | cancel live marked same settles =>
    simp only [append_nil]
    cases state with
    | waiting admissible recordedSame _ =>
      exact .cancelled admissible (recordedSame.trans same) marked
        (recordedSame.settles settles)
    | cancelled _ _ alreadyMarked _ => rw [alreadyMarked] at live; contradiction
  | discard cancelled =>
    simp only [append_nil]
    cases state with
    | waiting _ _ live => rw [cancelled] at live; contradiction
    | cancelled admissible _ _ settles => exact .done admissible settles

def WellFormed (table : Table Nat PendingConsume) : Prop :=
  ∀ id pending, table.lookup id = some pending → pending.drainRequestId = id ∧ Admissible pending

theorem shortFill_settles (admissible : Admissible pending) :
    Settles (shortFill pending) pending where
  drainRequestId := rfl
  requested := rfl
  pipeAccepted := rfl
  pipePart := Int.le_refl _
  bounded := admissible.pipeLe
  remaining := rfl

variable {table : Table Nat PendingConsume}

theorem shortFills_of_select (wellFormed : WellFormed table) (choose : Nat → PendingConsume → Bool)
    (id : Nat) : completionsOf id (shortFills (table.select choose)) =
      (((table.lookup id).filter (choose id)).map shortFill).toList := by
  rw [completionsOf_shortFills, table.select_filter_key PendingConsume.drainRequestId choose
      (fun key value found => (wellFormed key value found).1)]
  cases (table.lookup id).filter (choose id) with
  | none => rfl
  | some pending => rfl

theorem leave_move (wellFormed : WellFormed table)
    (drop report : Nat → PendingConsume → Bool)
    (reports : ∀ id pending, report id pending = (drop id pending && !pending.cancelled))
    (id : Nat) :
    EntryMove (table.lookup id)
      ((table.filter fun key pending => !drop key pending).lookup id) []
      (completionsOf id (shortFills (table.select report))) := by
  rw [shortFills_of_select wellFormed, Table.lookup_filter]
  cases found : table.lookup id with
  | none => exact .absent
  | some pending =>
    have admissible := (wellFormed id pending found).2
    cases leaves : drop id pending with
    | false =>
      simp only [Option.filter, reports, leaves]
      exact .keep (SameShortfall.refl pending) rfl
    | true =>
      cases mark : pending.cancelled with
      | true =>
        simp only [Option.filter, reports, leaves, mark]
        exact .discard mark
      | false =>
        simp only [Option.filter, reports, leaves, mark]
        exact .settle mark (shortFill_settles admissible)

theorem rewrite_move (rewrite : Nat → PendingConsume → PendingConsume)
    (same : ∀ key pending, SameShortfall pending (rewrite key pending))
    (mark : ∀ key pending, (rewrite key pending).cancelled = pending.cancelled) (id : Nat) :
    EntryMove (table.lookup id) ((table.mapValues rewrite).lookup id) [] [] := by
  rw [Table.lookup_mapValues]
  cases table.lookup id with
  | none => exact .absent
  | some pending => exact .keep (same id pending) (mark id pending)

namespace PipeConsumeTracker

variable {tracker : PipeConsumeTracker}

theorem cancelWhere_move (wellFormed : WellFormed tracker.pending)
    (concerns : Nat → PendingConsume → Bool) (id : Nat) : EntryMove (tracker.pending.lookup id)
      ((tracker.cancelWhere concerns).1.pending.lookup id) []
      (completionsOf id (shortFills (tracker.cancelWhere concerns).2)) := by
  have answers : shortFills (tracker.cancelWhere concerns).2 =
      shortFills (tracker.pending.select fun key pending =>
        !pending.cancelled && concerns key pending) := by
    simp only [cancelWhere, shortFills, map_map]
    rfl
  rw [answers, shortFills_of_select wellFormed]
  simp only [cancelWhere]
  rw [Table.lookup_mapValues]
  cases found : tracker.pending.lookup id with
  | none => exact .absent
  | some pending =>
    have admissible := (wellFormed id pending found).2
    cases live : !pending.cancelled && concerns id pending with
    | false =>
      simp only [Option.filter, Option.map_some, live]
      exact .keep (SameShortfall.refl pending) rfl
    | true =>
      have unmarked : pending.cancelled = false := by
        simp only [Bool.and_eq_true, Bool.not_eq_true'] at live
        exact live.1
      simp only [Option.filter, Option.map_some, live]
      exact .cancel unmarked rfl ⟨rfl, rfl, rfl, rfl⟩ (shortFill_settles admissible)

theorem planShortfall_move (plan : ShortfallPlan)
    (fresh : tracker.pending.lookup plan.drainRequestId = none)
    (admissible : 0 ≤ plan.pipeAccepted ∧ plan.pipeAccepted ≤ plan.requested) (id : Nat) :
    EntryMove (tracker.pending.lookup id) ((tracker.step (.planShortfall plan)).1.pending.lookup id)
      (recordedOf id (tracker.step (.planShortfall plan)).2)
      (completionsOf id (tracker.step (.planShortfall plan)).2) := by
  simp only [step, planShortfall]
  cases planned : tracker.plans plan with
  | false =>
    simp only [Bool.false_eq_true, if_false]
    exact EntryMove.unchanged _
  | true =>
    simp only [if_true]
    rw [Table.lookup_emplace_of_none _ fresh]
    by_cases own : id = plan.drainRequestId
    · subst own
      have recorded : recordedOf plan.drainRequestId
          [.recorded (pendingOf tracker.ttlTicks plan)] =
            [pendingOf tracker.ttlTicks plan] := by
        simp [recordedOf, TrackerEvent.recorded?, pendingOf]
      rw [if_pos rfl, fresh, recorded]
      exact .record rfl ⟨admissible.1, admissible.2⟩
    · have unrecorded : recordedOf id [.recorded (pendingOf tracker.ttlTicks plan)] = [] := by
        simp [recordedOf, TrackerEvent.recorded?, pendingOf, Ne.symm own]
      rw [if_neg own, unrecorded]
      exact EntryMove.unchanged _

theorem applyDrainResponse_move (wellFormed : WellFormed tracker.pending)
    (drainRequestId fluidId : Nat) (acceptedAmount : Int) (id : Nat) :
    EntryMove (tracker.pending.lookup id)
      ((tracker.step (.applyDrainResponse drainRequestId fluidId acceptedAmount)).1.pending.lookup
        id)
      (recordedOf id (tracker.step (.applyDrainResponse drainRequestId fluidId acceptedAmount)).2)
      (completionsOf id
        (tracker.step (.applyDrainResponse drainRequestId fluidId acceptedAmount)).2) := by
  simp only [step, applyDrainResponse]
  cases found : tracker.pending.lookup drainRequestId with
  | none => exact EntryMove.unchanged _
  | some pending =>
    obtain ⟨keyed, admissible⟩ := wellFormed drainRequestId pending found
    cases mark : pending.cancelled with
    | true =>
      simp only [mark, if_true]
      exact EntryMove.unchanged _
    | false =>
      by_cases other : fluidId ≠ pending.fluidId
      · simp only [mark, if_pos other, Bool.false_eq_true, if_false]
        exact EntryMove.unchanged _
      simp only [mark, if_neg other, Bool.false_eq_true, if_false]
      by_cases own : id = drainRequestId
      · subst own
        rw [AList.lookup_erase, found]
        have answered : ∀ result : DrainApplyResult, result.completed = pending →
            completionsOf id [.completed (appliedFill result)] = [appliedFill result] := by
          intro result completed
          simp [completionsOf, TrackerEvent.completed?, appliedFill, completed, keyed]
        rw [answered _ rfl]
        refine .settle mark ⟨rfl, rfl, rfl, ?_, ?_, rfl⟩
        · have := admissible.pipeLe
          simp only [appliedFill]
          omega
        · have := admissible.pipeLe
          simp only [appliedFill]
          omega
      · have answered : ∀ result : DrainApplyResult, result.completed = pending →
            completionsOf id [.completed (appliedFill result)] = [] := by
          intro result completed
          simp [completionsOf, TrackerEvent.completed?, appliedFill, completed, keyed, Ne.symm own]
        rw [AList.lookup_erase_ne own, answered _ rfl]
        exact EntryMove.unchanged _

variable (tracker : PipeConsumeTracker)

theorem step_ttlTicks (input : TrackerInput) :
    (tracker.step input).1.ttlTicks = tracker.ttlTicks := by
  cases input with
  | planShortfall plan =>
    simp only [step, planShortfall]
    cases tracker.plans plan <;> rfl
  | applyDrainResponse drainRequestId fluidId acceptedAmount =>
    simp only [step, applyDrainResponse]
    cases tracker.pending.lookup drainRequestId with
    | none => rfl
    | some pending =>
      by_cases cancelled : pending.cancelled = true
      · simp only [if_pos cancelled]
      · by_cases other : fluidId ≠ pending.fluidId
        · simp only [if_neg cancelled, if_pos other]
        · simp only [if_neg cancelled, if_neg other]
  | collectRetries nowTick => rfl
  | cancelRequest drainRequestId => rfl
  | cancelStaleEpoch ownerId portId currentEpoch =>
    rw [step, cancelStaleEpoch]
    by_cases unset : portId = 0
    · rw [if_pos unset]
    · rw [if_neg unset]
      rfl
  | noteSourceRejection key nowTick => rfl
  | clearSourceRejection key => rfl
  | clearRejectionBackoffForPort ownerId portId => rfl
  | cancelForNode nodeId =>
    rw [step, cancelForNode]
    by_cases unset : nodeId = 0
    · rw [if_pos unset]
    · rw [if_neg unset]
      rfl
  | expire nowTick => rfl
  | clearForPort ownerId portId =>
    rw [step, clearForPort]
    by_cases unset : portId = 0
    · rw [if_pos unset]
    · rw [if_neg unset]
      rfl

theorem step_recorded {pending : PendingConsume}
    (mem : .recorded pending ∈ (tracker.step input).2) :
    ∃ plan, input = .planShortfall plan ∧ pending = pendingOf tracker.ttlTicks plan := by
  have silent : ∀ pendings : List PendingConsume, .recorded pending ∉ shortFills pendings := by
    intro pendings mem
    simp [shortFills] at mem
  cases input with
  | planShortfall plan =>
    refine ⟨plan, rfl, ?_⟩
    simp only [step, planShortfall] at mem
    cases planned : tracker.plans plan with
    | false => simp [planned] at mem
    | true => simpa [planned] using mem
  | applyDrainResponse drainRequestId fluidId acceptedAmount =>
    simp only [step] at mem
    split at mem <;> simp at mem
  | collectRetries nowTick => simp [step] at mem
  | cancelRequest drainRequestId => exact absurd mem (silent _)
  | cancelStaleEpoch ownerId portId currentEpoch => exact absurd mem (silent _)
  | noteSourceRejection key nowTick => simp [step] at mem
  | clearSourceRejection key => simp [step] at mem
  | clearRejectionBackoffForPort ownerId portId => simp [step] at mem
  | cancelForNode nodeId => exact absurd mem (silent _)
  | expire nowTick => exact absurd mem (silent _)
  | clearForPort ownerId portId => exact absurd mem (silent _)

theorem step_move (wellFormed : WellFormed tracker.pending) (input : TrackerInput)
    (planned : ∀ plan, input = .planShortfall plan →
      tracker.pending.lookup plan.drainRequestId = none ∧
        0 ≤ plan.pipeAccepted ∧ plan.pipeAccepted ≤ plan.requested) (id : Nat) :
    EntryMove (tracker.pending.lookup id) ((tracker.step input).1.pending.lookup id)
      (recordedOf id (tracker.step input).2) (completionsOf id (tracker.step input).2) := by
  cases input with
  | planShortfall plan =>
    obtain ⟨fresh, admissible⟩ := planned plan rfl
    exact planShortfall_move plan fresh admissible id
  | applyDrainResponse drainRequestId fluidId acceptedAmount =>
    exact applyDrainResponse_move wellFormed drainRequestId fluidId acceptedAmount id
  | collectRetries nowTick =>
    refine rewrite_move _ ?_ ?_ id
    · intro key pending
      split
      · exact ⟨rfl, rfl, rfl, rfl⟩
      · exact SameShortfall.refl pending
    · intro key pending
      split <;> rfl
  | cancelRequest drainRequestId =>
    rw [step, recordedOf_shortFills]
    exact cancelWhere_move wellFormed _ id
  | cancelStaleEpoch ownerId portId currentEpoch =>
    rw [step, recordedOf_shortFills, cancelStaleEpoch]
    by_cases unset : portId = 0
    · simp only [if_pos unset]
      exact EntryMove.unchanged _
    · simpa only [if_neg unset] using cancelWhere_move wellFormed _ id
  | noteSourceRejection key nowTick => exact EntryMove.unchanged _
  | clearSourceRejection key => exact EntryMove.unchanged _
  | clearRejectionBackoffForPort ownerId portId => exact EntryMove.unchanged _
  | cancelForNode nodeId =>
    rw [step, recordedOf_shortFills, cancelForNode]
    by_cases unset : nodeId = 0
    · simp only [if_pos unset]
      exact EntryMove.unchanged _
    · simpa only [if_neg unset] using cancelWhere_move wellFormed _ id
  | expire nowTick =>
    rw [step, recordedOf_shortFills]
    exact leave_move wellFormed _ _ (fun _ _ => rfl) id
  | clearForPort ownerId portId =>
    rw [step, recordedOf_shortFills, clearForPort]
    by_cases unset : portId = 0
    · simp only [if_pos unset]
      exact EntryMove.unchanged _
    · simp only [if_neg unset]
      refine leave_move wellFormed _ _ (fun key pending => ?_) id
      cases pending.cancelled <;> simp

end PipeConsumeTracker

def TrackerInput.plan? : TrackerInput → Option ShortfallPlan
  | .planShortfall plan => some plan
  | _ => none

def plansOf (inputs : List TrackerInput) : List ShortfallPlan := inputs.filterMap TrackerInput.plan?

/-- What the service promises about the plans of a run. -/
structure PlannedOnce (ttlTicks : Nat) (inputs : List TrackerInput) : Prop where
  distinct : ((plansOf inputs).map ShortfallPlan.drainRequestId).Nodup
  nonzero : ∀ plan ∈ plansOf inputs, plan.drainRequestId ≠ 0
  pipePart : ∀ plan ∈ plansOf inputs, 0 ≤ plan.pipeAccepted ∧ plan.pipeAccepted ≤ plan.requested
  ticks : ∀ plan ∈ plansOf inputs, plan.nowTick + ttlTicks < 2 ^ 64

theorem plansOf_concat (inputs : List TrackerInput) (input : TrackerInput) :
    plansOf (inputs ++ [input]) = plansOf inputs ++ input.plan?.toList := by
  rw [plansOf, filterMap_append]
  cases planned : input.plan? <;> simp [plansOf, planned]

variable {inputs : List TrackerInput} {ttlTicks : Nat}

theorem PlannedOnce.of_concat (planned : PlannedOnce ttlTicks (inputs ++ [input])) :
    PlannedOnce ttlTicks inputs := by
  obtain ⟨distinct, nonzero, pipePart, ticks⟩ := planned
  rw [plansOf_concat] at distinct nonzero pipePart ticks
  rw [map_append] at distinct
  exact {
    distinct := (nodup_append.mp distinct).1
    nonzero := fun plan mem => nonzero plan (mem_append_left _ mem)
    pipePart := fun plan mem => pipePart plan (mem_append_left _ mem)
    ticks := fun plan mem => ticks plan (mem_append_left _ mem) }

structure Accounted (ttlTicks : Nat) (inputs : List TrackerInput)
    (tracker : PipeConsumeTracker) (events : List TrackerEvent) : Prop where
  ttl : tracker.ttlTicks = ttlTicks
  planned : ∀ pending, .recorded pending ∈ events →
    ∃ plan ∈ plansOf inputs, pending = PipeConsumeTracker.pendingOf ttlTicks plan
  states : ∀ id, EntryState (recordedOf id events) (tracker.pending.lookup id)
    (completionsOf id events)

namespace EntryState

variable {sent : List Completion} {recorded : List PendingConsume}

theorem entry_admissible {entry : PendingConsume} (state : EntryState recorded (some entry) sent) :
    ∃ origin ∈ recorded, SameShortfall origin entry ∧ Admissible entry := by
  cases state with
  | @waiting origin _ admissible same _ =>
    exact ⟨origin, by simp, same, same.admissible admissible⟩
  | @cancelled origin _ _ admissible same _ _ =>
    exact ⟨origin, by simp, same, same.admissible admissible⟩

variable {entry : Option PendingConsume}

theorem entry_none (state : EntryState [] entry sent) : entry = none := by
  cases state with
  | fresh => rfl

theorem sent_le_one (state : EntryState recorded entry sent) :
    recorded.length ≤ 1 ∧ sent.length ≤ 1 := by
  cases state <;> simp

theorem sent_settles (state : EntryState recorded entry sent) (mem : completion ∈ sent) :
    ∃ origin ∈ recorded, Admissible origin ∧ Settles completion origin := by
  cases state with
  | fresh => cases mem
  | waiting => cases mem
  | @cancelled origin _ _ admissible _ _ settles =>
    obtain rfl := mem_singleton.mp mem
    exact ⟨origin, by simp, admissible, settles⟩
  | @done origin _ admissible settles =>
    obtain rfl := mem_singleton.mp mem
    exact ⟨origin, by simp, admissible, settles⟩

end EntryState

namespace Accounted

variable {ttlTicks : Nat} {inputs : List TrackerInput} {tracker : PipeConsumeTracker}
  {events : List TrackerEvent}

variable (accounted : Accounted ttlTicks inputs tracker events)

include accounted

theorem wellFormed : WellFormed tracker.pending := by
  intro id pending found
  have state := accounted.states id
  rw [found] at state
  obtain ⟨origin, mem, same, admissible⟩ := state.entry_admissible
  have own := (mem_recordedOf_iff.mp mem).2
  exact ⟨same.drainRequestId.symm.trans own, admissible⟩

theorem recordedOf_eq_nil {id : Nat}
    (unplanned : ∀ plan ∈ plansOf inputs, plan.drainRequestId ≠ id) :
    recordedOf id events = [] := by
  rw [eq_nil_iff_forall_not_mem]
  intro pending mem
  obtain ⟨recorded, own⟩ := mem_recordedOf_iff.mp mem
  obtain ⟨plan, planMember, rfl⟩ := accounted.planned pending recorded
  exact unplanned plan planMember own

theorem answered_of_expired {id : Nat}
    (nowTick : Nat) {pending : PendingConsume} (mem : pending ∈ recordedOf id events)
    (gone : ∀ entry, tracker.pending.lookup id = some entry → ¬ entry.expiresAt ≤ nowTick)
    (late : pending.expiresAt ≤ nowTick) : (completionsOf id events).length = 1 := by
  have state := accounted.states id
  generalize recordedOf id events = recorded at state mem
  generalize completionsOf id events = sent at state
  cases entryEq : tracker.pending.lookup id with
  | none =>
    rw [entryEq] at state
    cases state with
    | fresh => cases mem
    | done => rfl
  | some entry =>
    rw [entryEq] at state
    cases state with
    | waiting _ same _ =>
      obtain rfl := mem_singleton.mp mem
      exact absurd (same.expiresAt ▸ late) (gone entry entryEq)
    | cancelled => rfl

omit accounted

end Accounted

theorem Accounted.step {tracker : PipeConsumeTracker}
    (accounted : Accounted ttlTicks inputs tracker events) (input : TrackerInput)
    (planned : PlannedOnce ttlTicks (inputs ++ [input])) :
    Accounted ttlTicks (inputs ++ [input]) (tracker.step input).1
      (events ++ (tracker.step input).2) := by
  have unplanned : ∀ plan, input = .planShortfall plan →
      recordedOf plan.drainRequestId events = [] := by
    rintro plan rfl
    refine accounted.recordedOf_eq_nil fun earlier mem equality => ?_
    have distinct := planned.distinct
    rw [plansOf_concat, map_append, nodup_append] at distinct
    exact distinct.2.2 _ (mem_map_of_mem mem) plan.drainRequestId (by
      simp [TrackerInput.plan?]) equality
  have pipePart : ∀ plan, input = .planShortfall plan →
      0 ≤ plan.pipeAccepted ∧ plan.pipeAccepted ≤ plan.requested := by
    rintro plan rfl
    exact planned.pipePart plan (by simp [plansOf_concat, TrackerInput.plan?])
  refine ⟨?_, ?_, ?_⟩
  · exact (tracker.step_ttlTicks input).trans accounted.ttl
  · intro pending mem
    rw [plansOf_concat]
    rcases mem_append.mp mem with earlier | now
    · obtain ⟨plan, planMember, equality⟩ := accounted.planned pending earlier
      exact ⟨plan, mem_append_left _ planMember, equality⟩
    · obtain ⟨plan, rfl, rfl⟩ := tracker.step_recorded now
      refine ⟨plan, mem_append_right _ (by simp [TrackerInput.plan?]), ?_⟩
      rw [accounted.ttl]
  · intro id
    rw [recordedOf_append, completionsOf_append]
    refine (accounted.states id).move (tracker.step_move accounted.wellFormed input ?_ id) ?_
    · intro plan equality
      have state := accounted.states plan.drainRequestId
      rw [unplanned plan equality] at state
      exact ⟨state.entry_none, pipePart plan equality⟩
    · intro recorded
      obtain ⟨pending, mem⟩ := exists_mem_of_ne_nil _ recorded
      obtain ⟨event, own⟩ := mem_recordedOf_iff.mp mem
      obtain ⟨plan, equality, rfl⟩ := tracker.step_recorded event
      rw [← own]
      exact unplanned plan equality

theorem accounted_run (planned : PlannedOnce ttlTicks inputs) : Accounted ttlTicks inputs
      (machine.final (new ttlTicks) inputs) (machine.outputs (new ttlTicks) inputs) := by
  refine machine.invariant (fun _ _ => True)
    (fun inputs tracker events =>
      PlannedOnce ttlTicks inputs → Accounted ttlTicks inputs tracker events)
    ?_ ?_ inputs ?_ planned
  · intro _
    exact ⟨rfl, by simp, fun id => .fresh⟩
  · intro inputs current history input accounted _ planned
    exact (accounted planned.of_concat).step input planned
  · exact machine.along_true _ _

theorem shortfall_completed_exactly_once (ttlTicks : Nat) (inputs : List TrackerInput)
    (planned : PlannedOnce ttlTicks inputs) :
    let history := PipeConsumeTracker.machine.outputs (PipeConsumeTracker.new ttlTicks) inputs
    (∀ id, (recordedOf id history).length ≤ 1 ∧ (completionsOf id history).length ≤ 1) ∧
    (∀ id, ∀ completion ∈ completionsOf id history, ∃ pending ∈ recordedOf id history,
      completion.requested = pending.requested ∧ completion.pipeAccepted = pending.pipeAccepted ∧
        0 ≤ completion.combined ∧ completion.combined ≤ completion.requested ∧
        completion.remaining = completion.requested - completion.combined) ∧
    (∀ before nowTick, inputs = before ++ [.expire nowTick] →
      ∀ plan ∈ plansOf inputs, recordedOf plan.drainRequestId history ≠ [] →
        plan.nowTick + ttlTicks ≤ nowTick →
        (completionsOf plan.drainRequestId history).length = 1) := by
  intro history
  have accounted := accounted_run planned
  refine ⟨fun id => (accounted.states id).sent_le_one, ?_, ?_⟩
  · intro id completion mem
    obtain ⟨pending, recorded, admissible, settles⟩ := (accounted.states id).sent_settles mem
    refine ⟨pending, recorded, settles.requested, settles.pipeAccepted, ?_,
      settles.bounded, settles.remaining⟩
    have pipePart := settles.pipePart
    rw [settles.pipeAccepted] at pipePart
    exact Int.le_trans admissible.pipeNonneg pipePart
  · intro before nowTick equality plan mem recorded late
    subst equality
    obtain ⟨pending, pendingMember⟩ := exists_mem_of_ne_nil _ recorded
    obtain ⟨event, own⟩ := mem_recordedOf_iff.mp pendingMember
    obtain ⟨origin, originMember, rfl⟩ := accounted.planned pending event
    obtain rfl : origin = plan := inj_on_of_nodup_map planned.distinct originMember mem own
    refine accounted.answered_of_expired nowTick pendingMember ?_ ?_
    · intro entry found
      rw [Machine.final_concat] at found
      have kept := (Option.filter_eq_some_iff.mp
        ((Table.lookup_filter _ _ _).symm.trans found)).2
      simpa using kept
    · have ticks := planned.ticks origin mem
      show wrapU64 (origin.nowTick + ttlTicks) ≤ nowTick
      rw [wrapU64_of_lt ticks]
      exact late

def twoShortfalls : List TrackerInput :=
  let plan : ShortfallPlan := {
    drainRequestId := 7
    consumeRequestId := 1
    sinkNodeId := 2
    fluidId := 1
    requested := 100
    pipeAccepted := 40
    sourceNodeId := 5
    sourceOwnerId := 9
    sourcePortId := 258
    nowTick := 3
    sourceEpoch := 1 }
  [.planShortfall plan, .planShortfall { plan with drainRequestId := 8, sourceNodeId := 6 },
    .applyDrainResponse 7 1 25, .cancelForNode 6, .applyDrainResponse 8 1 60,
    .applyDrainResponse 7 1 25, .expire 23]

theorem twoShortfalls_completed : (∀ id, (completionsOf id
        (PipeConsumeTracker.machine.outputs (PipeConsumeTracker.new 20) twoShortfalls)).length ≤ 1) ∧
      (completionsOf 8
        (PipeConsumeTracker.machine.outputs (PipeConsumeTracker.new 20) twoShortfalls)).length
          = 1 := by
  have planned : PlannedOnce 20 twoShortfalls := ⟨by decide, by decide, by decide, by decide⟩
  obtain ⟨once, _, expired⟩ := shortfall_completed_exactly_once 20 twoShortfalls planned
  refine ⟨fun id => (once id).2, ?_⟩
  exact expired (twoShortfalls.take 6) 23 (by decide) _ (mem_cons_of_mem _ mem_cons_self)
    (by decide) (by decide)

open GtnhPlatform.Common

/-! The source is planned by owner and port; the request on the wire carries the port
alone. -/

structure PlannedDrain where
  ownerId : Nat
  request : ResourceTransferRequest
  deriving DecidableEq

def plannedDrain (fluidId : Nat) (decision : ShortfallDecision) : PlannedDrain where
  ownerId := decision.sourceOwnerId
  request := {
    requestId := decision.drainRequestId
    portId := decision.sourcePortId
    resourceKind := .fluid
    resourceId := fluidId
    amount := decision.shortfall }

def retriedDrain (retry : DrainRetry) : PlannedDrain where
  ownerId := retry.sourceOwnerId
  request := {
    requestId := retry.drainRequestId
    portId := retry.sourcePortId
    resourceKind := .fluid
    resourceId := retry.fluidId
    amount := retry.shortfall }

namespace PipeConsumeTracker

def requestShortfall (tracker : PipeConsumeTracker) (plan : ShortfallPlan) :
    PipeConsumeTracker × List PlannedDrain :=
  let (tracker, decision) := tracker.planShortfall plan
  (tracker, (decision.map (plannedDrain plan.fluidId)).toList)

/-- The retry loop of `tick`: a due request whose source port is still live is
sent again, the others are cancelled. -/
def retryDrains (tracker : PipeConsumeTracker) (portLive : DrainRetry → Bool)
    (nowTick : Nat) : PipeConsumeTracker × List PlannedDrain :=
  let (tracker, retries) := tracker.collectRetries nowTick
  let cancel := fun (tracker : PipeConsumeTracker) (retry : DrainRetry) =>
    if portLive retry then tracker else (tracker.cancelRequest retry.drainRequestId).1
  (retries.foldl cancel tracker, (retries.filter portLive).map retriedDrain)

end PipeConsumeTracker

end GtnhPlatform.PipeNetwork
