import GtnhPlatform.PipeNetwork.ConsumeCompletion

namespace GtnhPlatform.PipeNetwork

open GtnhPlatform.Common PipeConsumeTracker List

inductive RetryEvent where
  | opened (plan : ShortfallPlan)
  | retried (nowTick : Nat) (retry : DrainRetry)
  | closed (drainRequestId : Nat)
  deriving DecidableEq

namespace RetryEvent

def drainRequestId : RetryEvent → Nat
  | .opened plan => plan.drainRequestId
  | .retried _ retry => retry.drainRequestId
  | .closed drainRequestId => drainRequestId

def ofSent (sent : Nat × DrainRetry) : RetryEvent := .retried sent.1 sent.2

end RetryEvent

def retriesOf (id : Nat) (history : List RetryEvent) : List RetryEvent :=
  history.filter fun event => event.drainRequestId = id

@[simp] theorem retriesOf_append (id : Nat) (first second : List RetryEvent) :
    retriesOf id (first ++ second) = retriesOf id first ++ retriesOf id second :=
  filter_append ..

/-- The re-publish `collectRetries` builds for an entry. -/
def retryFor (pending : PendingConsume) : DrainRetry where
  drainRequestId := pending.drainRequestId
  sourceNodeId := pending.sourceNodeId
  sourceOwnerId := pending.sourceOwnerId
  sourcePortId := pending.sourcePortId
  sourceEpoch := pending.sourceEpoch
  fluidId := pending.fluidId
  shortfall := pending.requested - pending.pipeAccepted
  retryCount := pending.retryCount + 1

def retryOf (plan : ShortfallPlan) (attempt : Nat) : DrainRetry where
  drainRequestId := plan.drainRequestId
  sourceNodeId := plan.sourceNodeId
  sourceOwnerId := plan.sourceOwnerId
  sourcePortId := plan.sourcePortId
  sourceEpoch := plan.sourceEpoch
  fluidId := plan.fluidId
  shortfall := plan.requested - plan.pipeAccepted
  retryCount := attempt

namespace PipeConsumeTracker

def opens (tracker : PipeConsumeTracker) (plan : ShortfallPlan) : Bool :=
  tracker.plans plan && (tracker.pending.lookup plan.drainRequestId).isNone

def closings (events : List TrackerEvent) : List RetryEvent :=
  (events.filterMap TrackerEvent.completed?).map fun completion =>
    .closed completion.drainRequestId

def retryLog (tracker : PipeConsumeTracker) : TrackerInput → List RetryEvent
  | .planShortfall plan => if tracker.opens plan then [.opened plan] else []
  | .collectRetries nowTick => (tracker.collectRetries nowTick).2.map (.retried nowTick)
  | input => closings (tracker.step input).2

def retryMachine : Machine PipeConsumeTracker TrackerInput RetryEvent where
  step tracker input := ((tracker.step input).1, tracker.retryLog input)

end PipeConsumeTracker

theorem drainRetryBackoffTicks_le (retryCount : Nat) :
    drainRetryBackoffTicks retryCount ≤ kDrainRetryMaxBackoffTicks := by
  have bounded : ∀ rounds backoff, backoff ≤ kDrainRetryMaxBackoffTicks →
      retryBackoff rounds backoff ≤ kDrainRetryMaxBackoffTicks := by
    intro rounds
    induction rounds with
    | zero => exact fun _ bound => bound
    | succ rounds ih =>
      intro backoff _
      simp only [retryBackoff]
      split
      · exact Nat.le_refl _
      · next small => exact ih _ (Nat.le_of_lt (Nat.lt_of_not_le small))
  exact bounded _ _ (by decide)

/-- The re-publish of `plan` on `nowTick`, after those of `sent`. -/
structure OnSchedule (ttlTicks : Nat) (plan : ShortfallPlan) (sent : List (Nat × DrainRetry))
    (nowTick : Nat) (retry : DrainRetry) : Prop where
  request : retry = retryOf plan (sent.length + 1)
  capped : sent.length < kMaxDrainRetries
  afterPlan : plan.nowTick + kDrainRetryBaseBackoffTicks ≤ nowTick
  spaced : ∀ attempt earlier, sent[attempt]? = some earlier →
    earlier.1 + drainRetryBackoffTicks (attempt + 1) ≤ nowTick
  inTime : nowTick < wrapU64 (plan.nowTick + ttlTicks)

/-- Every re-publish belongs to a pending that is open, and is on its
schedule: since the opening nothing but re-publishes happened to it. -/
def Scheduled (ttlTicks : Nat) (events : List RetryEvent) : Prop :=
  ∀ before nowTick retry after, events = before ++ .retried nowTick retry :: after →
    ∃ earlier plan sent, before = earlier ++ .opened plan :: sent.map RetryEvent.ofSent ∧
      OnSchedule ttlTicks plan sent nowTick retry

namespace Scheduled

variable {ttlTicks : Nat} {events : List RetryEvent}

theorem concat (scheduled : Scheduled ttlTicks events) (event : RetryEvent)
    (due : ∀ nowTick retry, event = .retried nowTick retry →
      ∃ earlier plan sent, events = earlier ++ .opened plan :: sent.map RetryEvent.ofSent ∧
        OnSchedule ttlTicks plan sent nowTick retry) : Scheduled ttlTicks (events ++ [event]) := by
  intro before nowTick retry after split
  cases after using reverseRecOn with
  | nil =>
    obtain ⟨rfl, last⟩ := append_inj' split rfl
    exact due nowTick retry (cons.inj last).1
  | append_singleton after final _ =>
    rw [← cons_append, ← append_assoc] at split
    exact scheduled before nowTick retry after (append_inj' split rfl).1

end Scheduled

inductive RetryMove (ttlTicks id : Nat) :
    Option PendingConsume → Option PendingConsume → List RetryEvent → Prop
  | keep (entry : Option PendingConsume) : RetryMove ttlTicks id entry entry []
  | opened {plan : ShortfallPlan} (own : plan.drainRequestId = id)
      (inRange : plan.nowTick + kDrainRetryBaseBackoffTicks < 2 ^ 64) :
      RetryMove ttlTicks id none (some (PipeConsumeTracker.pendingOf ttlTicks plan))
        [.opened plan]
  | retried {pending : PendingConsume} {nowTick : Nat}
      (due : PipeConsumeTracker.retryDue nowTick pending = true)
      (inRange : nowTick + kDrainRetryMaxBackoffTicks < 2 ^ 64) :
      RetryMove ttlTicks id (some pending)
        (some (PipeConsumeTracker.scheduleRetry nowTick pending))
        [.retried nowTick (retryFor pending)]
  | settle (pending : PendingConsume) : RetryMove ttlTicks id (some pending) none [.closed id]
  | cancel (pending : PendingConsume) :
      RetryMove ttlTicks id (some pending) (some (PipeConsumeTracker.markCancelled pending))
        [.closed id]
  | discard {pending : PendingConsume} (cancelled : pending.cancelled = true) :
      RetryMove ttlTicks id (some pending) none []

/-- Where a request id stands: nothing live is held for it, or the pending
opened last, with the re-publishes since and the tick of the next. -/
inductive Standing (ttlTicks : Nat) : Option PendingConsume → List RetryEvent → Prop
  | resting {entry : Option PendingConsume} {events : List RetryEvent}
      (marked : ∀ pending, entry = some pending → pending.cancelled = true) :
      Standing ttlTicks entry events
  | waiting {earlier : List RetryEvent} {plan : ShortfallPlan} {sent : List (Nat × DrainRetry)}
      {nextRetryAt : Nat}
      (afterPlan : plan.nowTick + kDrainRetryBaseBackoffTicks ≤ nextRetryAt)
      (spaced : ∀ attempt previous, sent[attempt]? = some previous →
        previous.1 + drainRetryBackoffTicks (attempt + 1) ≤ nextRetryAt) :
      Standing ttlTicks
        (some { PipeConsumeTracker.pendingOf ttlTicks plan with
          retryCount := sent.length
          nextRetryAt := nextRetryAt })
        (earlier ++ .opened plan :: sent.map RetryEvent.ofSent)

namespace Standing

variable {ttlTicks : Nat}

theorem opened (events : List RetryEvent) {plan : ShortfallPlan}
    (inRange : plan.nowTick + kDrainRetryBaseBackoffTicks < 2 ^ 64) :
    Standing ttlTicks (some (pendingOf ttlTicks plan)) (events ++ [.opened plan]) := by
  have first : wrapU64 (plan.nowTick + kDrainRetryBaseBackoffTicks) =
      plan.nowTick + kDrainRetryBaseBackoffTicks := wrapU64_of_lt inRange
  exact @Standing.waiting ttlTicks events plan [] _ (Nat.le_of_eq first.symm) (by simp)

theorem retried {pending : PendingConsume} {events : List RetryEvent} {nowTick : Nat}
    (standing : Standing ttlTicks (some pending) events) (due : retryDue nowTick pending = true)
    (inRange : nowTick + kDrainRetryMaxBackoffTicks < 2 ^ 64) :
    (∃ earlier plan sent, events = earlier ++ .opened plan :: sent.map RetryEvent.ofSent ∧
      OnSchedule ttlTicks plan sent nowTick (retryFor pending)) ∧
    Standing ttlTicks (some (scheduleRetry nowTick pending))
      (events ++ [.retried nowTick (retryFor pending)]) := by
  simp only [retryDue, Bool.and_eq_true, Bool.not_eq_true', decide_eq_true_eq] at due
  obtain ⟨⟨⟨live, capped⟩, reached⟩, inTime⟩ := due
  generalize entryEq : some pending = entry at standing
  cases standing with
  | resting marked =>
    have cancelled := marked pending entryEq.symm
    rw [cancelled] at live
    contradiction
  | @waiting earlier plan sent nextRetryAt afterPlan spaced =>
    cases entryEq
    have next : wrapU64 (nowTick + drainRetryBackoffTicks (sent.length + 1)) =
        nowTick + drainRetryBackoffTicks (sent.length + 1) := by
      apply wrapU64_of_lt
      have bounded := drainRetryBackoffTicks_le (sent.length + 1)
      omega
    refine ⟨⟨earlier, plan, sent, rfl, ?_⟩, ?_⟩
    · exact {
        request := rfl
        capped := capped
        afterPlan := Nat.le_trans afterPlan reached
        spaced := fun attempt previous found =>
          Nat.le_trans (spaced attempt previous found) reached
        inTime := inTime }
    · have waits : ∀ attempt previous,
          (sent ++ [(nowTick, retryFor { pendingOf ttlTicks plan with
            retryCount := sent.length
            nextRetryAt := nextRetryAt })])[attempt]? = some previous →
          previous.1 + drainRetryBackoffTicks (attempt + 1) ≤
            wrapU64 (nowTick + drainRetryBackoffTicks (sent.length + 1)) := by
        intro attempt previous found
        rw [next]
        rcases Nat.lt_or_ge attempt sent.length with earlierOne | last
        · rw [getElem?_append_left earlierOne] at found
          exact Nat.le_trans (Nat.le_trans (spaced attempt previous found) reached)
            (Nat.le_add_right _ _)
        rw [getElem?_append_right last, getElem?_singleton] at found
        split at found
        · next same =>
          cases found
          obtain rfl : attempt = sent.length := by omega
          exact Nat.le_refl _
        · contradiction
      have later : plan.nowTick + kDrainRetryBaseBackoffTicks ≤
          wrapU64 (nowTick + drainRetryBackoffTicks (sent.length + 1)) := by
        rw [next]
        exact Nat.le_trans (Nat.le_trans afterPlan reached) (Nat.le_add_right _ _)
      have standing := @Standing.waiting ttlTicks earlier plan _ _ later waits
      rw [length_append, map_append] at standing
      rw [append_assoc, cons_append]
      exact standing

theorem move {id : Nat} {before after : Option PendingConsume} {events added : List RetryEvent}
    (standing : Standing ttlTicks before events) (scheduled : Scheduled ttlTicks events)
    (move : RetryMove ttlTicks id before after added) :
    Standing ttlTicks after (events ++ added) ∧ Scheduled ttlTicks (events ++ added) := by
  have quiet : ∀ event : RetryEvent, (∀ nowTick retry, event ≠ .retried nowTick retry) →
      Scheduled ttlTicks (events ++ [event]) := by
    intro event other
    exact scheduled.concat event fun nowTick retry equality =>
      absurd equality (other nowTick retry)
  cases move with
  | keep =>
    rw [append_nil]
    exact ⟨standing, scheduled⟩
  | opened own inRange => exact ⟨.opened events inRange, quiet _ nofun⟩
  | @retried pending tick due inRange =>
    obtain ⟨published, next⟩ := standing.retried due inRange
    refine ⟨next, scheduled.concat _ ?_⟩
    rintro nowTick retry equality
    cases equality
    exact published
  | settle pending => exact ⟨.resting nofun, quiet _ nofun⟩
  | cancel pending =>
    refine ⟨.resting ?_, quiet _ nofun⟩
    rintro found equality
    cases equality
    rfl
  | discard cancelled =>
    rw [append_nil]
    exact ⟨.resting nofun, scheduled⟩

end Standing

def Keyed (table : Table Nat PendingConsume) : Prop :=
  ∀ id pending, table.lookup id = some pending → pending.drainRequestId = id

theorem RetryMove.keyed {ttlTicks id : Nat} {before after : Option PendingConsume}
    {added : List RetryEvent} (move : RetryMove ttlTicks id before after added)
    (keyed : ∀ pending, before = some pending → pending.drainRequestId = id) :
    ∀ pending, after = some pending → pending.drainRequestId = id := by
  cases move with
  | keep => exact keyed
  | opened own =>
    intro pending equality
    cases equality
    exact own
  | @retried due =>
    intro pending equality
    cases equality
    exact keyed due rfl
  | settle => exact nofun
  | cancel live =>
    intro pending equality
    cases equality
    exact keyed live rfl
  | discard => exact nofun

theorem closings_of_select {table : Table Nat PendingConsume} (keyed : Keyed table)
    (choose : Nat → PendingConsume → Bool) (id : Nat) :
    retriesOf id (closings (shortFills (table.select choose))) =
      (((table.lookup id).filter (choose id)).map fun _ => RetryEvent.closed id).toList := by
  have closed : closings
        (shortFills (table.select choose)) =
      (table.select choose).map fun pending => .closed pending.drainRequestId := by
    rw [closings, completed_shortFills, map_map]
    rfl
  rw [closed, retriesOf, filter_map]
  have own : (table.select choose).filter ((fun event => decide (event.drainRequestId = id)) ∘
      fun pending => RetryEvent.closed pending.drainRequestId) =
        ((table.lookup id).filter (choose id)).toList :=
    table.select_filter_key PendingConsume.drainRequestId choose keyed id
  rw [own]
  cases found : (table.lookup id).filter (choose id) with
  | none => rfl
  | some pending =>
    have stored := (Option.filter_eq_some_iff.mp found).1
    simp [keyed id pending stored]

namespace PipeConsumeTracker

variable {tracker : PipeConsumeTracker}

theorem cancelWhere_retryMove (keyed : Keyed tracker.pending)
    (concerns : Nat → PendingConsume → Bool) (id : Nat) :
    RetryMove tracker.ttlTicks id (tracker.pending.lookup id)
      ((tracker.cancelWhere concerns).1.pending.lookup id)
      (retriesOf id (closings (shortFills (tracker.cancelWhere concerns).2))) := by
  have answers : shortFills (tracker.cancelWhere concerns).2 =
      shortFills (tracker.pending.select fun key pending =>
        !pending.cancelled && concerns key pending) := by
    simp only [cancelWhere, shortFills, map_map]
    rfl
  rw [answers, closings_of_select keyed]
  simp only [cancelWhere]
  rw [Table.lookup_mapValues]
  cases tracker.pending.lookup id with
  | none => exact .keep none
  | some pending =>
    cases live : !pending.cancelled && concerns id pending with
    | false =>
      simp only [Option.filter, Option.map_some, live]
      exact .keep (some pending)
    | true =>
      simp only [Option.filter, Option.map_some, live]
      exact .cancel pending

theorem leave_retryMove (keyed : Keyed tracker.pending) (drop report : Nat → PendingConsume → Bool)
    (reports : ∀ id pending, report id pending = (drop id pending && !pending.cancelled))
    (id : Nat) :
    RetryMove tracker.ttlTicks id (tracker.pending.lookup id)
      ((tracker.pending.filter fun key pending => !drop key pending).lookup id)
      (retriesOf id (closings (shortFills (tracker.pending.select report)))) := by
  rw [closings_of_select keyed, Table.lookup_filter]
  cases tracker.pending.lookup id with
  | none => exact .keep none
  | some pending =>
    cases leaves : drop id pending with
    | false =>
      simp only [Option.filter, reports, leaves]
      exact .keep (some pending)
    | true =>
      cases mark : pending.cancelled with
      | true =>
        simp only [Option.filter, reports, leaves, mark]
        exact .discard mark
      | false =>
        simp only [Option.filter, reports, leaves, mark]
        exact .settle pending

theorem planShortfall_retryMove (plan : ShortfallPlan)
    (inRange : plan.nowTick + kDrainRetryBaseBackoffTicks < 2 ^ 64) (id : Nat) :
    RetryMove tracker.ttlTicks id (tracker.pending.lookup id)
      ((tracker.step (.planShortfall plan)).1.pending.lookup id)
      (retriesOf id (tracker.retryLog (.planShortfall plan))) := by
  cases planned : tracker.plans plan with
  | false =>
    simp only [step, planShortfall, retryLog, opens, planned, Bool.false_eq_true, if_false,
      Bool.false_and]
    exact .keep _
  | true =>
    simp only [step, planShortfall, retryLog, opens, planned, if_true, Bool.true_and]
    cases found : tracker.pending.lookup plan.drainRequestId with
    | some present =>
      rw [Table.emplace_of_some _ found]
      exact .keep _
    | none =>
      rw [Table.lookup_emplace_of_none _ found]
      by_cases own : id = plan.drainRequestId
      · subst own
        have opening : retriesOf plan.drainRequestId [.opened plan] = [.opened plan] := by
          simp [retriesOf, RetryEvent.drainRequestId]
        rw [if_pos rfl, found, Option.isNone_none, if_pos rfl, opening]
        exact .opened rfl inRange
      · have other : retriesOf id [.opened plan] = [] := by
          simp [retriesOf, RetryEvent.drainRequestId, Ne.symm own]
        rw [if_neg own, Option.isNone_none, if_pos rfl, other]
        exact .keep _

variable (keyed : Keyed tracker.pending)

include keyed

theorem collectRetries_retryMove (nowTick : Nat)
    (inRange : nowTick + kDrainRetryMaxBackoffTicks < 2 ^ 64) (id : Nat) :
    RetryMove tracker.ttlTicks id (tracker.pending.lookup id)
      ((tracker.collectRetries nowTick).1.pending.lookup id)
      (retriesOf id (tracker.retryLog (.collectRetries nowTick))) := by
  have own : retriesOf id (tracker.retryLog (.collectRetries nowTick)) =
      (((tracker.pending.lookup id).filter fun pending => retryDue nowTick pending).map
        fun pending => RetryEvent.retried nowTick (retryFor pending)).toList := by
    have published : tracker.retryLog (.collectRetries nowTick) =
        (tracker.pending.select fun _ pending => retryDue nowTick pending).map
          fun pending => .retried nowTick (retryFor pending) := by
      simp only [retryLog, collectRetries, map_map]
      rfl
    rw [published, retriesOf, filter_map]
    have chosen : (tracker.pending.select fun _ pending => retryDue nowTick pending).filter
        ((fun event => decide (event.drainRequestId = id)) ∘
          fun pending => RetryEvent.retried nowTick (retryFor pending)) =
        ((tracker.pending.lookup id).filter fun pending => retryDue nowTick pending).toList :=
      tracker.pending.select_filter_key PendingConsume.drainRequestId _ keyed id
    rw [chosen]
    cases (tracker.pending.lookup id).filter _ <;> rfl
  rw [own]
  simp only [collectRetries]
  rw [Table.lookup_mapValues]
  cases tracker.pending.lookup id with
  | none => exact .keep none
  | some pending =>
    cases due : retryDue nowTick pending with
    | false =>
      simp only [Option.filter, Option.map_some, due]
      exact .keep (some pending)
    | true =>
      simp only [Option.filter, Option.map_some, due]
      exact .retried due inRange

theorem applyDrainResponse_retryMove (drainRequestId fluidId : Nat)
    (acceptedAmount : Int) (id : Nat) : RetryMove tracker.ttlTicks id (tracker.pending.lookup id)
      ((tracker.step (.applyDrainResponse drainRequestId fluidId acceptedAmount)).1.pending.lookup
        id) (retriesOf id (tracker.retryLog (.applyDrainResponse drainRequestId fluidId
        acceptedAmount))) := by
  simp only [retryLog, step, applyDrainResponse]
  cases found : tracker.pending.lookup drainRequestId with
  | none => exact .keep _
  | some pending =>
    cases mark : pending.cancelled with
    | true =>
      simp only [mark, if_true]
      exact .keep _
    | false =>
      by_cases other : fluidId ≠ pending.fluidId
      · simp only [mark, if_pos other, Bool.false_eq_true, if_false]
        exact .keep _
      simp only [mark, if_neg other, Bool.false_eq_true, if_false]
      have answered : ∀ result : DrainApplyResult, result.completed = pending →
          closings [.completed (appliedFill result)] = [.closed drainRequestId] := by
        intro result completed
        have stored := keyed drainRequestId pending found
        simp [closings, TrackerEvent.completed?, appliedFill, completed, stored]
      rw [answered _ rfl]
      by_cases own : id = drainRequestId
      · subst own
        have closing : retriesOf id [.closed id] = [.closed id] := by
          simp [retriesOf, RetryEvent.drainRequestId]
        rw [AList.lookup_erase, found, closing]
        exact .settle pending
      · have closing : retriesOf id [.closed drainRequestId] = [] := by
          simp [retriesOf, RetryEvent.drainRequestId, Ne.symm own]
        rw [AList.lookup_erase_ne own, closing]
        exact .keep _

theorem step_retryMove (input : TrackerInput) (planFits : ∀ plan, input = .planShortfall plan →
      plan.nowTick + kDrainRetryBaseBackoffTicks < 2 ^ 64)
    (retryFits : ∀ nowTick, input = .collectRetries nowTick →
      nowTick + kDrainRetryMaxBackoffTicks < 2 ^ 64) (id : Nat) :
    RetryMove tracker.ttlTicks id (tracker.pending.lookup id)
      ((tracker.step input).1.pending.lookup id) (retriesOf id (tracker.retryLog input)) := by
  cases input with
  | planShortfall plan => exact planShortfall_retryMove plan (planFits plan rfl) id
  | applyDrainResponse drainRequestId fluidId acceptedAmount =>
    exact applyDrainResponse_retryMove keyed drainRequestId fluidId acceptedAmount id
  | collectRetries nowTick => exact collectRetries_retryMove keyed nowTick (retryFits nowTick rfl) id
  | cancelRequest drainRequestId => exact cancelWhere_retryMove keyed _ id
  | cancelStaleEpoch ownerId portId currentEpoch =>
    rw [retryLog, step, cancelStaleEpoch]
    · by_cases unset : portId = 0
      · simp only [if_pos unset]
        exact .keep _
      · simp only [if_neg unset]
        exact cancelWhere_retryMove keyed _ id
    · rintro _ ⟨⟩
    · rintro _ ⟨⟩
  | noteSourceRejection key nowTick => exact .keep _
  | clearSourceRejection key => exact .keep _
  | clearRejectionBackoffForPort ownerId portId => exact .keep _
  | cancelForNode nodeId =>
    rw [retryLog, step, cancelForNode]
    · by_cases unset : nodeId = 0
      · simp only [if_pos unset]
        exact .keep _
      · simp only [if_neg unset]
        exact cancelWhere_retryMove keyed _ id
    · rintro _ ⟨⟩
    · rintro _ ⟨⟩
  | expire nowTick => exact leave_retryMove keyed _ _ (fun _ _ => rfl) id
  | clearForPort ownerId portId =>
    rw [retryLog, step, clearForPort]
    · by_cases unset : portId = 0
      · simp only [if_pos unset]
        exact .keep _
      · simp only [if_neg unset]
        refine leave_retryMove keyed _ _ (fun key pending => ?_) id
        cases pending.cancelled <;> simp
    · rintro _ ⟨⟩
    · rintro _ ⟨⟩

omit keyed

end PipeConsumeTracker

structure BackoffsFit (inputs : List TrackerInput) : Prop where
  plans : ∀ plan ∈ plansOf inputs, plan.nowTick + kDrainRetryBaseBackoffTicks < 2 ^ 64
  retries : ∀ nowTick, .collectRetries nowTick ∈ inputs →
    nowTick + kDrainRetryMaxBackoffTicks < 2 ^ 64

structure OnTime (ttlTicks : Nat) (tracker : PipeConsumeTracker) (history : List RetryEvent) :
    Prop where
  ttl : tracker.ttlTicks = ttlTicks
  keyed : Keyed tracker.pending
  standing : ∀ id, Standing ttlTicks (tracker.pending.lookup id) (retriesOf id history)
  scheduled : ∀ id, Scheduled ttlTicks (retriesOf id history)

variable {ttlTicks : Nat}

theorem OnTime.step {tracker : PipeConsumeTracker} {history : List RetryEvent}
    (onTime : OnTime ttlTicks tracker history) (input : TrackerInput) (fits : BackoffsFit [input]) :
    OnTime ttlTicks (tracker.step input).1 (history ++ tracker.retryLog input) := by
  have moves : ∀ id, RetryMove ttlTicks id (tracker.pending.lookup id)
      ((tracker.step input).1.pending.lookup id) (retriesOf id (tracker.retryLog input)) := by
    intro id
    rw [← onTime.ttl]
    refine tracker.step_retryMove onTime.keyed input ?_ ?_ id
    · rintro plan rfl
      exact fits.plans plan (by simp [plansOf, TrackerInput.plan?])
    · rintro nowTick rfl
      exact fits.retries nowTick (mem_singleton.mpr rfl)
  have moved := fun id => (onTime.standing id).move (onTime.scheduled id) (moves id)
  exact {
    ttl := (tracker.step_ttlTicks input).trans onTime.ttl
    keyed := fun id => (moves id).keyed (onTime.keyed id)
    standing := fun id => by
      rw [retriesOf_append]
      exact (moved id).1
    scheduled := fun id => by
      rw [retriesOf_append]
      exact (moved id).2 }

theorem onTime_run (fits : BackoffsFit inputs) : OnTime ttlTicks
      (retryMachine.final (new ttlTicks) inputs) (retryMachine.outputs (new ttlTicks) inputs) := by
  refine retryMachine.invariant (fun _ input => BackoffsFit [input])
    (fun _ tracker history => OnTime ttlTicks tracker history) ?_ ?_ inputs ?_
  · refine ⟨rfl, nofun, fun id => .resting nofun, fun id before nowTick retry after split => ?_⟩
    cases before <;> contradiction
  · intro _ tracker history input onTime room
    exact onTime.step input room
  rw [Machine.along_iff]
  rintro before input after rfl
  refine ⟨fun plan mem => fits.plans plan ?_, fun nowTick mem => fits.retries nowTick ?_⟩
  · obtain ⟨planned, own, planEq⟩ := mem_filterMap.mp mem
    obtain rfl := mem_singleton.mp own
    exact mem_filterMap.mpr ⟨planned, by simp, planEq⟩
  · obtain rfl := mem_singleton.mp mem
    simp

theorem retries_scheduled (ttlTicks : Nat) (inputs : List TrackerInput) (fits : BackoffsFit inputs)
    (id : Nat) : Scheduled ttlTicks (retriesOf id
      (PipeConsumeTracker.retryMachine.outputs (PipeConsumeTracker.new ttlTicks) inputs)) :=
  (onTime_run fits).scheduled id

def ticksOf (inputs : List TrackerInput) : List Nat := inputs.filterMap fun
    | .planShortfall plan => some plan.nowTick
    | .collectRetries nowTick => some nowTick
    | .noteSourceRejection _ nowTick => some nowTick
    | .expire nowTick => some nowTick
    | _ => none

def shortfallAt (nowTick : Nat) : ShortfallPlan where
  drainRequestId := 7
  consumeRequestId := 1
  sinkNodeId := 2
  fluidId := 1
  requested := 100
  pipeAccepted := 40
  sourceNodeId := 5
  sourceOwnerId := 9
  sourcePortId := 258
  nowTick := nowTick
  sourceEpoch := 1

def retryRun (planTick : Nat) (retryTicks : List Nat) : List TrackerInput :=
  .planShortfall (shortfallAt planTick) :: retryTicks.map .collectRetries

theorem retryRun_scheduled : Scheduled 50 (retriesOf 7 (PipeConsumeTracker.retryMachine.outputs
      (PipeConsumeTracker.new 50) (retryRun 3 [4, 5, 6, 7, 11, 19, 40]))) := by
  have room : ∀ tick ∈ [4, 5, 6, 7, 11, 19, 40], tick + kDrainRetryMaxBackoffTicks < 2 ^ 64 := by
    decide
  refine retries_scheduled 50 _ ⟨by decide, fun nowTick mem => ?_⟩ 7
  obtain ⟨tick, listed, rfl⟩ : ∃ tick ∈ [4, 5, 6, 7, 11, 19, 40], tick = nowTick := by
    simpa [retryRun] using mem
  exact room tick listed

def lateTicks : List TrackerInput := retryRun (2 ^ 64 - 52) [2 ^ 64 - 7, 2 ^ 64 - 4, 2 ^ 64 - 4]

theorem retry_after_wrap :
    (ticksOf lateTicks).Pairwise (· ≤ ·) ∧ (∀ tick ∈ ticksOf lateTicks, tick < 2 ^ 64) ∧
    ¬ Scheduled 50 (retriesOf 7
      (PipeConsumeTracker.retryMachine.outputs (PipeConsumeTracker.new 50) lateTicks)) := by
  refine ⟨by decide, by decide, fun scheduled => ?_⟩
  have history : retriesOf 7
      (PipeConsumeTracker.retryMachine.outputs (PipeConsumeTracker.new 50) lateTicks) =
    [.opened (shortfallAt (2 ^ 64 - 52)),
      .retried (2 ^ 64 - 7) (retryOf (shortfallAt (2 ^ 64 - 52)) 1),
      .retried (2 ^ 64 - 4) (retryOf (shortfallAt (2 ^ 64 - 52)) 2)] ++
        .retried (2 ^ 64 - 4) (retryOf (shortfallAt (2 ^ 64 - 52)) 3) :: [] := by
    decide +kernel
  obtain ⟨earlier, plan, sent, before, onSchedule⟩ := scheduled _ _ _ _ history
  cases earlier with
  | cons event earlier =>
    have mem : RetryEvent.opened plan ∈
        earlier ++ .opened plan :: sent.map RetryEvent.ofSent :=
      mem_append_right _ mem_cons_self
    have rest := (cons.inj before).2
    rw [append_eq] at rest
    rw [← rest] at mem
    simp at mem
  | nil =>
    have found : (sent.map RetryEvent.ofSent)[1]? = some (.retried (2 ^ 64 - 4)
        (retryOf (shortfallAt (2 ^ 64 - 52)) 2)) := by
      rw [← (cons.inj before).2]
      rfl
    rw [getElem?_map, Option.map_eq_some_iff] at found
    obtain ⟨previous, stored, shown⟩ := found
    have spaced := onSchedule.spaced 1 previous stored
    rw [(RetryEvent.retried.inj shown).1] at spaced
    exact absurd spaced (by decide)

end GtnhPlatform.PipeNetwork
