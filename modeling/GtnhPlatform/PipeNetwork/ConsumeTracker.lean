import GtnhPlatform.Common.ResourcePort
import GtnhPlatform.Data.Machine
import GtnhPlatform.Data.Table
import GtnhPlatform.Data.Word

namespace GtnhPlatform.PipeNetwork

open GtnhPlatform.Common

def kDrainRetryBaseBackoffTicks : Nat := 2
def kDrainRetryBackoffMultiplier : Nat := 2
def kDrainRetryMaxBackoffTicks : Nat := 16
def kMaxDrainRetries : Nat := 4
def kSourceRejectBaseBackoffTicks : Nat := 5
def kSourceRejectMaxBackoffTicks : Nat := 50

def rejectWindow : Nat → Nat → Nat
  | 0, window => window
  | rounds + 1, window =>
    if window < kSourceRejectMaxBackoffTicks then rejectWindow rounds (window * 2)
    else window

def sourceRejectBackoffTicks (consecutive : Nat) : Nat :=
  min (rejectWindow (consecutive - 1) kSourceRejectBaseBackoffTicks)
    kSourceRejectMaxBackoffTicks

def retryBackoff : Nat → Nat → Nat
  | 0, backoff => backoff
  | rounds + 1, backoff =>
    let doubled := backoff * kDrainRetryBackoffMultiplier
    if kDrainRetryMaxBackoffTicks ≤ doubled then kDrainRetryMaxBackoffTicks
    else retryBackoff rounds doubled

def drainRetryBackoffTicks (retryCount : Nat) : Nat :=
  retryBackoff (retryCount - 1) kDrainRetryBaseBackoffTicks

structure PendingConsume where
  drainRequestId : Nat
  consumeRequestId : Nat
  sinkNodeId : Nat
  sourceNodeId : Nat
  sourceOwnerId : Nat
  sourcePortId : PortId
  sourceEpoch : Nat
  fluidId : Nat
  requested : Int
  pipeAccepted : Int
  expiresAt : Nat
  retryCount : Nat
  nextRetryAt : Nat
  cancelled : Bool
  deriving DecidableEq

structure DrainApplyResult where
  sourceAccepted : Int
  combinedAccepted : Int
  remaining : Int
  completed : PendingConsume

structure ShortfallDecision where
  drainRequestId : Nat
  sourceNodeId : Nat
  sourceOwnerId : Nat
  sourcePortId : PortId
  shortfall : Int

structure DrainRetry where
  drainRequestId : Nat
  sourceNodeId : Nat
  sourceOwnerId : Nat
  sourcePortId : PortId
  sourceEpoch : Nat
  fluidId : Nat
  shortfall : Int
  retryCount : Nat
  deriving DecidableEq

structure ShortfallPlan where
  drainRequestId : Nat
  consumeRequestId : Nat
  sinkNodeId : Nat
  fluidId : Nat
  requested : Int
  pipeAccepted : Int
  sourceNodeId : Nat
  sourceOwnerId : Nat
  sourcePortId : PortId
  nowTick : Nat
  sourceEpoch : Nat
  deriving DecidableEq

structure SourceKey where
  nodeId : Nat
  ownerId : Nat
  portId : PortId
  deriving DecidableEq

structure SourceRejection where
  untilTick : Nat
  consecutive : Nat

structure PipeConsumeTracker where
  ttlTicks : Nat
  pending : Table Nat PendingConsume
  rejectBackoff : Table SourceKey SourceRejection

namespace PipeConsumeTracker

def new (ttlTicks : Nat) : PipeConsumeTracker where
  ttlTicks := ttlTicks
  pending := ∅
  rejectBackoff := ∅

variable (tracker : PipeConsumeTracker)

def sourceInRejectionBackoff (key : SourceKey) (nowTick : Nat) : Bool :=
  match tracker.rejectBackoff.lookup key with
  | some state => decide (nowTick < state.untilTick)
  | none => false

def pendingOf (ttlTicks : Nat) (plan : ShortfallPlan) : PendingConsume where
  drainRequestId := plan.drainRequestId
  consumeRequestId := plan.consumeRequestId
  sinkNodeId := plan.sinkNodeId
  sourceNodeId := plan.sourceNodeId
  sourceOwnerId := plan.sourceOwnerId
  sourcePortId := plan.sourcePortId
  sourceEpoch := plan.sourceEpoch
  fluidId := plan.fluidId
  requested := plan.requested
  pipeAccepted := plan.pipeAccepted
  expiresAt := wrapU64 (plan.nowTick + ttlTicks)
  retryCount := 0
  nextRetryAt := wrapU64 (plan.nowTick + kDrainRetryBaseBackoffTicks)
  cancelled := false

/-- The three guards of `planShortfall`: there is a shortfall with a source and
an identity, and the source is not cooling down. -/
def plans (plan : ShortfallPlan) : Bool :=
  decide (0 < plan.requested - plan.pipeAccepted) &&
    plan.sourceNodeId != 0 && plan.drainRequestId != 0 &&
    !tracker.sourceInRejectionBackoff
      ⟨plan.sourceNodeId, plan.sourceOwnerId, plan.sourcePortId⟩ plan.nowTick

/-- `none` is a decision without `request_source`. -/
def planShortfall (plan : ShortfallPlan) : PipeConsumeTracker × Option ShortfallDecision :=
  if tracker.plans plan then
    ({ tracker with
        pending := tracker.pending.emplace plan.drainRequestId
          (pendingOf tracker.ttlTicks plan) },
      some {
        drainRequestId := plan.drainRequestId
        sourceNodeId := plan.sourceNodeId
        sourceOwnerId := plan.sourceOwnerId
        sourcePortId := plan.sourcePortId
        shortfall := plan.requested - plan.pipeAccepted })
  else (tracker, none)

/-- `none` is a result without `applied`: the response is for an unknown or
already applied id, for a cancelled request or for another fluid. -/
def applyDrainResponse (drainRequestId fluidId : Nat)
    (acceptedAmount : Int) : PipeConsumeTracker × Option DrainApplyResult :=
  match tracker.pending.lookup drainRequestId with
  | none => (tracker, none)
  | some pending =>
    if pending.cancelled then (tracker, none)
    else if fluidId ≠ pending.fluidId then (tracker, none)
    else
      let accepted := min (max acceptedAmount 0) (pending.requested - pending.pipeAccepted)
      ({ tracker with pending := tracker.pending.erase drainRequestId }, some {
          sourceAccepted := accepted
          combinedAccepted := pending.pipeAccepted + accepted
          remaining := pending.requested - (pending.pipeAccepted + accepted)
          completed := pending })

/-- Whether `collectRetries` re-publishes an entry. -/
def retryDue (nowTick : Nat) (pending : PendingConsume) : Bool :=
  !pending.cancelled && decide (pending.retryCount < kMaxDrainRetries) &&
    decide (pending.nextRetryAt ≤ nowTick) && decide (nowTick < pending.expiresAt)

def scheduleRetry (nowTick : Nat) (pending : PendingConsume) : PendingConsume :=
  { pending with
    retryCount := pending.retryCount + 1
    nextRetryAt := wrapU64 (nowTick + drainRetryBackoffTicks (pending.retryCount + 1)) }

def collectRetries (nowTick : Nat) : PipeConsumeTracker × List DrainRetry :=
  ({ tracker with
      pending := tracker.pending.mapValues fun _ pending =>
        if retryDue nowTick pending then scheduleRetry nowTick pending else pending },
    (tracker.pending.select fun _ pending => retryDue nowTick pending).map fun pending =>
      { drainRequestId := pending.drainRequestId
        sourceNodeId := pending.sourceNodeId
        sourceOwnerId := pending.sourceOwnerId
        sourcePortId := pending.sourcePortId
        sourceEpoch := pending.sourceEpoch
        fluidId := pending.fluidId
        shortfall := pending.requested - pending.pipeAccepted
        retryCount := pending.retryCount + 1 })

def markCancelled (pending : PendingConsume) : PendingConsume :=
  { pending with cancelled := true }

/-- The loop shared by the cancelling operations: every live entry the
operation concerns is marked in place and returned once. -/
def cancelWhere (concerns : Nat → PendingConsume → Bool) :
    PipeConsumeTracker × List PendingConsume :=
  ({ tracker with
      pending := tracker.pending.mapValues fun key pending =>
        if !pending.cancelled && concerns key pending then markCancelled pending
        else pending },
    (tracker.pending.select fun key pending =>
      !pending.cancelled && concerns key pending).map markCancelled)

def cancelRequest (drainRequestId : Nat) : PipeConsumeTracker × List PendingConsume :=
  tracker.cancelWhere fun key _ => key == drainRequestId

def cancelStaleEpoch (ownerId : Nat) (portId : PortId)
    (currentEpoch : Nat) : PipeConsumeTracker × List PendingConsume :=
  if portId = 0 then (tracker, [])
  else tracker.cancelWhere fun _ pending =>
    pending.sourceOwnerId == ownerId && pending.sourcePortId == portId &&
      pending.sourceEpoch != currentEpoch

def noteSourceRejection (key : SourceKey) (nowTick : Nat) : PipeConsumeTracker :=
  let state := (tracker.rejectBackoff.lookup key).getD ⟨0, 0⟩
  let consecutive := if state.consecutive < 32 then state.consecutive + 1 else state.consecutive
  { tracker with
    rejectBackoff := AList.insert key
      ⟨wrapU64 (nowTick + sourceRejectBackoffTicks consecutive), consecutive⟩
      tracker.rejectBackoff }

def clearSourceRejection (key : SourceKey) : PipeConsumeTracker :=
  { tracker with rejectBackoff := tracker.rejectBackoff.erase key }

def clearRejectionBackoffForPort (ownerId : Nat) (portId : PortId) : PipeConsumeTracker :=
  { tracker with
    rejectBackoff := tracker.rejectBackoff.filter fun key _ =>
      !(key.ownerId == ownerId && key.portId == portId) }

def cancelForNode (nodeId : Nat) : PipeConsumeTracker × List PendingConsume :=
  if nodeId = 0 then (tracker, [])
  else
    let (marked, cancelled) := tracker.cancelWhere fun _ pending =>
      pending.sourceNodeId == nodeId || pending.sinkNodeId == nodeId
    ({ marked with
        rejectBackoff := marked.rejectBackoff.filter fun key _ => !(key.nodeId == nodeId) },
      cancelled)

def expire (nowTick : Nat) : PipeConsumeTracker × List PendingConsume :=
  ({ tracker with
      pending := tracker.pending.filter fun _ pending => !decide (pending.expiresAt ≤ nowTick) },
    tracker.pending.select fun _ pending =>
      decide (pending.expiresAt ≤ nowTick) && !pending.cancelled)

def clearForPort (ownerId : Nat) (portId : PortId) : PipeConsumeTracker × List PendingConsume :=
  if portId = 0 then (tracker, [])
  else
    let addressed := fun (_ : Nat) (pending : PendingConsume) =>
      pending.sourcePortId == portId && pending.sourceOwnerId == ownerId && !pending.cancelled
    let cooled := tracker.clearRejectionBackoffForPort ownerId portId
    ({ cooled with
        pending := cooled.pending.filter fun key pending => !addressed key pending },
      cooled.pending.select addressed)

end PipeConsumeTracker

end GtnhPlatform.PipeNetwork
