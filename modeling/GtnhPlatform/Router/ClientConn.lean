import GtnhPlatform.Data.Channel
import GtnhPlatform.Router.Registry
import Mathlib.Data.List.SplitOn
import Mathlib.Logic.Function.Basic

namespace GtnhPlatform.Router

/-! A connection of the router: its send channels by priority, and its writer. -/

inductive Priority where
  | high
  | normal
  | low
  deriving DecidableEq

def sendChSize : Nat := 4096

def bytesOf (text : String) : Name := text.toList.map fun char => UInt8.ofNat char.toNat

def classifyTopic (topic : Name) : Priority :=
  if topic = bytesOf "player.actions.ack" ∨ topic = bytesOf "player.actions" then .high
  else if (bytesOf "world.").isPrefixOf topic then .normal
  else if topic = bytesOf "player.inventory.update" ∨ topic = bytesOf "player.inventory.load" ∨
      topic = bytesOf "player.joined" then .normal
  else if topic = bytesOf "meta_db.inventory.set" ∨ topic = bytesOf "meta_db.inventory.get" ∨
      topic = bytesOf "metadb.player.online" then .normal
  else .low

def dot : UInt8 := 46
def plus : UInt8 := 43
def hash : UInt8 := 35

def segmentsMatch : List Name → List Name → Bool
  | [], [] => true
  | [segment], [] => segment = [hash]
  | pattern :: patterns, topic :: topics =>
    if pattern = [hash] then true
    else if pattern ≠ [plus] ∧ pattern ≠ topic then false
    else segmentsMatch patterns topics
  | _, _ => false

def topicMatches (pattern topic : Name) : Bool :=
  if plus ∈ pattern ∨ hash ∈ pattern then
    segmentsMatch (pattern.splitOn dot) (topic.splitOn dot)
  else pattern = topic

/-- The clients that a publish visits, once for every pattern. -/
def RouterState.targets (router : RouterState) (topic : Name) : List Client :=
  ((router.subs.entries.filter fun entry => topicMatches entry.1 topic).map Sigma.snd).flatten

inductive WriterStage where
  | high
  | highNormal
  | any
  | returned

structure ClientConn (α : Type) where
  sendCh : Priority → Channel α := fun _ => {}
  done : Bool := false
  dropped : Nat := 0
  writer : WriterStage := .high
  delivered : List α := []

namespace ClientConn

variable {α : Type} (cl : ClientConn α)

def setCh (prio : Priority) (channel : Channel α) : ClientConn α :=
  { cl with sendCh := Function.update cl.sendCh prio channel }

theorem sendCh_setCh (prio : Priority) (channel : Channel α) (other : Priority) :
    (cl.setCh prio channel).sendCh other = if other = prio then channel else cl.sendCh other :=
  Function.update_apply _ _ _ _

def writerCases : WriterStage → List Priority
  | .high => [.high]
  | .highNormal => [.high, .normal]
  | .any => [.high, .normal, .low]
  | .returned => []

/-- Where the writer goes when nothing is ready. The last select has no default
and waits. -/
def nextStage : WriterStage → WriterStage
  | .high => .highNormal
  | .highNormal => .any
  | stage => stage

/-- One select of `writer`, with the write of the frame it received. The flag
tells whether the write failed, upon which the writer closes the connection. -/
def write (pick : Priority) (fails : Bool) : ClientConn α × Bool :=
  match Channel.select (writerCases cl.writer) (fun prio => (cl.sendCh prio).canReceive) pick with
  | none => ({ cl with writer := nextStage cl.writer }, false)
  | some prio =>
    match (cl.sendCh prio).receive with
    | (none, _) => ({ cl with writer := .returned }, false)
    | (some frame, channel) =>
      let cl := cl.setCh prio channel
      if fails then ({ cl with writer := .returned }, true)
      else ({ cl with writer := .high, delivered := cl.delivered ++ [frame] }, false)

end ClientConn

inductive PublishStage where
  | offer
  | block
  | evict
  | retry
  deriving DecidableEq

inductive SelectCase where
  | send
  | evict
  | done
  deriving DecidableEq

inductive SelectResult (α : Type) where
  | panic
  | nilPointer
  | matched (cl : ClientConn α)
  | dropped (cl : ClientConn α)
  | goesOn (stage : PublishStage) (cl : ClientConn α)
  | waits

namespace ClientConn

variable {α : Type} (cl : ClientConn α)

def ready (prio : Priority) : SelectCase → Bool
  | .send => (cl.sendCh prio).canSend sendChSize
  | .evict => (cl.sendCh prio).canReceive
  | .done => cl.done

def sendOn (prio : Priority) (frame : α) : SelectResult α :=
  match (cl.sendCh prio).send frame with
  | none => .panic
  | some channel => .matched (cl.setCh prio channel)

def drop : SelectResult α := .dropped { cl with dropped := cl.dropped + 1 }

/-- An evicted frame goes back to the pool. From a closed and drained channel
`old` is nil. -/
def evict (prio : Priority) : SelectResult α :=
  match (cl.sendCh prio).receive with
  | (none, _) => .nilPointer
  | (some _, channel) => .goesOn .retry (cl.setCh prio channel)

def publishCases : PublishStage → List SelectCase
  | .evict => [.evict, .done]
  | _ => [.send, .done]

def publishDefault (prio : Priority) : PublishStage → SelectResult α
  | .offer => if prio = .high then .goesOn .block cl else .goesOn .evict cl
  | .retry => cl.drop
  | _ => .waits

def publishSelect (prio : Priority) (frame : α) (stage : PublishStage) (pick : SelectCase) :
    SelectResult α :=
  match Channel.select (publishCases stage) (cl.ready prio) pick with
  | some .send => cl.sendOn prio frame
  | some .done => cl.drop
  | some .evict => cl.evict prio
  | none => cl.publishDefault prio stage

theorem select_of_connected (connected : cl.done = false) {prio : Priority}
    (opened : (cl.sendCh prio).closed = false) (pick : SelectCase) :
    Channel.select [SelectCase.send, .done] (cl.ready prio) pick =
      if (cl.sendCh prio).buffer.length < sendChSize then some .send else none := by
  have notDone : cl.ready prio .done = false := connected
  have send : cl.ready prio .send = decide ((cl.sendCh prio).buffer.length < sendChSize) := by
    change (cl.sendCh prio).canSend sendChSize = _
    rw [Channel.canSend, opened, Bool.false_or]
  unfold Channel.select
  by_cases room : (cl.sendCh prio).buffer.length < sendChSize
  · rw [if_pos room]
    cases pick <;> simp [notDone, send, room]
  · rw [if_neg room]
    simp [notDone, send, room]

theorem sendOn_of_opened {prio : Priority} (opened : (cl.sendCh prio).closed = false)
    (frame : α) :
    cl.sendOn prio frame = .matched (cl.setCh prio
        { (cl.sendCh prio) with buffer := (cl.sendCh prio).buffer ++ [frame] }) := by
  unfold sendOn Channel.send
  rw [if_neg (by rw [opened]; exact Bool.false_ne_true)]

section

variable (connected : cl.done = false) {prio : Priority}
  (opened : (cl.sendCh prio).closed = false)

include connected opened

theorem publishSelect_of_room (room : (cl.sendCh prio).buffer.length < sendChSize) (frame : α)
    {stage : PublishStage} (offers : stage ≠ .evict) (pick : SelectCase) :
    cl.publishSelect prio frame stage pick = .matched (cl.setCh prio
        { (cl.sendCh prio) with buffer := (cl.sendCh prio).buffer ++ [frame] }) := by
  have cases : publishCases stage = [.send, .done] := by
    cases stage <;> first | rfl | exact absurd rfl offers
  unfold publishSelect
  rw [cases, cl.select_of_connected connected opened, if_pos room]
  exact cl.sendOn_of_opened opened frame

theorem publishSelect_of_full (full : ¬ (cl.sendCh prio).buffer.length < sendChSize) (frame : α)
    {stage : PublishStage} (offers : stage ≠ .evict) (pick : SelectCase) :
    cl.publishSelect prio frame stage pick = cl.publishDefault prio stage := by
  have cases : publishCases stage = [.send, .done] := by
    cases stage <;> first | rfl | exact absurd rfl offers
  unfold publishSelect
  rw [cases, cl.select_of_connected connected opened, if_neg full]

theorem publishSelect_of_empty (empty : (cl.sendCh prio).buffer = []) (frame : α)
    {stage : PublishStage} (evicts : stage = .evict) (pick : SelectCase) :
    cl.publishSelect prio frame stage pick = .waits := by
  have notDone : cl.ready prio .done = false := connected
  have nothing : cl.ready prio .evict = false := by
    change (cl.sendCh prio).canReceive = false
    rw [Channel.canReceive, opened, empty]
    rfl
  unfold publishSelect Channel.select
  rw [evicts]
  simp [publishCases, publishDefault, notDone, nothing]

omit opened in
theorem publishSelect_of_evict {old : α} {buffer : List α}
    (holds : (cl.sendCh prio).buffer = old :: buffer) (frame : α) {stage : PublishStage}
    (evicts : stage = .evict) (pick : SelectCase) :
    cl.publishSelect prio frame stage pick =
      .goesOn .retry (cl.setCh prio { (cl.sendCh prio) with buffer := buffer }) := by
  have notDone : cl.ready prio .done = false := connected
  have some : cl.ready prio .evict = true := by
    change (cl.sendCh prio).canReceive = true
    rw [Channel.canReceive, holds]
    simp
  have picked : Channel.select (publishCases stage) (cl.ready prio) pick = .some .evict := by
    rw [evicts]
    unfold Channel.select
    cases pick <;> simp [publishCases, notDone, some]
  unfold publishSelect
  rw [picked]
  unfold evict Channel.receive
  rw [holds]

end

end ClientConn

end GtnhPlatform.Router
