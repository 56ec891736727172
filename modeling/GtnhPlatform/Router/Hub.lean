import GtnhPlatform.Router.ClientConn
import Mathlib.Data.List.Sort

namespace GtnhPlatform.Router

open Bytes

/-! The goroutines of the router side by side. Each takes one select, or one section
under a lock, at a time. -/

structure HealthRow where
  name : Name
  transportAlive : Bool
  probeState : UInt8
  ageMs : Nat
  deriving DecidableEq

/-- `asked` tells apart the probes of one nonce. -/
structure HealthProbe where
  requester : Client
  services : Table Client Name
  responses : Table Client Nat := ∅
  asked : Nat

def encodeNonce (nonce : Nat) : List UInt8 := putBigEndian 8 nonce

def encodeHealthRow (row : HealthRow) : List UInt8 := putBigEndian 2 row.name.length ++ row.name ++
    [row.probeState, if row.transportAlive then 1 else 0] ++ putBigEndian 8 row.ageMs

def encodeHealthSnapshot (nonce : Nat) (rows : List HealthRow) : List UInt8 :=
  putBigEndian 8 nonce ++ putBigEndian 2 rows.length ++ rows.flatMap encodeHealthRow

structure Reply where
  requester : Client
  nonce : Nat
  rows : List HealthRow

structure PublishTask where
  topic : Name
  data : List UInt8
  todo : List Client
  stage : PublishStage := .offer

inductive HandlerStage where
  | absent
  | reading
  | publishing (task : PublishTask)
  | fanningOut (nonce asked : Nat) (todo : List Client)
  | echoing (payload : List UInt8)
  | ended

inductive CloseStep where
  | done
  | sendCh (prio : Priority)
  deriving DecidableEq

/-- `closing` is what a `Close` under way has still to close. `stray` marks a
client that stays among the subscribers though it has been closed: its writer
closed it, or it subscribed afterwards. -/
structure Conn where
  chans : ClientConn Content := {}
  closing : Option (List CloseStep) := none
  handler : HandlerStage := .absent
  stray : Bool := false

def Conn.beginClose (conn : Conn) : Conn :=
  match conn.closing with
  | none =>
    { conn with closing := some [.done, .sendCh .high, .sendCh .normal, .sendCh .low] }
  | some _ => conn

def Conn.closeStep (conn : Conn) : Conn :=
  match conn.closing with
  | some (.done :: rest) =>
    { conn with chans := { conn.chans with done := true }, closing := some rest }
  | some (.sendCh prio :: rest) =>
    { conn with
      chans := conn.chans.setCh prio (conn.chans.sendCh prio).close
      closing := some rest }
  | _ => conn

/-- The selects of the health frames, which wait for room or for the end of the
connection and count nothing. -/
def ClientConn.controlSelect {α : Type} (cl : ClientConn α) (frame : α) (pick : SelectCase) :
    SelectResult α :=
  match Channel.select [SelectCase.send, .done] (cl.ready .high) pick with
  | some .send => cl.sendOn .high frame
  | some _ => .dropped cl
  | none => .waits

structure Cleaning where
  closing : Option Client := none
  todo : List Client

/-- `services` are the registered clients that a request asks. -/
inductive RouterEvent where
  | requested (requester : Client) (nonce : Nat) (services : List (Client × Name))
  | replied (service : Client) (nonce : Nat)
  | answered (requester : Client) (nonce : Nat) (rows : List HealthRow)
  | sentOnClosed (cl : Client) (prio : Priority)
  deriving DecidableEq

/-- `readers` are the handlers that hold `mu` for reading. The clock counts
milliseconds. -/
structure Hub where
  router : RouterState := {}
  conns : Client → Conn := fun _ => {}
  readers : List Client := []
  cleaning : Option Cleaning := none
  healthProbes : Table Nat HealthProbe := ∅
  timers : List Nat := []
  replies : List Reply := []
  requests : Nat := 0
  clock : Nat := 0
  panicked : Bool := false

inductive HubInput where
  | connect (cl : Client)
  | frame (cl : Client) (frame : Content)
  | disconnect (cl : Client)
  | publishSelect (cl target : Client) (pick : SelectCase)
  | fanOut (cl target : Client) (pick : SelectCase)
  | echo (cl : Client) (pick : SelectCase)
  | timeout (nonce : Nat)
  | reply (index : Nat) (pick : SelectCase)
  | write (cl : Client) (pick : Priority) (fails : Bool)
  | closeStep (cl : Client)
  | cleanup (idle : Client → Bool)
  | cleanNext
  | elapse (ms : Nat)

def visit (target : Client) (todo : List Client) : List Client :=
  if target ∈ todo then target :: todo.erase target else todo

namespace Hub

variable (hub : Hub)

variable (cl : Client)

def setConn (conn : Conn) : Hub :=
  { hub with conns := Function.update hub.conns cl conn }

def setChans (chans : ClientConn Content) : Hub :=
  hub.setConn cl { hub.conns cl with chans := chans }

def setHandler (stage : HandlerStage) : Hub :=
  hub.setConn cl { hub.conns cl with handler := stage }

def beginClose (cl : Client) : Hub := hub.setConn cl (hub.conns cl).beginClose

def Unlocked : Prop := hub.readers = [] ∧ hub.cleaning.isNone

instance : Decidable hub.Unlocked := inferInstanceAs (Decidable (_ ∧ _))

def panic (prio : Priority) : Hub × List RouterEvent :=
  ({ hub with panicked := true }, [.sentOnClosed cl prio])

def publish (topic : Name) (data : List UInt8) : Hub :=
  match hub.router.targets topic with
  | [] => hub
  | todo =>
    { hub.setHandler cl (.publishing { topic, data, todo }) with readers := cl :: hub.readers }

/-- The client at hand is served; after the last one the lock is released. -/
def published (task : PublishTask) (rest : List Client) : Hub :=
  match rest with
  | [] =>
    { hub.setHandler cl .reading with readers := hub.readers.filter (· ≠ cl) }
  | rest => hub.setHandler cl (.publishing { task with todo := rest, stage := .offer })

/-- The order in which a publish goes on: the client it has begun with stays
first. -/
def PublishTask.visit (task : PublishTask) (target : Client) : List Client :=
  if task.stage = .offer then Router.visit target task.todo else task.todo

def publishSelect (cl target : Client) (pick : SelectCase) : Hub × List RouterEvent :=
  match (hub.conns cl).handler with
  | .publishing task =>
    match PublishTask.visit task target with
    | [] => (hub, [])
    | current :: rest =>
      let prio := classifyTopic task.topic
      let frame : Content := (msgPublish, publishPayload task.topic task.data)
      match (hub.conns current).chans.publishSelect prio frame task.stage pick with
      | .matched chans => ((hub.setChans current chans).published cl task rest, [])
      | .dropped chans => ((hub.setChans current chans).published cl task rest, [])
      | .goesOn stage chans =>
        ((hub.setChans current chans).setHandler cl
          (.publishing { task with todo := current :: rest, stage := stage }), [])
      | .waits => (hub, [])
      | .panic => hub.panic current prio
      | .nilPointer => ({ hub with panicked := true }, [])
  | _ => (hub, [])

def gateway : Name := bytesOf "gateway"

def HealthProbe.pairs (probe : HealthProbe) : List (Client × Name) :=
  probe.services.entries.map fun entry => (entry.1, entry.2)

def healthSnapshot (requester : Client) (nonce : Nat) : Hub × List RouterEvent :=
  let services := hub.router.connServices
  let probe : HealthProbe := { requester, services, asked := hub.requests }
  ({ hub.setHandler requester (.fanningOut nonce hub.requests services.keys) with
      healthProbes := AList.insert nonce probe hub.healthProbes
      requests := hub.requests + 1 }, [.requested requester nonce (HealthProbe.pairs probe)])

def handleHealthRequest (payload : List UInt8) : Hub × List RouterEvent :=
  if payload.length ≠ 8 then (hub, [])
  else
    match hub.router.connServices.lookup cl with
    | some name =>
      if name ≠ gateway then (hub.setHandler cl (.echoing payload), [])
      else hub.healthSnapshot cl (bigEndian payload)
    | none => hub.healthSnapshot cl (bigEndian payload)

/-- A response to a probe that is still open. -/
def respond (nonce : Nat) : Hub :=
  match hub.healthProbes.lookup nonce with
  | none => hub
  | some probe =>
    { hub with
      healthProbes := AList.insert nonce
          { probe with responses := AList.insert cl hub.clock probe.responses }
          hub.healthProbes }

def handleHealthResponse (payload : List UInt8) : Hub × List RouterEvent :=
  if payload.length ≠ 8 then (hub, [])
  else (hub.respond cl (bigEndian payload), [.replied cl (bigEndian payload)])

def respondSelf (requester : Client) (nonce asked : Nat) : Hub :=
  match hub.healthProbes.lookup nonce with
  | none => hub
  | some probe => if probe.asked = asked then hub.respond requester nonce else hub

/-- One turn of the loop over the services, or the start of the timer after it. -/
def fanOut (cl target : Client) (pick : SelectCase) : Hub × List RouterEvent :=
  match (hub.conns cl).handler with
  | .fanningOut nonce asked todo =>
    match visit target todo with
    | [] => ({ hub.setHandler cl .reading with timers := nonce :: hub.timers }, [])
    | current :: rest =>
      if current = cl then
        ((hub.respondSelf cl nonce asked).setHandler cl (.fanningOut nonce asked rest), [])
      else
        match (hub.conns current).chans.controlSelect (msgHealthRequest, encodeNonce nonce)
            pick with
        | .matched chans =>
          ((hub.setChans current chans).setHandler cl (.fanningOut nonce asked rest), [])
        | .dropped chans =>
          ((hub.setChans current chans).setHandler cl (.fanningOut nonce asked rest), [])
        | .panic => hub.panic current .high
        | _ => (hub, [])
  | _ => (hub, [])

def echo (pick : SelectCase) : Hub × List RouterEvent :=
  match (hub.conns cl).handler with
  | .echoing payload =>
    match (hub.conns cl).chans.controlSelect (msgHealthResponse, payload) pick with
    | .matched chans => ((hub.setChans cl chans).setHandler cl .reading, [])
    | .dropped chans => ((hub.setChans cl chans).setHandler cl .reading, [])
    | .panic => hub.panic cl .high
    | _ => (hub, [])
  | _ => (hub, [])

/-- One service of a probe: its status is brought up to date, and a row made of
it. -/
def probeRow (probe : HealthProbe) (health : Table Name HealthStatus) (cl : Client)
    (name : Name) : Table Name HealthStatus × HealthRow :=
  let known := (health.lookup name).getD {}
  let alive := !(hub.conns cl).chans.done
  let status : HealthStatus :=
    match probe.responses.lookup cl with
    | some responseAt =>
      { transportAlive := alive, probeState := 1, lastResponse := some responseAt }
    | none => { known with transportAlive := alive, probeState := 2 }
  let age := (status.lastResponse.map (hub.clock - ·)).getD 0
  (AList.insert name status health, ⟨name, status.transportAlive, status.probeState, age⟩)

def probeRows (probe : HealthProbe) :
    List (Client × Name) → Table Name HealthStatus → Table Name HealthStatus × List HealthRow
  | [], health => (health, [])
  | (cl, name) :: rest, health =>
    let (health, row) := hub.probeRow probe health cl name
    let (health, rows) := probeRows probe rest health
    (health, row :: rows)

def sortedServices (probe : HealthProbe) : List (Client × Name) :=
  (HealthProbe.pairs probe).mergeSort fun first second => decide (first.2 ≤ second.2)

def finishHealthProbe (nonce : Nat) : Hub :=
  match hub.healthProbes.lookup nonce with
  | none => hub
  | some probe =>
    let (health, rows) := hub.probeRows probe (sortedServices probe) hub.router.health
    { hub with
      router := { hub.router with health := health }
      healthProbes := hub.healthProbes.erase nonce
      replies := hub.replies ++ [⟨probe.requester, nonce, rows⟩] }

def timeout (nonce : Nat) : Hub :=
  if nonce ∈ hub.timers then
    { hub with timers := hub.timers.erase nonce }.finishHealthProbe nonce
  else hub

def reply (index : Nat) (pick : SelectCase) : Hub × List RouterEvent :=
  match hub.replies[index]? with
  | none => (hub, [])
  | some answer =>
    let frame : Content := (msgHealthResponse, encodeHealthSnapshot answer.nonce answer.rows)
    match (hub.conns answer.requester).chans.controlSelect frame pick with
    | .matched chans =>
      ({ hub.setChans answer.requester chans with replies := hub.replies.eraseIdx index },
        [.answered answer.requester answer.nonce answer.rows])
    | .dropped chans =>
      ({ hub.setChans answer.requester chans with replies := hub.replies.eraseIdx index }, [])
    | .panic => hub.panic answer.requester .high
    | _ => (hub, [])

/-- A client that subscribes after it has been closed stays subscribed. -/
def strays (conn : Conn) (frame : Content) : Bool :=
  conn.stray || conn.closing.isSome && (frame.1 = msgSubscribe || frame.1 = msgRegister)

/-- The switch of `handleConn`; a handler waits for the lock it needs. -/
def handleFrame (cl : Client) (frame : Content) : Hub × List RouterEvent :=
  if frame.1 = msgPublish then
    match readString frame.2 0 with
    | none => (hub, [])
    | some (topic, offset) =>
      if hub.cleaning.isNone then (hub.publish cl topic (frame.2.drop offset), [])
      else (hub, [])
  else if frame.1 = msgHealthRequest then
    if hub.cleaning.isNone then hub.handleHealthRequest cl frame.2 else (hub, [])
  else if frame.1 = msgHealthResponse then hub.handleHealthResponse cl frame.2
  else if hub.Unlocked then
    ({ hub.setConn cl { hub.conns cl with stray := strays (hub.conns cl) frame } with
        router := Router.handleFrame hub.router cl frame }, [])
  else (hub, [])

/-- The clean-up a handler defers. -/
def teardown : Hub :=
  { (hub.setHandler cl .ended).beginClose cl with router := hub.router.unsubscribeAll cl }

def write (cl : Client) (pick : Priority) (fails : Bool) : Hub :=
  let (chans, failed) := (hub.conns cl).chans.write pick fails
  let hub := hub.setChans cl chans
  if failed ∧ (hub.conns cl).closing = none then
    (hub.setConn cl { hub.conns cl with stray := true }).beginClose cl
  else hub

def cleanNext : Hub :=
  match hub.cleaning with
  | none => hub
  | some { closing := some cl, todo := todo } =>
    if (hub.conns cl).closing = some [] then { hub with cleaning := some { todo := todo } }
    else hub
  | some { closing := none, todo := cl :: todo } =>
    { hub.beginClose cl with
      router := hub.router.unsubscribeAll cl
      cleaning := some { closing := some cl, todo := todo } }
  | some { closing := none, todo := [] } => { hub with cleaning := none }

def Reads : Prop := (hub.conns cl).handler matches .reading

instance (cl : Client) : Decidable (hub.Reads cl) := inferInstanceAs (Decidable (_ = true))

def present : Bool := !((hub.conns cl).handler matches .absent)

def handle (input : HubInput) : Hub × List RouterEvent :=
  if hub.panicked then (hub, [])
  else
    match input with
    | .connect cl => (if hub.present cl then hub else hub.setHandler cl .reading, [])
    | .frame cl frame => if hub.Reads cl then hub.handleFrame cl frame else (hub, [])
    | .disconnect cl => (if hub.Reads cl ∧ hub.Unlocked then hub.teardown cl else hub, [])
    | .publishSelect cl target pick => hub.publishSelect cl target pick
    | .fanOut cl target pick => hub.fanOut cl target pick
    | .echo cl pick => hub.echo cl pick
    | .timeout nonce => (hub.timeout nonce, [])
    | .reply index pick => hub.reply index pick
    | .write cl pick fails => (if hub.present cl then hub.write cl pick fails else hub, [])
    | .closeStep cl => (hub.setConn cl (hub.conns cl).closeStep, [])
    | .cleanup idle =>
      (if hub.Unlocked then
        { hub with cleaning := some { todo := hub.router.idleClients idle } } else hub, [])
    | .cleanNext => (hub.cleanNext, [])
    | .elapse ms => ({ hub with clock := hub.clock + ms }, [])

def machine : Machine Hub HubInput RouterEvent := ⟨handle⟩

end Hub

end GtnhPlatform.Router
