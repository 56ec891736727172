import GtnhPlatform.Router.Closing
import Mathlib.Data.List.Perm.Basic

namespace GtnhPlatform.Router

open Bytes List ClientConn Hub

namespace Hub

def asksFor (requester : Client) (nonce : Nat) : RouterEvent → Bool
  | .requested cl asked _ => cl = requester ∧ asked = nonce
  | _ => false

def answersTo (requester : Client) (nonce : Nat) : RouterEvent → Bool
  | .answered cl asked _ => cl = requester ∧ asked = nonce
  | _ => false

def requestCount (requester : Client) (nonce : Nat) (events : List RouterEvent) : Nat :=
  events.countP (asksFor requester nonce)

def answerCount (requester : Client) (nonce : Nat) (events : List RouterEvent) : Nat :=
  events.countP (answersTo requester nonce)

def Reports (requester : Client) (nonce : Nat) (services : List (Client × Name))
    (since : List RouterEvent) (rows : List HealthRow) : Prop :=
  ∃ sorted : List (Client × Name), sorted.Perm services ∧
    List.Forall₂ (fun service row => row.name = service.2 ∧
      (row.probeState = 1 → service.1 = requester ∨ .replied service.1 nonce ∈ since))
      sorted rows

def Backed (events : List RouterEvent) (requester : Client) (nonce : Nat)
    (rows : List HealthRow) : Prop :=
  ∃ services earlier since, events = earlier ++ .requested requester nonce services :: since ∧
    Reports requester nonce services since rows

def Underway (hub : Hub) (requester : Client) (nonce : Nat) : Prop :=
  (∃ probe, hub.healthProbes.lookup nonce = some probe ∧ probe.requester = requester ∧
    (nonce ∈ hub.timers ∨
      ∃ asked todo, (hub.conns requester).handler = .fanningOut nonce asked todo)) ∨
    ∃ reply ∈ hub.replies, reply.requester = requester ∧ reply.nonce = nonce

structure Snapshots (hub : Hub) (cl : Client) (frame : Content) : Prop where
  type : frame.1 = msgHealthRequest
  size : frame.2.length = 8
  asks : ∀ name, hub.router.connServices.lookup cl = some name → name = gateway

def Separate (hub : Hub) : HubInput → Prop
  | .frame cl frame => hub.Snapshots cl frame → hub.healthProbes.lookup (bigEndian frame.2) = none
  | _ => True

def pending (hub : Hub) (requester : Client) (nonce : Nat) : Nat :=
  (if (hub.healthProbes.lookup nonce).any (·.requester = requester) then 1 else 0) +
    hub.replies.countP fun reply => reply.requester = requester ∧ reply.nonce = nonce

def Heard (probe : HealthProbe) (nonce : Nat) (events : List RouterEvent) : Prop := ∃ earlier since,
    events = earlier ++ .requested probe.requester nonce (HealthProbe.pairs probe) :: since ∧
      ∀ cl, (probe.responses.lookup cl).isSome → cl = probe.requester ∨ .replied cl nonce ∈ since

structure Probing (hub : Hub) (events : List RouterEvent) : Prop where
  tally : ∀ cl nonce, (hub.conns cl).chans.done = false →
    requestCount cl nonce events = answerCount cl nonce events + hub.pending cl nonce
  heard : ∀ nonce probe, hub.healthProbes.lookup nonce = some probe → Heard probe nonce events
  owned : ∀ nonce probe, hub.healthProbes.lookup nonce = some probe →
    nonce ∈ hub.timers ∨ ∃ asked todo,
      (hub.conns probe.requester).handler = .fanningOut nonce asked todo
  own : ∀ cl nonce asked todo probe, (hub.conns cl).handler = .fanningOut nonce asked todo →
    hub.healthProbes.lookup nonce = some probe → probe.asked = asked → probe.requester = cl
  fresh : ∀ cl nonce asked todo, (hub.conns cl).handler = .fanningOut nonce asked todo →
    asked < hub.requests
  replies : ∀ reply ∈ hub.replies, Backed events reply.requester reply.nonce reply.rows
  answers : ∀ cl nonce rows before after, events = before ++ .answered cl nonce rows :: after →
    Backed before cl nonce rows

variable {hub : Hub} {events : List RouterEvent} {nonce : Nat} {rows : List HealthRow}
    {requester : Client}

theorem Reports.mono (reports : Reports requester nonce services since rows)
    (more : List RouterEvent) : Reports requester nonce services (since ++ more) rows := by
  obtain ⟨sorted, perm, each⟩ := reports
  refine ⟨sorted, perm, each.imp ?_⟩
  rintro service row ⟨named, responds⟩
  exact ⟨named, fun one => (responds one).imp_right (mem_append_left _)⟩

theorem Backed.mono (backed : Backed events requester nonce rows) (more : List RouterEvent) :
    Backed (events ++ more) requester nonce rows := by
  obtain ⟨services, earlier, since, rfl, reports⟩ := backed
  exact ⟨services, earlier, since ++ more, by simp, reports.mono more⟩

variable {probe : HealthProbe}

theorem Heard.mono (heard : Heard probe nonce events) (more : List RouterEvent) :
    Heard probe nonce (events ++ more) := by
  obtain ⟨earlier, since, rfl, replied⟩ := heard
  refine ⟨earlier, since ++ more, by simp, ?_⟩
  intro cl some
  exact (replied cl some).imp_right (mem_append_left _)

variable {more : List RouterEvent}

theorem answers_append (answers : ∀ cl nonce rows before after,
      events = before ++ .answered cl nonce rows :: after → Backed before cl nonce rows)
    (new : ∀ cl nonce rows before after, more = before ++ .answered cl nonce rows :: after →
      Backed (events ++ before) cl nonce rows) (cl : Client) (nonce : Nat)
    (rows : List HealthRow) (before after : List RouterEvent)
    (split : events ++ more = before ++ .answered cl nonce rows :: after) :
    Backed before cl nonce rows := by
  rw [append_eq_append_iff] at split
  rcases split with ⟨gap, rfl, is⟩ | ⟨gap, is, rest⟩
  · exact new cl nonce rows gap after is
  cases gap with
  | nil =>
    rw [append_nil] at is
    rw [← is, ← append_nil events]
    exact new cl nonce rows [] after rest.symm
  | cons first gap =>
    obtain ⟨rfl, -⟩ := cons.inj rest
    exact answers cl nonce rows before gap is

structure Calm (hub next : Hub) : Prop where
  probes : next.healthProbes = hub.healthProbes
  timers : next.timers = hub.timers
  replies : next.replies = hub.replies
  done : ∀ cl, (next.conns cl).chans.done = false → (hub.conns cl).chans.done = false
  handler : ∀ cl nonce asked todo, (next.conns cl).handler = .fanningOut nonce asked todo ↔
    (hub.conns cl).handler = .fanningOut nonce asked todo
  requests : next.requests = hub.requests

variable {next : Hub}

theorem Calm.of_conns (conns : next.conns = hub.conns)
    (probes : next.healthProbes = hub.healthProbes) (timers : next.timers = hub.timers)
    (replies : next.replies = hub.replies) (requests : next.requests = hub.requests) :
    Calm hub next where
  probes := probes
  timers := timers
  replies := replies
  done := by
    rw [conns]
    exact fun _ connected => connected
  handler := by
    rw [conns]
    exact fun _ _ _ _ => Iff.rfl
  requests := requests

theorem Calm.refl (hub : Hub) : Calm hub hub := Calm.of_conns rfl rfl rfl rfl rfl

theorem Calm.trans (before : Calm hub second) (after : Calm second third) : Calm hub third where
  probes := after.probes.trans before.probes
  timers := after.timers.trans before.timers
  replies := after.replies.trans before.replies
  done := fun cl connected => before.done cl (after.done cl connected)
  handler := fun cl nonce asked todo =>
    (after.handler cl nonce asked todo).trans (before.handler cl nonce asked todo)
  requests := after.requests.trans before.requests

theorem Calm.setConn {cl : Client} {conn : Conn}
    (done : conn.chans.done = false → (hub.conns cl).chans.done = false)
    (handler : ∀ nonce asked todo, conn.handler = .fanningOut nonce asked todo ↔
      (hub.conns cl).handler = .fanningOut nonce asked todo) : Calm hub (hub.setConn cl conn) where
  probes := rfl
  timers := rfl
  replies := rfl
  done := by
    intro other connected
    rw [conns_setConn] at connected
    split at connected
    · next same =>
      rw [same]
      exact done connected
    · exact connected
  handler := by
    intro other nonce asked todo
    rw [conns_setConn]
    split
    · next same =>
      rw [same]
      exact handler nonce asked todo
    · exact Iff.rfl
  requests := rfl

variable {chans : ClientConn Content}

theorem Calm.setChans {cl : Client} (agrees : (hub.conns cl).chans.Agrees chans) :
    Calm hub (hub.setChans cl chans) :=
  Calm.setConn (fun connected => agrees.done.symm.trans connected) fun _ _ _ => Iff.rfl

theorem Calm.setHandler {cl : Client}
    (quiet : ∀ nonce asked todo, (hub.conns cl).handler ≠ .fanningOut nonce asked todo)
    (later : ∀ nonce asked todo, stage ≠ .fanningOut nonce asked todo) :
    Calm hub (hub.setHandler cl stage) :=
  Calm.setConn id fun nonce asked todo =>
    iff_of_false (later nonce asked todo) (quiet nonce asked todo)

/-- Events that are neither requests nor answers. -/
def Idle (more : List RouterEvent) : Prop :=
  ∀ event ∈ more, ∀ cl nonce, asksFor cl nonce event = false ∧ answersTo cl nonce event = false

theorem Idle.counts (idle : Idle more) (cl : Client) (nonce : Nat) :
    requestCount cl nonce (events ++ more) = requestCount cl nonce events ∧
      answerCount cl nonce (events ++ more) = answerCount cl nonce events := by
  have noRequest : more.countP (asksFor cl nonce) = 0 := by
    rw [countP_eq_zero]
    intro event listed
    rw [(idle event listed cl nonce).1]
    exact Bool.false_ne_true
  have noAnswer : more.countP (answersTo cl nonce) = 0 := by
    rw [countP_eq_zero]
    intro event listed
    rw [(idle event listed cl nonce).2]
    exact Bool.false_ne_true
  unfold requestCount answerCount
  rw [countP_append, countP_append, noRequest, noAnswer]
  exact ⟨rfl, rfl⟩

theorem Idle.answers (idle : Idle more) {cl : Client} {before after : List RouterEvent} :
    more ≠ before ++ .answered cl nonce rows :: after := by
  rintro rfl
  have none := (idle _ (mem_append_right _ mem_cons_self) cl nonce).2
  simp [answersTo] at none

theorem idle_nil : Idle [] := nofun

theorem Probing.update (probing : hub.Probing events) (next : Hub)
    (probes : next.healthProbes = hub.healthProbes) (replies : next.replies = hub.replies)
    (requests : next.requests = hub.requests)
    (done : ∀ cl, (next.conns cl).chans.done = false → (hub.conns cl).chans.done = false)
    (timers : hub.timers ⊆ next.timers)
    (fans : ∀ cl nonce asked todo, (next.conns cl).handler = .fanningOut nonce asked todo →
      ∃ before, (hub.conns cl).handler = .fanningOut nonce asked before)
    (stays : ∀ cl nonce asked todo, (hub.conns cl).handler = .fanningOut nonce asked todo →
      nonce ∈ next.timers ∨ ∃ rest, (next.conns cl).handler = .fanningOut nonce asked rest) (idle :
    Idle more) : next.Probing (events ++ more) where
  tally := by
    intro cl nonce connected
    rw [(idle.counts cl nonce).1, (idle.counts cl nonce).2,
      probing.tally cl nonce (done cl connected), pending, pending, probes, replies]
  heard := by
    intro nonce probe found
    rw [probes] at found
    exact (probing.heard nonce probe found).mono more
  owned := by
    intro nonce probe found
    rw [probes] at found
    cases probing.owned nonce probe found with
    | inl timed => exact Or.inl (timers timed)
    | inr fansOut =>
      obtain ⟨asked, todo, fansOut⟩ := fansOut
      apply (stays _ nonce asked todo fansOut).imp_right
      rintro ⟨rest, goesOn⟩
      exact ⟨asked, rest, goesOn⟩
  own := by
    intro cl nonce asked todo probe fansOut found
    obtain ⟨before, fansOut⟩ := fans cl nonce asked todo fansOut
    rw [probes] at found
    exact probing.own cl nonce asked before probe fansOut found
  fresh := by
    intro cl nonce asked todo fansOut
    obtain ⟨before, fansOut⟩ := fans cl nonce asked todo fansOut
    rw [requests]
    exact probing.fresh cl nonce asked before fansOut
  replies := by
    intro reply listed
    rw [replies] at listed
    exact (probing.replies reply listed).mono more
  answers := answers_append probing.answers fun _ _ _ _ _ split => absurd split idle.answers

theorem Probing.calm (probing : hub.Probing events) (calm : Calm hub next) (idle : Idle more) :
    next.Probing (events ++ more) := by
  refine probing.update next calm.probes calm.replies calm.requests calm.done ?_ ?_ ?_ idle
  · rw [calm.timers]
    exact fun _ listed => listed
  · intro cl nonce asked todo fansOut
    exact ⟨todo, (calm.handler cl nonce asked todo).mp fansOut⟩
  · intro cl nonce asked todo fansOut
    exact Or.inr ⟨todo, (calm.handler cl nonce asked todo).mpr fansOut⟩

variable (cl : Client)

theorem idle_panic (prio : Priority) : Idle (hub.panic cl prio).2 := by
  intro event listed other nonce
  rw [mem_singleton.mp listed]
  exact ⟨rfl, rfl⟩

/-- What a step does that has nothing to do with probes. -/
structure Apart (hub : Hub) (result : Hub × List RouterEvent) : Prop where
  calm : Calm hub result.1
  idle : Idle result.2

theorem apart_panic (prio : Priority) : Apart hub (hub.panic cl prio) :=
  ⟨Calm.of_conns rfl rfl rfl rfl rfl, idle_panic cl prio⟩

theorem Calm.apart (calm : Calm hub next) : Apart hub (next, []) := ⟨calm, idle_nil⟩

theorem calm_published {cl : Client}
    (quiet : ∀ nonce asked todo, (hub.conns cl).handler ≠ .fanningOut nonce asked todo) :
    Calm hub (hub.published cl task rest) := by
  unfold published
  split
  · have reads : Calm hub (hub.setHandler cl .reading) := Calm.setHandler quiet nofun
    exact ⟨rfl, rfl, rfl, reads.done, reads.handler, rfl⟩
  · exact Calm.setHandler quiet nofun

theorem handler_setChans (chans : ClientConn Content) (other : Client) :
    ((hub.setChans cl chans).conns other).handler = (hub.conns other).handler := by
  unfold setChans
  rw [conns_setConn]
  split
  · next same => rw [same]
  · rfl

theorem apart_publishSelect (cl target : Client) (pick : SelectCase) :
    Apart hub (hub.publishSelect cl target pick) := by
  unfold publishSelect
  split
  case h_2 => exact (Calm.refl hub).apart
  case h_1 task publishes =>
    have quiet (chans : ClientConn Content) (current : Client) (nonce asked : Nat)
        (todo : List Client) :
        ((hub.setChans current chans).conns cl).handler ≠ .fanningOut nonce asked todo := by
      rw [handler_setChans, publishes]
      nofun
    split
    case h_1 => exact (Calm.refl hub).apart
    case h_2 current rest _ =>
      dsimp only
      split
      case h_1 chans result =>
        have sent : Calm hub (hub.setChans current chans) :=
          Calm.setChans (agrees_publishSelect (by rw [result]; rfl))
        exact (sent.trans (calm_published (quiet chans current))).apart
      case h_2 chans result =>
        have dropped : Calm hub (hub.setChans current chans) :=
          Calm.setChans (agrees_publishSelect (by rw [result]; rfl))
        exact (dropped.trans (calm_published (quiet chans current))).apart
      case h_3 stage chans result =>
        have changed : Calm hub (hub.setChans current chans) :=
          Calm.setChans (agrees_publishSelect (by rw [result]; rfl))
        exact (changed.trans (Calm.setHandler (quiet chans current) (by simp))).apart
      case h_4 => exact (Calm.refl hub).apart
      case h_5 => exact apart_panic _ _
      case h_6 => exact ⟨Calm.of_conns rfl rfl rfl rfl rfl, idle_nil⟩

theorem apart_echo (pick : SelectCase) : Apart hub (hub.echo cl pick) := by
  unfold echo
  split
  case h_2 => exact (Calm.refl hub).apart
  case h_1 payload echoes =>
    have quiet (chans : ClientConn Content) (nonce asked : Nat) (todo : List Client) :
        ((hub.setChans cl chans).conns cl).handler ≠ .fanningOut nonce asked todo := by
      rw [handler_setChans, echoes]
      nofun
    split
    case h_1 chans result =>
      have sent : Calm hub (hub.setChans cl chans) :=
        Calm.setChans (agrees_controlSelect (by rw [result]; rfl))
      exact (sent.trans (Calm.setHandler (quiet chans) (by simp))).apart
    case h_2 chans result =>
      have dropped : Calm hub (hub.setChans cl chans) :=
        Calm.setChans (agrees_controlSelect (by rw [result]; rfl))
      exact (dropped.trans (Calm.setHandler (quiet chans) (by simp))).apart
    case h_3 => exact apart_panic _ _
    case h_4 => exact (Calm.refl hub).apart

theorem done_beginClose (conn : Conn) : conn.beginClose.chans.done = conn.chans.done := by
  rw [chans_beginClose]

theorem calm_beginClose : Calm hub (hub.beginClose cl) :=
  Calm.setConn (fun connected => (done_beginClose _).symm.trans connected)
    fun _ _ _ => by rw [handler_beginClose]

theorem calm_write (pick : Priority) (fails : Bool) : Calm hub (hub.write cl pick fails) := by
  have written : Calm hub (hub.setChans cl ((hub.conns cl).chans.write pick fails).1) :=
    Calm.setChans (agrees_write _ pick fails)
  unfold write
  dsimp only
  split
  case isFalse => exact written
  case isTrue =>
    refine (written.trans ?_).trans (calm_beginClose cl)
    exact Calm.setConn id fun _ _ _ => Iff.rfl

theorem calm_closeStep : Calm hub (hub.setConn cl (hub.conns cl).closeStep) := by
  refine Calm.setConn ?_ ?_
  · unfold Conn.closeStep
    split
    · intro connected
      cases connected
    · exact id
    · exact id
  · intro nonce asked todo
    rw [(closeStep_spec _).2.2.1]

theorem calm_cleanNext : Calm hub hub.cleanNext := by
  unfold cleanNext
  split
  · exact Calm.refl hub
  · split
    · exact Calm.of_conns rfl rfl rfl rfl rfl
    · exact Calm.refl hub
  · next cl _ _ =>
    have begun : Calm hub (hub.beginClose cl) := calm_beginClose cl
    exact ⟨rfl, rfl, rfl, begun.done, begun.handler, rfl⟩
  · exact Calm.of_conns rfl rfl rfl rfl rfl

theorem reads_iff : hub.Reads cl ↔ (hub.conns cl).handler = .reading := by
  unfold Hub.Reads
  cases (hub.conns cl).handler <;> simp

theorem quiet_of_reads {cl : Client} (reads : hub.Reads cl) (nonce asked : Nat)
    (todo : List Client) : (hub.conns cl).handler ≠ .fanningOut nonce asked todo := by
  rw [(reads_iff cl).mp reads]
  nofun

theorem calm_teardown {cl : Client} (reads : hub.Reads cl) : Calm hub (hub.teardown cl) := by
  have ended : Calm hub (hub.setHandler cl .ended) := Calm.setHandler (quiet_of_reads reads) nofun
  have begun : Calm hub ((hub.setHandler cl .ended).beginClose cl) :=
    ended.trans (calm_beginClose cl)
  exact ⟨rfl, rfl, rfl, begun.done, begun.handler, rfl⟩

theorem calm_publish {cl : Client} (reads : hub.Reads cl) (topic : Name) (data : List UInt8) :
    Calm hub (hub.publish cl topic data) := by
  unfold publish
  split
  · exact Calm.refl hub
  have begun : Calm hub (hub.setHandler cl
      (.publishing { topic, data, todo := hub.router.targets topic })) :=
    Calm.setHandler (quiet_of_reads reads) (by simp)
  exact ⟨rfl, rfl, rfl, begun.done, begun.handler, rfl⟩

theorem conns_setHandler (stage : HandlerStage) (other : Client) :
    ((hub.setHandler cl stage).conns other).handler =
      if other = cl then stage else (hub.conns other).handler := by
  unfold setHandler
  rw [conns_setConn]
  split <;> rfl

theorem done_setHandler (stage : HandlerStage) (other : Client) :
    ((hub.setHandler cl stage).conns other).chans.done = (hub.conns other).chans.done := by
  unfold setHandler
  rw [conns_setConn]
  split
  · next same => rw [same]
  · rfl

variable {todo : List Client}

theorem Probing.fansOn (probing : hub.Probing events) {cl : Client} {nonce asked : Nat}
    (fansOut : (hub.conns cl).handler = .fanningOut nonce asked todo) (rest : List Client) :
    (hub.setHandler cl (.fanningOut nonce asked rest)).Probing events := by
  rw [← append_nil events]
  refine probing.update (hub.setHandler cl _) rfl rfl rfl ?_ (fun _ listed => listed) ?_ ?_
    idle_nil
  · intro other connected
    rw [done_setHandler] at connected
    exact connected
  · intro other found askedThen left stage
    rw [conns_setHandler] at stage
    split at stage
    · next same =>
      cases stage
      exact ⟨todo, same ▸ fansOut⟩
    · exact ⟨left, stage⟩
  · intro other found askedThen left stage
    right
    rw [conns_setHandler]
    split
    · next same =>
      rw [same, fansOut] at stage
      cases stage
      exact ⟨rest, rfl⟩
    · exact ⟨left, stage⟩

theorem Probing.timed (probing : hub.Probing events) {cl : Client} {nonce asked : Nat}
    (fansOut : (hub.conns cl).handler = .fanningOut nonce asked todo) :
    { hub.setHandler cl .reading with timers := nonce :: hub.timers }.Probing events := by
  rw [← append_nil events]
  refine probing.update { hub.setHandler cl .reading with timers := nonce :: hub.timers }
    rfl rfl rfl ?_ (fun _ listed => mem_cons_of_mem _ listed) ?_ ?_ idle_nil
  · intro other connected
    change ((hub.setHandler cl .reading).conns other).chans.done = false at connected
    rw [done_setHandler] at connected
    exact connected
  · intro other found askedThen left stage
    change ((hub.setHandler cl .reading).conns other).handler = _ at stage
    rw [conns_setHandler] at stage
    split at stage
    · cases stage
    · exact ⟨left, stage⟩
  · intro other found askedThen left stage
    change found ∈ nonce :: hub.timers ∨ ∃ rest,
      ((hub.setHandler cl .reading).conns other).handler = _
    rw [conns_setHandler]
    by_cases same : other = cl
    · rw [same, fansOut] at stage
      obtain ⟨rfl, -, -⟩ := HandlerStage.fanningOut.inj stage
      exact Or.inl mem_cons_self
    · rw [if_neg same]
      exact Or.inr ⟨left, stage⟩

theorem respond_eq {cl : Client} (found : hub.healthProbes.lookup nonce = some probe) :
    hub.respond cl nonce =
      { hub with
        healthProbes := AList.insert nonce
          { probe with responses := AList.insert cl hub.clock probe.responses }
          hub.healthProbes } := by
  unfold respond
  rw [found]

theorem Probing.respond (probing : hub.Probing events) {cl : Client} (idle : Idle more)
    (justified : ∀ probe, hub.healthProbes.lookup nonce = some probe →
      cl = probe.requester ∨ .replied cl nonce ∈ more) :
    (hub.respond cl nonce).Probing (events ++ more) := by
  cases found : hub.healthProbes.lookup nonce with
  | none =>
    have same : hub.respond cl nonce = hub := by
      unfold Hub.respond
      rw [found]
    rw [same]
    exact probing.calm (Calm.refl hub) idle
  | some probe =>
    rw [respond_eq found]
    have before (other : Nat) (later : HealthProbe)
        (lookup : AList.lookup other (AList.insert nonce
          { probe with responses := AList.insert cl hub.clock probe.responses }
          hub.healthProbes) = some later) :
        ∃ earlier, hub.healthProbes.lookup other = some earlier ∧
          later.requester = earlier.requester ∧ later.services = earlier.services ∧
          later.asked = earlier.asked ∧ ∀ service, (later.responses.lookup service).isSome →
            (earlier.responses.lookup service).isSome ∨ service = cl ∧ other = nonce := by
      rw [Table.lookup_insert_eq] at lookup
      split at lookup
      · next same =>
        cases lookup
        refine ⟨probe, by rw [same, found], rfl, rfl, rfl, ?_⟩
        intro service responded
        rw [Table.lookup_insert_eq] at responded
        split at responded
        · next itself => exact Or.inr ⟨itself, same⟩
        · exact Or.inl responded
      · exact ⟨later, lookup, rfl, rfl, rfl, fun _ responded => Or.inl responded⟩
    exact
      { tally := by
          intro other asked connected
          have still : (AList.lookup asked (AList.insert nonce
              { probe with responses := AList.insert cl hub.clock probe.responses }
              hub.healthProbes)).any (·.requester = other) =
                (hub.healthProbes.lookup asked).any (·.requester = other) := by
            rw [Table.lookup_insert_eq]
            split
            · next same =>
              rw [same, found]
              rfl
            · rfl
          rw [(idle.counts other asked).1, (idle.counts other asked).2,
            probing.tally other asked connected, pending, pending, still]
        heard := by
          intro other later lookup
          obtain ⟨earlier, stored, requester, services, -, responses⟩ := before other later lookup
          obtain ⟨past, since, rfl, heard⟩ := probing.heard other earlier stored
          refine ⟨past, since ++ more, ?_, ?_⟩
          · have pairs : HealthProbe.pairs later = HealthProbe.pairs earlier := by
              unfold HealthProbe.pairs
              rw [services]
            rw [requester, pairs]
            simp
          · intro service responded
            rw [requester]
            rcases responses service responded with known | ⟨rfl, rfl⟩
            · exact (heard service known).imp_right (mem_append_left _)
            · exact (justified earlier stored).imp_right (mem_append_right _)
        owned := by
          intro other later lookup
          obtain ⟨earlier, stored, requester, -, -, -⟩ := before other later lookup
          rw [requester]
          exact probing.owned other earlier stored
        own := by
          intro other asked askedThen todo later fansOut lookup same
          obtain ⟨earlier, stored, requester, -, asks, -⟩ := before asked later lookup
          rw [requester]
          exact probing.own other asked askedThen todo earlier fansOut stored (asks ▸ same)
        fresh := probing.fresh
        replies := fun reply listed => (probing.replies reply listed).mono more
        answers := answers_append probing.answers fun _ _ _ _ _ split =>
          absurd split idle.answers }

theorem requestCount_concat (nonce : Nat) (event : RouterEvent) :
    requestCount cl nonce (events ++ [event]) =
      requestCount cl nonce events + if asksFor cl nonce event = true then 1 else 0 := by
  unfold requestCount
  rw [countP_append, countP_singleton]

theorem answerCount_concat (nonce : Nat) (event : RouterEvent) :
    answerCount cl nonce (events ++ [event]) =
      answerCount cl nonce events + if answersTo cl nonce event = true then 1 else 0 := by
  unfold answerCount
  rw [countP_append, countP_singleton]

theorem Probing.healthSnapshot (probing : hub.Probing events) {cl : Client} (reads : hub.Reads cl)
    (free : hub.healthProbes.lookup nonce = none) :
    (hub.healthSnapshot cl nonce).1.Probing (events ++ (hub.healthSnapshot cl nonce).2) := by
  let probe : HealthProbe :=
    { requester := cl, services := hub.router.connServices, asked := hub.requests }
  let stage : HandlerStage := .fanningOut nonce hub.requests hub.router.connServices.keys
  have lookup (other : Nat) :
      AList.lookup other (hub.healthSnapshot cl nonce).1.healthProbes =
        if other = nonce then some probe else hub.healthProbes.lookup other :=
    Table.lookup_insert_eq _ _ _ _
  have handler (other : Client) : ((hub.healthSnapshot cl nonce).1.conns other).handler =
      if other = cl then stage else (hub.conns other).handler := conns_setHandler _ _ _
  exact
    { tally := by
        intro other asked connected
        change ((hub.setHandler cl stage).conns other).chans.done = false at connected
        rw [done_setHandler] at connected
        change requestCount other asked (events ++ [_]) =
          answerCount other asked (events ++ [_]) + _
        rw [requestCount_concat, answerCount_concat, probing.tally other asked connected, pending,
          pending, lookup]
        change _ = _ + 0 + (_ + countP _ hub.replies)
        by_cases same : asked = nonce
        · rw [same, free, if_pos rfl]
          by_cases own : cl = other
          · simp [asksFor, probe, own]
            omega
          · simp [asksFor, probe, own]
        · have distinct : ¬ nonce = asked := fun equal => same equal.symm
          simp [asksFor, same, distinct]
      heard := by
        intro asked found stored
        rw [lookup] at stored
        split at stored
        · next same =>
          cases stored
          refine ⟨events, [], by rw [same]; rfl, ?_⟩
          intro service responded
          change (AList.lookup service (∅ : Table Client Nat)).isSome = true at responded
          rw [AList.lookup_empty] at responded
          cases responded
        · exact (probing.heard asked found stored).mono _
      owned := by
        intro asked found stored
        rw [lookup] at stored
        split at stored
        · next same =>
          cases stored
          refine Or.inr ⟨hub.requests, hub.router.connServices.keys, ?_⟩
          rw [handler, if_pos rfl, same]
        · rcases probing.owned asked found stored with timed | ⟨askedThen, todo, fansOut⟩
          · exact Or.inl timed
          refine Or.inr ⟨askedThen, todo, ?_⟩
          rw [handler, if_neg]
          · exact fansOut
          · intro itself
            rw [itself] at fansOut
            exact quiet_of_reads reads _ _ _ fansOut
      own := by
        intro other asked askedThen todo found fansOut stored same
        rw [lookup] at stored
        rw [handler] at fansOut
        split at stored
        · cases stored
          split at fansOut
          · next itself => exact itself.symm
          · have older := probing.fresh other asked askedThen todo fansOut
            exact absurd same older.ne'
        · next distinct =>
          split at fansOut
          · exact absurd (HandlerStage.fanningOut.inj fansOut).1.symm distinct
          · exact probing.own other asked askedThen todo found fansOut stored same
      fresh := by
        intro other asked askedThen todo fansOut
        change askedThen < hub.requests + 1
        rw [handler] at fansOut
        split at fansOut
        · rw [← (HandlerStage.fanningOut.inj fansOut).2.1]
          exact Nat.lt_succ_self _
        · exact Nat.lt_succ_of_lt (probing.fresh other asked askedThen todo fansOut)
      replies := fun reply listed => (probing.replies reply listed).mono _
      answers := by
        refine answers_append probing.answers ?_
        intro other asked rows before after split
        exfalso
        cases before with
        | nil => cases (cons.inj split).1
        | cons first before =>
          cases before <;> cases (cons.inj split).2 }

theorem probeRows_spec (probe : HealthProbe) (services : List (Client × Name))
    (health : Table Name HealthStatus) :
    List.Forall₂ (fun service row => row.name = service.2 ∧
      (row.probeState = 1 → (probe.responses.lookup service.1).isSome))
      services (hub.probeRows probe services health).2 := by
  induction services generalizing health with
  | nil => exact List.Forall₂.nil
  | cons service rest ih =>
    obtain ⟨cl, name⟩ := service
    refine List.Forall₂.cons ⟨rfl, ?_⟩ (ih _)
    intro responds
    change (hub.probeRow probe health cl name).2.probeState = 1 at responds
    unfold probeRow at responds
    cases response : probe.responses.lookup cl with
    | some responseAt => rfl
    | none =>
      rw [response] at responds
      cases responds

theorem Heard.backed (heard : Heard probe nonce events) (health : Table Name HealthStatus) :
    Backed events probe.requester nonce (hub.probeRows probe (sortedServices probe) health).2 := by
  obtain ⟨earlier, since, rfl, responded⟩ := heard
  refine ⟨_, earlier, since, rfl, sortedServices probe, mergeSort_perm _ _, ?_⟩
  refine (hub.probeRows_spec probe (sortedServices probe) health).imp ?_
  rintro service row ⟨named, responds⟩
  exact ⟨named, fun one => responded service.1 (responds one)⟩

theorem Probing.timeout (probing : hub.Probing events) (nonce : Nat) :
    (hub.timeout nonce).Probing events := by
  unfold Hub.timeout
  split
  case isFalse => exact probing
  case isTrue =>
    have others (other : Nat) (distinct : other ≠ nonce) (timed : other ∈ hub.timers) :
        other ∈ hub.timers.erase nonce := (mem_erase_of_ne distinct).mpr timed
    unfold finishHealthProbe
    split
    case h_1 missing =>
      exact
        { probing with
          owned := by
            intro other probe found
            apply (probing.owned other probe found).imp_left
            apply others
            rintro rfl
            rw [missing] at found
            cases found }
    case h_2 probe found =>
      have erased (other : Nat) : AList.lookup other (hub.healthProbes.erase nonce) =
          if other = nonce then none else hub.healthProbes.lookup other :=
        Table.lookup_erase_eq _ _ _
      exact
        { tally := by
            intro cl asked connected
            rw [probing.tally cl asked connected, pending, pending, erased, countP_append,
              countP_singleton]
            by_cases same : asked = nonce
            · rw [if_pos same, same, found]
              simp
              omega
            · have distinct : ¬ nonce = asked := fun equal => same equal.symm
              simp [same, distinct]
          heard := by
            intro other later stored
            rw [erased] at stored
            split at stored
            · cases stored
            · exact probing.heard other later stored
          owned := by
            intro other later stored
            rw [erased] at stored
            split at stored
            · cases stored
            · next distinct =>
              exact (probing.owned other later stored).imp_left (others other distinct)
          own := by
            intro cl asked askedThen todo later fansOut stored
            rw [erased] at stored
            split at stored
            · cases stored
            · exact probing.own cl asked askedThen todo later fansOut stored
          fresh := probing.fresh
          replies := by
            intro reply listed
            cases mem_append.mp listed with
            | inl old => exact probing.replies reply old
            | inr new =>
              rw [mem_singleton.mp new]
              exact (probing.heard nonce probe found).backed _
          answers := probing.answers }

theorem done_of_dropped {α : Type} {cl next : ClientConn α} {frame : α} {pick : SelectCase}
    (dropped : cl.controlSelect frame pick = .dropped next) : cl.done = true ∧ next = cl := by
  unfold controlSelect at dropped
  split at dropped
  · unfold sendOn at dropped
    split at dropped <;> cases dropped
  · next chosen notSend selected =>
    obtain ⟨listed, ready⟩ := Channel.ready_of_select selected
    cases dropped
    refine ⟨?_, rfl⟩
    rcases mem_cons.mp listed with rfl | last
    · exact absurd rfl notSend
    · rw [mem_singleton.mp last] at ready
      exact ready
  · cases dropped

theorem countP_eraseIdx {α : Type} (keep : α → Bool) {list : List α} {index : Nat} {value : α}
    (found : list[index]? = some value) :
    list.countP keep = (list.eraseIdx index).countP keep + if keep value = true then 1 else 0 := by
  obtain ⟨inside, is⟩ := List.getElem?_eq_some_iff.mp found
  have perm := getElem_cons_eraseIdx_perm inside
  rw [is] at perm
  rw [← perm.countP_eq, countP_cons]

theorem Probing.replied (probing : hub.Probing events) {index : Nat} {answer : Reply}
    (found : hub.replies[index]? = some answer)
    (agrees : (hub.conns answer.requester).chans.Agrees chans)
    (sends : more = [.answered answer.requester answer.nonce answer.rows] ∨
      more = [] ∧ (hub.conns answer.requester).chans.done = true) :
    { hub.setChans answer.requester chans with replies := hub.replies.eraseIdx index }.Probing
      (events ++ more) := by
  have calm : Calm hub (hub.setChans answer.requester chans) := Calm.setChans agrees
  have idle (cl : Client) (nonce : Nat) :
      requestCount cl nonce (events ++ more) = requestCount cl nonce events := by
    rcases sends with rfl | ⟨rfl, -⟩
    · rw [requestCount_concat]
      rfl
    · rw [append_nil]
  exact
    { tally := by
        intro cl nonce connected
        have before := calm.done cl connected
        have taken : hub.pending cl nonce =
            pending { hub.setChans answer.requester chans with
              replies := hub.replies.eraseIdx index } cl nonce +
                if decide (answer.requester = cl ∧ answer.nonce = nonce) = true then 1 else 0 := by
          unfold pending
          rw [countP_eraseIdx (fun reply : Reply => reply.requester = cl ∧ reply.nonce = nonce)
            found, ← Nat.add_assoc]
          rfl
        rw [idle, probing.tally cl nonce before, taken]
        rcases sends with rfl | ⟨rfl, ended⟩
        · rw [answerCount_concat]
          change _ + (_ + if decide _ = true then 1 else 0) =
            _ + (if decide _ = true then 1 else 0) + _
          omega
        · have other : ¬ (answer.requester = cl ∧ answer.nonce = nonce) := by
            rintro ⟨rfl, -⟩
            rw [before] at ended
            cases ended
          rw [if_neg (by simpa using other), append_nil]
          rfl
      heard := fun nonce probe stored => (probing.heard nonce probe stored).mono more
      owned := by
        intro nonce probe stored
        apply (probing.owned nonce probe stored).imp_right
        rintro ⟨asked, todo, fansOut⟩
        exact ⟨asked, todo, (calm.handler _ nonce asked todo).mpr fansOut⟩
      own := by
        intro cl nonce asked todo probe fansOut
        exact probing.own cl nonce asked todo probe ((calm.handler _ _ _ _).mp fansOut)
      fresh := by
        intro cl nonce asked todo fansOut
        exact probing.fresh cl nonce asked todo ((calm.handler _ _ _ _).mp fansOut)
      replies := by
        intro reply listed
        exact (probing.replies reply (mem_of_mem_eraseIdx listed)).mono more
      answers := by
        refine answers_append probing.answers ?_
        intro cl nonce rows before after split
        rcases sends with rfl | ⟨rfl, -⟩
        · cases before with
          | nil =>
            obtain ⟨rfl, rfl, rfl⟩ := RouterEvent.answered.inj (cons.inj split).1
            rw [append_nil]
            exact probing.replies answer (mem_of_getElem? found)
          | cons first before => cases before <;> cases (cons.inj split).2
        · cases before <;> cases split }

theorem Probing.panic (probing : hub.Probing events) (cl : Client) (prio : Priority) :
    (hub.panic cl prio).1.Probing (events ++ (hub.panic cl prio).2) :=
  probing.calm (apart_panic cl prio).calm (apart_panic cl prio).idle

theorem Probing.reply (probing : hub.Probing events) (index : Nat) (pick : SelectCase) :
    (hub.reply index pick).1.Probing (events ++ (hub.reply index pick).2) := by
  have same : hub.Probing (events ++ []) := by
    rw [append_nil]
    exact probing
  unfold Hub.reply
  split
  case h_1 => exact same
  case h_2 answer found =>
    dsimp only
    split
    case h_1 chans result =>
      exact probing.replied found (agrees_controlSelect (by rw [result]; rfl))
        (Or.inl rfl)
    case h_2 chans result =>
      exact probing.replied found (agrees_controlSelect (by rw [result]; rfl))
        (Or.inr ⟨rfl, (done_of_dropped result).1⟩)
    case h_3 => exact probing.panic _ _
    case h_4 => exact same

theorem conns_respondSelf (nonce asked : Nat) :
    (hub.respondSelf cl nonce asked).conns = hub.conns := by
  unfold respondSelf respond
  repeat' split
  all_goals rfl

variable (probing : hub.Probing events)

include probing

theorem Probing.fanOut (cl target : Client) (pick : SelectCase) :
    (hub.fanOut cl target pick).1.Probing (events ++ (hub.fanOut cl target pick).2) := by
  have same : hub.Probing (events ++ []) := by
    rw [append_nil]
    exact probing
  unfold Hub.fanOut
  split
  case h_2 => exact same
  case h_1 nonce asked todo fansOut =>
    have served {current : Client} {chans : ClientConn Content} (rest : List Client)
        (agrees : (hub.conns current).chans.Agrees chans) :
        ((hub.setChans current chans).setHandler cl (.fanningOut nonce asked rest)).Probing
          (events ++ []) := by
      have sent : (hub.setChans current chans).Probing (events ++ []) :=
        probing.calm (Calm.setChans agrees) idle_nil
      have still : ((hub.setChans current chans).conns cl).handler =
          .fanningOut nonce asked todo := by
        rw [handler_setChans]
        exact fansOut
      exact sent.fansOn still rest
    split
    case h_1 =>
      rw [append_nil]
      exact probing.timed fansOut
    case h_2 current rest _ =>
      split
      case isTrue =>
        have responded : (hub.respondSelf cl nonce asked).Probing (events ++ []) := by
          unfold respondSelf
          split
          · exact same
          rename_i probe found
          split
          · next its =>
            refine probing.respond idle_nil ?_
            intro other stored
            rw [found] at stored
            cases stored
            exact Or.inl (probing.own cl nonce asked todo probe fansOut found its).symm
          · exact same
        have still : ((hub.respondSelf cl nonce asked).conns cl).handler =
            .fanningOut nonce asked todo := by
          rw [conns_respondSelf]
          exact fansOut
        exact responded.fansOn still rest
      case isFalse =>
        split
        case h_1 chans result =>
          exact served rest (agrees_controlSelect (by rw [result]; rfl))
        case h_2 chans result =>
          exact served rest (agrees_controlSelect (by rw [result]; rfl))
        case h_3 => exact probing.panic _ _
        case h_4 => exact same

theorem Probing.handleHealthRequest {cl : Client} (reads : hub.Reads cl)
    (separate : hub.Snapshots cl (msgHealthRequest, payload) →
      hub.healthProbes.lookup (bigEndian payload) = none) :
    (hub.handleHealthRequest cl payload).1.Probing
      (events ++ (hub.handleHealthRequest cl payload).2) := by
  unfold Hub.handleHealthRequest
  split
  case isTrue => exact probing.calm (Calm.refl hub) idle_nil
  case isFalse long =>
    have size : payload.length = 8 := not_not.mp long
    split
    case h_1 name registered =>
      split
      · have echoing : Calm hub (hub.setHandler cl (.echoing payload)) :=
          Calm.setHandler (quiet_of_reads reads) (by simp)
        exact probing.calm echoing idle_nil
      rename_i isGateway
      refine probing.healthSnapshot reads (separate ⟨rfl, size, ?_⟩)
      intro other found
      rw [registered] at found
      rw [← Option.some.inj found]
      exact not_not.mp isGateway
    case h_2 unregistered =>
      refine probing.healthSnapshot reads (separate ⟨rfl, size, ?_⟩)
      intro other found
      rw [unregistered] at found
      cases found

theorem Probing.handleFrame {cl : Client} (reads : hub.Reads cl)
    (separate : hub.Separate (.frame cl frame)) :
    (hub.handleFrame cl frame).1.Probing (events ++ (hub.handleFrame cl frame).2) := by
  have same : hub.Probing (events ++ []) := probing.calm (Calm.refl hub) idle_nil
  unfold Hub.handleFrame
  split
  case isTrue =>
    split
    · exact same
    · split
      · exact probing.calm (calm_publish reads _ _) idle_nil
      · exact same
  case isFalse =>
    split
    case isTrue requests =>
      split
      · refine probing.handleHealthRequest reads ?_
        intro snapshots
        exact separate ⟨requests, snapshots.size, snapshots.asks⟩
      · exact same
    case isFalse =>
      split
      · unfold handleHealthResponse
        split
        · exact same
        refine probing.respond ?_ fun _ _ => Or.inr mem_cons_self
        intro event listed other nonce
        rw [mem_singleton.mp listed]
        exact ⟨rfl, rfl⟩
      · split
        · have marked : Calm hub
              (hub.setConn cl { hub.conns cl with stray := strays (hub.conns cl) frame }) :=
            Calm.setConn id fun _ _ _ => Iff.rfl
          have handled : Calm hub
              { hub.setConn cl { hub.conns cl with stray := strays (hub.conns cl) frame } with
                router := Router.handleFrame hub.router cl frame } :=
            ⟨rfl, rfl, rfl, marked.done, marked.handler, rfl⟩
          exact probing.calm handled idle_nil
        · exact same

theorem Probing.handle (separate : hub.Separate input) :
    (hub.handle input).1.Probing (events ++ (hub.handle input).2) := by
  have same : hub.Probing (events ++ []) := probing.calm (Calm.refl hub) idle_nil
  unfold Hub.handle
  split
  case isTrue => exact same
  case isFalse =>
    cases input with
    | connect cl =>
      dsimp only
      split
      · exact same
      rename_i absent
      have connected : Calm hub (hub.setHandler cl .reading) := by
        refine Calm.setHandler ?_ nofun
        intro nonce asked todo fansOut
        rw [present, fansOut] at absent
        exact absent rfl
      exact probing.calm connected idle_nil
    | frame cl frame =>
      dsimp only
      split
      · next reads => exact probing.handleFrame reads separate
      · exact same
    | disconnect cl =>
      dsimp only
      split
      · next leaves => exact probing.calm (calm_teardown leaves.1) idle_nil
      · exact same
    | publishSelect cl target pick =>
      exact probing.calm (apart_publishSelect cl target pick).calm
        (apart_publishSelect cl target pick).idle
    | fanOut cl target pick => exact probing.fanOut cl target pick
    | echo cl pick => exact probing.calm (apart_echo cl pick).calm (apart_echo cl pick).idle
    | timeout nonce =>
      rw [append_nil]
      exact probing.timeout nonce
    | reply index pick => exact probing.reply index pick
    | write cl pick fails =>
      dsimp only
      split
      · exact probing.calm (calm_write cl pick fails) idle_nil
      · exact same
    | closeStep cl => exact probing.calm (calm_closeStep cl) idle_nil
    | cleanup idle =>
      dsimp only
      split
      · have held : Calm hub
            { hub with cleaning := some { todo := hub.router.idleClients idle } } :=
          Calm.of_conns rfl rfl rfl rfl rfl
        exact probing.calm held idle_nil
      · exact same
    | cleanNext => exact probing.calm calm_cleanNext idle_nil
    | elapse ms =>
      have passed : Calm hub { hub with clock := hub.clock + ms } :=
        Calm.of_conns rfl rfl rfl rfl rfl
      exact probing.calm passed idle_nil

omit probing

theorem probing_start : Probing {} [] where
  tally := fun _ _ _ => rfl
  heard := by
    intro nonce probe found
    rw [show AList.lookup nonce (∅ : Table Nat HealthProbe) = none from AList.lookup_empty nonce]
      at found
    cases found
  owned := by
    intro nonce probe found
    rw [show AList.lookup nonce (∅ : Table Nat HealthProbe) = none from AList.lookup_empty nonce]
      at found
    cases found
  own := nofun
  fresh := nofun
  replies := nofun
  answers := by
    intro cl nonce rows before after split
    cases before <;> cases split

theorem Probing.pending_pos_iff (probing : hub.Probing events) (requester : Client) (nonce : Nat) :
    0 < hub.pending requester nonce ↔ hub.Underway requester nonce := by
  unfold pending Underway
  rw [Nat.add_pos_iff_pos_or_pos, countP_pos_iff]
  constructor
  · rintro (openNow | ⟨reply, listed, its⟩)
    · left
      cases found : hub.healthProbes.lookup nonce with
      | none =>
        rw [found] at openNow
        cases openNow
      | some probe =>
        rw [found] at openNow
        have its : probe.requester = requester := by
          by_contra other
          simp [other] at openNow
        refine ⟨probe, rfl, its, ?_⟩
        rw [← its]
        exact probing.owned nonce probe found
    · exact Or.inr ⟨reply, listed, by simpa using its⟩
  · rintro (⟨probe, found, its, -⟩ | ⟨reply, listed, its⟩)
    · left
      rw [found]
      simp [its]
    · exact Or.inr ⟨reply, listed, by simpa using its⟩

/-- The request has been answered once, and nobody has it in hand any more; or
it has not been answered, and somebody has. -/
def AnsweredOnce (hub : Hub) (events : List RouterEvent) (requester : Client) (nonce : Nat) :
    Prop :=
  answerCount requester nonce events = 1 ∧ ¬ hub.Underway requester nonce ∨
    answerCount requester nonce events = 0 ∧ hub.Underway requester nonce

theorem probes_answered (inputs : List HubInput) (separate : machine.Along Separate {} inputs)
    (distinct : ∀ cl nonce, requestCount cl nonce (machine.outputs {} inputs) ≤ 1) :
    (∀ cl nonce services, .requested cl nonce services ∈ machine.outputs {} inputs →
      ((machine.final {} inputs).conns cl).chans.done = false →
        (machine.final {} inputs).AnsweredOnce (machine.outputs {} inputs) cl nonce) ∧
    ∀ cl nonce rows before after,
      machine.outputs {} inputs = before ++ .answered cl nonce rows :: after →
        Backed before cl nonce rows := by
  have probing : (machine.final {} inputs).Probing (machine.outputs {} inputs) :=
    machine.invariant Separate (fun _ hub events => hub.Probing events) probing_start
      (fun _ _ _ _ probing now => probing.handle now) inputs separate
  refine ⟨?_, probing.answers⟩
  intro cl nonce services listed connected
  have some : 0 < requestCount cl nonce (machine.outputs {} inputs) := by
    apply countP_pos_iff.mpr
    exact ⟨_, listed, by simp [asksFor]⟩
  have atMost := distinct cl nonce
  have tally := probing.tally cl nonce connected
  unfold AnsweredOnce
  rw [← probing.pending_pos_iff]
  omega

def oneProbe : List HubInput := [.connect 1, .connect 2, .frame 1 (msgRegister, [0, 1, 97, 0, 0]),
    .frame 2 (msgHealthRequest, [0, 0, 0, 0, 0, 0, 0, 5]), .fanOut 2 1 .send,
    .frame 1 (msgHealthResponse, [0, 0, 0, 0, 0, 0, 0, 5]), .fanOut 2 1 .send,
    .timeout 5, .reply 0 .send]

theorem outputs_oneProbe : machine.outputs {} oneProbe =
    [.requested 2 5 [(1, [97])], .replied 1 5, .answered 2 5 [⟨[97], true, 1, 0⟩]] := by
  decide +kernel

theorem one_probe_answered :
    (machine.final {} oneProbe).AnsweredOnce (machine.outputs {} oneProbe) 2 5 ∧
      Backed [.requested 2 5 [(1, [97])], .replied 1 5] 2 5 [⟨[97], true, 1, 0⟩] := by
  have all := probes_answered oneProbe
    ⟨trivial, trivial, fun snapshots => absurd snapshots.type (by decide), fun _ => rfl, trivial,
      fun snapshots => absurd snapshots.type (by decide), trivial, trivial, trivial, trivial⟩
    (by
      intro cl nonce
      rw [outputs_oneProbe]
      simp only [requestCount, countP_cons, countP_nil, asksFor]
      by_cases same : 2 = cl ∧ 5 = nonce <;> simp [same])
  refine ⟨all.1 2 5 [(1, [97])] ?_ (by decide +kernel), all.2 2 5 _ _ [] outputs_oneProbe⟩
  rw [outputs_oneProbe]
  exact mem_cons_self

def gatewayProbe : List HubInput :=
  [.connect 1, .frame 1 (msgRegister, [0, 7] ++ gateway ++ [0, 0]),
    .frame 1 (msgHealthRequest, [0, 0, 0, 0, 0, 0, 0, 5]), .fanOut 1 1 .send,
    .fanOut 1 1 .send, .timeout 5, .reply 0 .send]

def equalNonces : List HubInput :=
  [.connect 1, .connect 2, .frame 1 (msgHealthRequest, [0, 0, 0, 0, 0, 0, 0, 5]),
    .frame 2 (msgHealthRequest, [0, 0, 0, 0, 0, 0, 0, 5]), .fanOut 1 1 .send, .fanOut 2 1 .send,
    .timeout 5, .reply 0 .send, .timeout 5]

theorem snapshot_without_reply : machine.outputs {} gatewayProbe =
        [.requested 1 5 [(1, gateway)], .answered 1 5 [⟨gateway, true, 1, 0⟩]] ∧
      .requested 1 5 [] ∈ machine.outputs {} equalNonces ∧
      ((machine.final {} equalNonces).conns 1).chans.done = false ∧
      ¬ (machine.final {} equalNonces).AnsweredOnce (machine.outputs {} equalNonces) 1 5 := by
  refine ⟨by decide +kernel, by decide +kernel, by decide +kernel, ?_⟩
  have closed : ((machine.final {} equalNonces).healthProbes.lookup 5).isNone = true := by
    decide +kernel
  have sent : (machine.final {} equalNonces).replies.isEmpty = true := by decide +kernel
  rintro (⟨once, -⟩ | ⟨-, underway⟩)
  · revert once
    decide +kernel
  rcases underway with ⟨probe, found, -⟩ | ⟨reply, listed, -⟩
  · rw [found] at closed
    cases closed
  · rw [isEmpty_iff.mp sent] at listed
    cases listed

end Hub

end GtnhPlatform.Router
