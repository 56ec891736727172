import GtnhPlatform.Router.Hub

namespace GtnhPlatform.Router

open ClientConn Hub List

namespace RouterState

def Silent (router : RouterState) (cl : Client) : Prop :=
  ∀ pattern clients, router.subs.lookup pattern = some clients → cl ∉ clients

variable {router : RouterState} {cl : Client}

theorem Silent.of_subs {other : RouterState} (silent : router.Silent cl)
    (same : other.subs = router.subs) : other.Silent cl := by
  intro pattern clients found
  rw [same] at found
  exact silent pattern clients found

theorem Silent.not_mem_targets (silent : router.Silent cl) (topic : Name) :
    cl ∉ router.targets topic := by
  intro visited
  obtain ⟨clients, listed, mem⟩ := mem_flatten.mp visited
  obtain ⟨entry, kept, rfl⟩ := mem_map.mp listed
  exact silent entry.1 entry.2 (Table.mem_entries_iff.mp (mem_filter.mp kept).1) mem

variable {other : Client}

variable (silent : router.Silent cl)

include silent

theorem Silent.subscribe (pattern : Name) (distinct : cl ≠ other) :
    (router.subscribe pattern other).Silent cl := by
  intro found clients lookup
  change AList.lookup found (AList.insert pattern _ router.subs) = _ at lookup
  rw [Table.lookup_insert_eq] at lookup
  split at lookup
  case isFalse => exact silent found clients lookup
  case isTrue =>
    cases lookup
    have known : cl ∉ (router.subs.lookup pattern).getD [] := by
      cases stored : router.subs.lookup pattern with
      | none => exact not_mem_nil
      | some clients => exact silent pattern clients stored
    split
    · exact known
    intro listed
    cases mem_append.mp listed with
    | inl old => exact known old
    | inr last => exact distinct (mem_singleton.mp last)

theorem Silent.subscribeEach (topics : List Name)
    (distinct : cl ≠ other) :
    (topics.foldl (fun router topic => router.subscribe topic other) router).Silent cl := by
  induction topics generalizing router with
  | nil => exact silent
  | cons topic rest ih => exact ih (silent.subscribe topic distinct)

theorem Silent.registerService (name : Name) (topics : List Name) (distinct : cl ≠ other) :
    (router.registerService name topics other).Silent cl := by
  unfold RouterState.registerService
  refine Silent.subscribeEach ?_ topics distinct
  exact silent.of_subs rfl

theorem Silent.unsubscribe (pattern : Name) (other : Client) :
    (router.unsubscribe pattern other).Silent cl := by
  unfold RouterState.unsubscribe
  split
  case h_1 => exact silent
  case h_2 subs stored =>
    intro found clients lookup
    dsimp only at lookup
    split at lookup
    · rw [Table.lookup_erase_eq] at lookup
      split at lookup
      · cases lookup
      · exact silent found clients lookup
    · rw [Table.lookup_insert_eq] at lookup
      split at lookup
      · cases lookup
        exact fun listed => silent pattern subs stored (mem_filter.mp listed).1
      · exact silent found clients lookup

omit silent

theorem subs_unsubscribeAll (router : RouterState) (cl : Client) :
    (router.unsubscribeAll cl).subs =
      (router.subs.mapValues fun _ subs => subs.filter (· ≠ cl)).filter
        fun _ subs => subs ≠ [] := by
  unfold unsubscribeAll
  cases router.connServices.lookup cl <;> rfl

theorem lookup_unsubscribeAll
    (found : (router.unsubscribeAll cl).subs.lookup pattern = some clients) :
    ∃ before, router.subs.lookup pattern = some before ∧ clients = before.filter (· ≠ cl) := by
  rw [subs_unsubscribeAll, Table.lookup_filter, Option.filter_eq_some_iff,
    Table.lookup_mapValues] at found
  obtain ⟨before, stored, is⟩ := Option.map_eq_some_iff.mp found.1
  exact ⟨before, stored, is.symm⟩

theorem silent_unsubscribeAll (router : RouterState) (cl : Client) :
    (router.unsubscribeAll cl).Silent cl := by
  intro pattern clients found
  obtain ⟨before, -, rfl⟩ := lookup_unsubscribeAll found
  intro listed
  simpa using (mem_filter.mp listed).2

theorem Silent.unsubscribeAll (silent : router.Silent cl) (other : Client) :
    (router.unsubscribeAll other).Silent cl := by
  intro pattern clients found
  obtain ⟨before, stored, rfl⟩ := lookup_unsubscribeAll found
  exact fun listed => silent pattern before stored (mem_filter.mp listed).1

theorem Silent.handleFrame (silent : router.Silent cl) {frame : Content}
    (adds : frame.1 = msgSubscribe ∨ frame.1 = msgRegister → cl ≠ other) :
    (handleFrame router other frame).Silent cl := by
  unfold Router.handleFrame
  split
  case isTrue subscribes =>
    split
    · exact silent
    · exact silent.subscribe _ (adds (Or.inl subscribes))
  case isFalse =>
    split
    case isTrue =>
      split
      · exact silent
      · exact silent.unsubscribe _ _
    case isFalse =>
      split
      case h_1 => exact silent
      case h_2 name topics asks =>
        apply silent.registerService
        apply adds
        right
        by_contra otherwise
        rw [registrationOf, if_neg otherwise] at asks
        cases asks

end RouterState

def SelectResult.client? {α : Type} : SelectResult α → Option (ClientConn α)
  | .matched cl => some cl
  | .dropped cl => some cl
  | .goesOn _ cl => some cl
  | _ => none

namespace ClientConn

variable {α : Type} {cl next : ClientConn α}

/-- The same channels are closed, and the connection has not ended meanwhile. -/
structure Agrees (cl next : ClientConn α) : Prop where
  closed : ∀ prio, (next.sendCh prio).closed = (cl.sendCh prio).closed
  done : next.done = cl.done

theorem Agrees.refl (cl : ClientConn α) : cl.Agrees cl := ⟨fun _ => rfl, rfl⟩

theorem agrees_setCh (prio : Priority) {channel : Channel α}
    (same : channel.closed = (cl.sendCh prio).closed) : cl.Agrees (cl.setCh prio channel) where
  done := rfl
  closed := by
    intro other
    rw [sendCh_setCh]
    split
    · next equal => rw [same, equal]
    · rfl

variable {prio : Priority} {frame : α}

theorem agrees_sendOn (after : (cl.sendOn prio frame).client? = some next) : cl.Agrees next := by
  unfold sendOn Channel.send at after
  cases open? : (cl.sendCh prio).closed with
  | true =>
    rw [if_pos open?] at after
    cases after
  | false =>
    rw [if_neg (by rw [open?]; exact Bool.false_ne_true)] at after
    cases after
    exact agrees_setCh prio rfl

theorem closed_receive (channel : Channel α) : channel.receive.2.closed = channel.closed := by
  unfold Channel.receive
  split <;> rfl

theorem agrees_evict (after : (cl.evict prio).client? = some next) : cl.Agrees next := by
  have closed := closed_receive (cl.sendCh prio)
  unfold evict at after
  split at after
  · cases after
  rename_i channel received
  cases after
  rw [received] at closed
  exact agrees_setCh prio closed

variable {pick : SelectCase} {stage : PublishStage}

theorem agrees_publishSelect
    (after : (cl.publishSelect prio frame stage pick).client? = some next) : cl.Agrees next := by
  unfold publishSelect at after
  split at after
  · exact agrees_sendOn after
  · cases after
    exact ⟨fun _ => rfl, rfl⟩
  · exact agrees_evict after
  unfold publishDefault at after
  split at after
  · split at after <;> (obtain rfl := Option.some.inj after; exact Agrees.refl _)
  · cases after
    exact ⟨fun _ => rfl, rfl⟩
  · cases after

theorem agrees_controlSelect (after : (cl.controlSelect frame pick).client? = some next) :
    cl.Agrees next := by
  unfold controlSelect at after
  split at after
  · exact agrees_sendOn after
  · cases after
    exact Agrees.refl _
  · cases after

theorem agrees_write (cl : ClientConn α) (pick : Priority) (fails : Bool) :
    cl.Agrees (cl.write pick fails).1 := by
  unfold write
  split
  · exact ⟨fun _ => rfl, rfl⟩
  rename_i prio _
  have closed := closed_receive (cl.sendCh prio)
  split
  · exact ⟨fun _ => rfl, rfl⟩
  rename_i channel received
  rw [received] at closed
  have agrees : cl.Agrees (cl.setCh prio channel) := agrees_setCh prio closed
  split <;> exact ⟨agrees.closed, agrees.done⟩

theorem sendOn_panics_iff : cl.sendOn prio frame = .panic ↔ (cl.sendCh prio).closed = true := by
  unfold sendOn Channel.send
  cases (cl.sendCh prio).closed <;> simp

theorem publishSelect_panics (panics : cl.publishSelect prio frame stage pick = .panic) :
    (cl.sendCh prio).closed = true ∧ stage ≠ .evict := by
  unfold publishSelect at panics
  split at panics
  · next selected =>
    refine ⟨sendOn_panics_iff.mp panics, ?_⟩
    rintro rfl
    have offered := (Channel.ready_of_select selected).1
    simp [publishCases] at offered
  · cases panics
  · unfold evict at panics
    split at panics <;> cases panics
  · unfold publishDefault at panics
    split at panics
    · split at panics <;> cases panics
    · cases panics
    · cases panics

theorem controlSelect_panics (panics : cl.controlSelect frame pick = .panic) :
    (cl.sendCh .high).closed = true := by
  unfold controlSelect at panics
  split at panics
  · exact sendOn_panics_iff.mp panics
  · cases panics
  · cases panics

end ClientConn

structure Conn.Gone (conn : Conn) : Prop where
  begun : conn.closing ≠ none
  unstray : conn.stray = false

structure Conn.Like (before after : Conn) : Prop where
  closed : ∀ prio, (after.chans.sendCh prio).closed = (before.chans.sendCh prio).closed
  closing : after.closing = before.closing
  stray : after.stray = before.stray

theorem Conn.Like.gone_iff {before after : Conn} (like : before.Like after) :
    after.Gone ↔ before.Gone := by
  constructor
  · intro gone
    exact ⟨like.closing ▸ gone.begun, like.stray ▸ gone.unstray⟩
  · intro gone
    exact ⟨like.closing.symm ▸ gone.begun, like.stray.symm ▸ gone.unstray⟩

namespace Hub

/-- Whom a publish may still visit, and who holds the lock meanwhile. -/
structure Sound (hub : Hub) : Prop where
  begun : ∀ cl prio, ((hub.conns cl).chans.sendCh prio).closed = true →
    (hub.conns cl).closing ≠ none
  silent : ∀ cl, (hub.conns cl).Gone → hub.router.Silent cl
  publishing : ∀ cl task, (hub.conns cl).handler = .publishing task →
    cl ∈ hub.readers ∧ ∀ target ∈ task.todo, ¬ (hub.conns target).Gone
  exclusive : hub.cleaning ≠ none → hub.readers = []

variable {hub : Hub}

theorem conns_setConn (hub : Hub) (cl : Client) (conn : Conn) (other : Client) :
    (hub.setConn cl conn).conns other = if other = cl then conn else hub.conns other :=
  Function.update_apply _ _ _ _

variable {next : Hub}

theorem Sound.update (sound : hub.Sound) (subs : next.router.subs = hub.router.subs)
    (like : ∀ cl, (hub.conns cl).Like (next.conns cl))
    (publishing : ∀ cl task, (next.conns cl).handler = .publishing task →
      cl ∈ next.readers ∧ ∀ target ∈ task.todo, ¬ (hub.conns target).Gone)
    (exclusive : next.cleaning ≠ none → next.readers = []) : next.Sound where
  begun := by
    intro cl prio closed
    rw [(like cl).closing]
    rw [(like cl).closed] at closed
    exact sound.begun cl prio closed
  silent := by
    intro cl gone
    exact (sound.silent cl ((like cl).gone_iff.mp gone)).of_subs subs
  publishing := by
    intro cl task publishes
    obtain ⟨reads, reached⟩ := publishing cl task publishes
    refine ⟨reads, ?_⟩
    intro target listed gone
    exact reached target listed ((like target).gone_iff.mp gone)
  exclusive := exclusive

theorem Sound.of_same (sound : hub.Sound) (conns : next.conns = hub.conns)
    (subs : next.router.subs = hub.router.subs) (readers : next.readers = hub.readers)
    (cleaning : next.cleaning = hub.cleaning) : next.Sound := by
  refine sound.update subs ?_ ?_ ?_
  · intro cl
    rw [conns]
    exact ⟨fun _ => rfl, rfl, rfl⟩
  · rw [conns, readers]
    exact sound.publishing
  · rw [cleaning, readers]
    exact sound.exclusive

variable {cl : Client}

theorem Sound.setConn (sound : hub.Sound) {conn : Conn} {readers : List Client}
    (like : (hub.conns cl).Like conn)
    (publishing : ∀ task, conn.handler = .publishing task →
      cl ∈ readers ∧ ∀ target ∈ task.todo, ¬ (hub.conns target).Gone)
    (keeps : ∀ other ∈ hub.readers, other ≠ cl → other ∈ readers)
    (exclusive : hub.cleaning ≠ none → readers = []) :
    { hub.setConn cl conn with readers := readers }.Sound := by
  refine sound.update rfl ?_ ?_ exclusive
  · intro other
    change (hub.conns other).Like ((hub.setConn cl conn).conns other)
    rw [conns_setConn]
    split
    · next same => rw [same]; exact like
    · exact ⟨fun _ => rfl, rfl, rfl⟩
  · intro other task publishes
    change ((hub.setConn cl conn).conns other).handler = _ at publishes
    rw [conns_setConn] at publishes
    split at publishes
    · next same =>
      rw [same]
      exact publishing task publishes
    · next distinct =>
      obtain ⟨reads, reached⟩ := sound.publishing other task publishes
      exact ⟨keeps other reads distinct, reached⟩

variable {chans : ClientConn Content}

theorem Sound.setChans (sound : hub.Sound) (agrees : (hub.conns cl).chans.Agrees chans) :
    (hub.setChans cl chans).Sound :=
  sound.setConn ⟨agrees.closed, rfl, rfl⟩ (sound.publishing cl) (fun _ reads _ => reads)
    sound.exclusive

variable {stage : HandlerStage}

theorem Sound.setHandler (sound : hub.Sound) (quiet : ∀ task, stage ≠ .publishing task) :
    (hub.setHandler cl stage).Sound :=
  sound.setConn ⟨fun _ => rfl, rfl, rfl⟩ (fun task publishes => absurd publishes (quiet task))
    (fun _ reads _ => reads) sound.exclusive

theorem Sound.publish (sound : hub.Sound) (cl : Client) (topic : Name) (data : List UInt8)
    (unlocked : hub.cleaning = none) : (hub.publish cl topic data).Sound := by
  unfold Hub.publish
  split
  case h_1 => exact sound
  case h_2 =>
    refine sound.setConn ⟨fun _ => rfl, rfl, rfl⟩ ?_ ?_ (absurd unlocked)
    · intro task publishes
      cases publishes
      refine ⟨mem_cons_self, ?_⟩
      intro target listed gone
      exact (sound.silent target gone).not_mem_targets topic listed
    · intro other reads _
      exact mem_cons_of_mem _ reads

variable {task : PublishTask}

theorem Sound.published (sound : hub.Sound) (reads : cl ∈ hub.readers) {rest : List Client}
    (reached : ∀ target ∈ rest, ¬ (hub.conns target).Gone) :
    (hub.published cl task rest).Sound := by
  unfold Hub.published
  split
  case h_1 =>
    refine sound.setConn ⟨fun _ => rfl, rfl, rfl⟩ nofun ?_ ?_
    · intro other reads distinct
      exact mem_filter.mpr ⟨reads, decide_eq_true distinct⟩
    · intro locked
      rw [sound.exclusive locked]
      rfl
  case h_2 =>
    refine sound.setConn ⟨fun _ => rfl, rfl, rfl⟩ ?_ (fun _ reads _ => reads) sound.exclusive
    intro later publishes
    cases publishes
    exact ⟨reads, reached⟩

variable {target other : Client}

theorem mem_visit (listed : other ∈ Router.visit target todo) : other ∈ todo := by
  unfold Router.visit at listed
  split at listed
  · next left =>
    cases mem_cons.mp listed with
    | inl same => rw [same]; exact left
    | inr rest => exact mem_of_mem_erase rest
  · exact listed

theorem mem_task_visit (listed : other ∈ PublishTask.visit task target) : other ∈ task.todo := by
  unfold PublishTask.visit at listed
  split at listed
  · exact mem_visit listed
  · exact listed

theorem gone_setChans (target : Client) :
    ((hub.setChans cl chans).conns target).Gone ↔ (hub.conns target).Gone := by
  unfold setChans
  rw [conns_setConn]
  split
  · next same =>
    rw [same]
    exact ⟨fun gone => ⟨gone.1, gone.2⟩, fun gone => ⟨gone.1, gone.2⟩⟩
  · exact Iff.rfl

variable (sound : hub.Sound)

include sound

theorem Sound.publishSelect (cl target : Client) (pick : SelectCase) :
    (hub.publishSelect cl target pick).1.Sound := by
  unfold Hub.publishSelect
  split
  case h_2 => exact sound
  case h_1 task publishes =>
    obtain ⟨reads, reached⟩ := sound.publishing cl task publishes
    split
    case h_1 => exact sound
    case h_2 current rest order =>
      have left (other : Client) (listed : other ∈ current :: rest) :
          ¬ (hub.conns other).Gone := by
        rw [← order] at listed
        exact reached other (mem_task_visit listed)
      have served {chans : ClientConn Content}
          (agrees : (hub.conns current).chans.Agrees chans) :
          ((hub.setChans current chans).published cl task rest).Sound := by
        refine (sound.setChans agrees).published reads ?_
        intro other listed
        rw [gone_setChans]
        exact left other (mem_cons_of_mem _ listed)
      dsimp only
      split
      case h_1 chans result => exact served (agrees_publishSelect (by rw [result]; rfl))
      case h_2 chans result => exact served (agrees_publishSelect (by rw [result]; rfl))
      case h_3 stage chans result =>
        have changed : (hub.setChans current chans).Sound :=
          sound.setChans (agrees_publishSelect (by rw [result]; rfl))
        refine changed.setConn ⟨fun _ => rfl, rfl, rfl⟩ ?_ (fun _ reads _ => reads)
          changed.exclusive
        intro later again
        cases again
        refine ⟨reads, ?_⟩
        intro other listed
        rw [gone_setChans]
        exact left other listed
      case h_4 => exact sound
      case h_5 => exact sound.of_same rfl rfl rfl rfl
      case h_6 => exact sound.of_same rfl rfl rfl rfl

theorem Sound.respond (cl : Client) (nonce : Nat) : (hub.respond cl nonce).Sound := by
  unfold Hub.respond
  split
  · exact sound
  · exact sound.of_same rfl rfl rfl rfl

theorem Sound.respondSelf (cl : Client) (nonce asked : Nat) :
    (hub.respondSelf cl nonce asked).Sound := by
  unfold Hub.respondSelf
  split
  · exact sound
  · split
    · exact sound.respond cl nonce
    · exact sound

theorem Sound.healthSnapshot (cl : Client) (nonce : Nat) :
    (hub.healthSnapshot cl nonce).1.Sound := by
  have fanningOut :
      (hub.setHandler cl (.fanningOut nonce hub.requests hub.router.connServices.keys)).Sound :=
    sound.setHandler nofun
  exact fanningOut.of_same rfl rfl rfl rfl

theorem Sound.handleHealthRequest (cl : Client) (payload : List UInt8) :
    (hub.handleHealthRequest cl payload).1.Sound := by
  unfold Hub.handleHealthRequest
  have echoing : (hub.setHandler cl (.echoing payload)).Sound := sound.setHandler nofun
  split
  · exact sound
  split
  · split
    · exact echoing
    · exact sound.healthSnapshot cl _
  · exact sound.healthSnapshot cl _

theorem Sound.handleHealthResponse (cl : Client) (payload : List UInt8) :
    (hub.handleHealthResponse cl payload).1.Sound := by
  unfold Hub.handleHealthResponse
  split
  · exact sound
  · exact sound.respond cl _

theorem Sound.fanOut (cl target : Client) (pick : SelectCase) :
    (hub.fanOut cl target pick).1.Sound := by
  unfold Hub.fanOut
  split
  case h_2 => exact sound
  case h_1 nonce asked todo _ =>
    split
    case h_1 =>
      have reads : (hub.setHandler cl .reading).Sound := sound.setHandler nofun
      exact reads.of_same rfl rfl rfl rfl
    case h_2 current rest _ =>
      split
      · exact (sound.respondSelf cl nonce asked).setHandler nofun
      split
      case h_1 chans result =>
        exact (sound.setChans (agrees_controlSelect (by rw [result]; rfl))).setHandler
          nofun
      case h_2 chans result =>
        exact (sound.setChans (agrees_controlSelect (by rw [result]; rfl))).setHandler
          nofun
      case h_3 => exact sound.of_same rfl rfl rfl rfl
      case h_4 => exact sound

theorem Sound.echo (cl : Client) (pick : SelectCase) : (hub.echo cl pick).1.Sound := by
  unfold Hub.echo
  split
  case h_2 => exact sound
  case h_1 payload _ =>
    split
    case h_1 chans result =>
      exact (sound.setChans (agrees_controlSelect (by rw [result]; rfl))).setHandler
        nofun
    case h_2 chans result =>
      exact (sound.setChans (agrees_controlSelect (by rw [result]; rfl))).setHandler
        nofun
    case h_3 => exact sound.of_same rfl rfl rfl rfl
    case h_4 => exact sound

theorem Sound.timeout (nonce : Nat) : (hub.timeout nonce).Sound := by
  unfold Hub.timeout
  split
  · unfold finishHealthProbe
    split
    · exact sound.of_same rfl rfl rfl rfl
    · exact sound.of_same rfl rfl rfl rfl
  · exact sound

theorem Sound.reply (index : Nat) (pick : SelectCase) : (hub.reply index pick).1.Sound := by
  unfold Hub.reply
  split
  case h_1 => exact sound
  case h_2 answer _ =>
    dsimp only
    split
    case h_1 chans result =>
      have changed : (hub.setChans answer.requester chans).Sound :=
        sound.setChans (agrees_controlSelect (by rw [result]; rfl))
      exact changed.of_same rfl rfl rfl rfl
    case h_2 chans result =>
      have changed : (hub.setChans answer.requester chans).Sound :=
        sound.setChans (agrees_controlSelect (by rw [result]; rfl))
      exact changed.of_same rfl rfl rfl rfl
    case h_3 => exact sound.of_same rfl rfl rfl rfl
    case h_4 => exact sound

theorem Sound.unpublished (unlocked : hub.readers = []) (cl : Client)
    (task : PublishTask) : (hub.conns cl).handler ≠ .publishing task := by
  intro publishes
  have reads := (sound.publishing cl task publishes).1
  rw [unlocked] at reads
  cases reads

omit sound

theorem Sound.locked (sound : hub.Sound) (unlocked : hub.readers = [])
    (begun : ∀ cl prio, ((next.conns cl).chans.sendCh prio).closed = true →
      (next.conns cl).closing ≠ none) (silent : ∀ cl, (next.conns cl).Gone → next.router.Silent cl)
    (handlers : ∀ cl task, (next.conns cl).handler = .publishing task →
      (hub.conns cl).handler = .publishing task) (readers : next.readers = []) : next.Sound where
  begun := begun
  silent := silent
  publishing := by
    intro cl task publishes
    exact absurd (handlers cl task publishes) (sound.unpublished unlocked cl task)
  exclusive := fun _ => readers

theorem strays_of_gone {conn : Conn} {frame : Content}
    (gone : Conn.Gone { conn with stray := strays conn frame }) :
    conn.Gone ∧ frame.1 ≠ msgSubscribe ∧ frame.1 ≠ msgRegister := by
  have unstray : strays conn frame = false := gone.unstray
  have begun : conn.closing.isSome = true := Option.isSome_iff_ne_none.mpr gone.begun
  unfold strays at unstray
  rw [begun] at unstray
  simp only [Bool.or_eq_false_iff, Bool.true_and, decide_eq_false_iff_not] at unstray
  exact ⟨⟨gone.begun, unstray.1⟩, unstray.2⟩

theorem Sound.handleFrame (sound : hub.Sound) (cl : Client) (frame : Content) :
    (hub.handleFrame cl frame).1.Sound := by
  unfold Hub.handleFrame
  split
  case isTrue =>
    split
    · exact sound
    · split
      · next unlocked => exact sound.publish cl _ _ (Option.isNone_iff_eq_none.mp unlocked)
      · exact sound
  case isFalse =>
    split
    case isTrue =>
      split
      · exact sound.handleHealthRequest cl _
      · exact sound
    case isFalse =>
      split
      · exact sound.handleHealthResponse cl _
      split
      case isFalse => exact sound
      case isTrue unlocked =>
        refine sound.locked unlocked.1 ?_ ?_ ?_ unlocked.1
        · intro other prio closed
          change ((hub.setConn _ _).conns other).closing ≠ none
          change (((hub.setConn _ _).conns other).chans.sendCh prio).closed = true at closed
          rw [conns_setConn] at closed ⊢
          split at closed
          · next same =>
            rw [if_pos same]
            exact sound.begun cl prio closed
          · next distinct =>
            rw [if_neg distinct]
            exact sound.begun other prio closed
        · intro other gone
          change ((hub.setConn _ _).conns other).Gone at gone
          change (Router.handleFrame hub.router cl frame).Silent other
          rw [conns_setConn] at gone
          split at gone
          · next same =>
            obtain ⟨before, notSubscribe, notRegister⟩ := strays_of_gone gone
            rw [same]
            apply (sound.silent cl before).handleFrame
            rintro (subscribes | registers)
            · exact absurd subscribes notSubscribe
            · exact absurd registers notRegister
          · next distinct => exact (sound.silent other gone).handleFrame fun _ => distinct
        · intro other task publishes
          change ((hub.setConn _ _).conns other).handler = _ at publishes
          rw [conns_setConn] at publishes
          split at publishes
          · next same =>
            rw [same]
            exact publishes
          · exact publishes

variable (conn : Conn)

theorem chans_beginClose : conn.beginClose.chans = conn.chans := by
  unfold Conn.beginClose
  split <;> rfl

theorem handler_beginClose : conn.beginClose.handler = conn.handler := by
  unfold Conn.beginClose
  split <;> rfl

theorem stray_beginClose : conn.beginClose.stray = conn.stray := by
  unfold Conn.beginClose
  split <;> rfl

theorem closing_beginClose : conn.beginClose.closing ≠ none := by
  unfold Conn.beginClose
  split
  · exact Option.some_ne_none _
  · next begun => rw [begun]; exact Option.some_ne_none _

theorem Sound.shut (sound : hub.Sound) (unlocked : hub.readers = [])
    (quiet : ∀ task, stage = .publishing task → (hub.conns cl).handler = stage)
    (cleaning : Option Cleaning) :
    { (hub.setHandler cl stage).beginClose cl with
      router := hub.router.unsubscribeAll cl
      cleaning := cleaning }.Sound := by
  have conns (other : Client) : ((hub.setHandler cl stage).beginClose cl).conns other =
      if other = cl then { hub.conns cl with handler := stage }.beginClose
      else hub.conns other := by
    unfold Hub.beginClose Hub.setHandler
    rw [conns_setConn, conns_setConn, conns_setConn, if_pos rfl]
    split <;> rfl
  refine sound.locked unlocked ?_ ?_ ?_ unlocked
  · intro other prio closed
    change (((hub.setHandler cl stage).beginClose cl).conns other).closing ≠ none
    change ((((hub.setHandler cl stage).beginClose cl).conns other).chans.sendCh prio).closed = _
      at closed
    rw [conns] at closed ⊢
    split
    · exact closing_beginClose _
    · next distinct =>
      rw [if_neg distinct] at closed
      exact sound.begun other prio closed
  · intro other gone
    change (((hub.setHandler cl stage).beginClose cl).conns other).Gone at gone
    change (hub.router.unsubscribeAll cl).Silent other
    rw [conns] at gone
    split at gone
    · next same =>
      rw [same]
      exact RouterState.silent_unsubscribeAll _ _
    · exact (sound.silent other gone).unsubscribeAll cl
  · intro other task publishes
    change (((hub.setHandler cl stage).beginClose cl).conns other).handler = _ at publishes
    rw [conns] at publishes
    split at publishes
    · next same =>
      rw [handler_beginClose] at publishes
      rw [same, quiet task publishes]
      exact publishes
    · exact publishes

theorem Sound.closeConn (sound : hub.Sound) {conn : Conn}
    (begun : ∀ prio, (conn.chans.sendCh prio).closed = true → conn.closing ≠ none)
    (gone : conn.Gone → (hub.conns cl).Gone) (handler : conn.handler = (hub.conns cl).handler) :
    (hub.setConn cl conn).Sound := by
  have goneBefore (other : Client) (now : ((hub.setConn cl conn).conns other).Gone) :
      (hub.conns other).Gone := by
    rw [conns_setConn] at now
    split at now
    · next same =>
      rw [same]
      exact gone now
    · exact now
  exact
    { begun := by
        intro other prio closed
        rw [conns_setConn] at closed ⊢
        split
        · next same =>
          rw [if_pos same] at closed
          exact begun prio closed
        · next distinct =>
          rw [if_neg distinct] at closed
          exact sound.begun other prio closed
      silent := fun other now => sound.silent other (goneBefore other now)
      publishing := by
        intro other task publishes
        have before : (hub.conns other).handler = .publishing task := by
          rw [conns_setConn] at publishes
          split at publishes
          · next same =>
            rw [same, ← handler]
            exact publishes
          · exact publishes
        obtain ⟨reads, reached⟩ := sound.publishing other task before
        exact ⟨reads, fun target listed now => reached target listed (goneBefore target now)⟩
      exclusive := sound.exclusive }

theorem Sound.write (sound : hub.Sound) (cl : Client) (pick : Priority) (fails : Bool) :
    (hub.write cl pick fails).Sound := by
  have written : (hub.setChans cl ((hub.conns cl).chans.write pick fails).1).Sound :=
    sound.setChans (agrees_write _ pick fails)
  unfold Hub.write
  dsimp only
  split
  case isFalse => exact written
  case isTrue =>
    -- the writer closes a client that stays among the subscribers
    generalize hub.setChans cl _ = sent at written ⊢
    unfold beginClose
    have astray : (sent.setConn cl { sent.conns cl with stray := true }).Sound :=
      written.closeConn (written.begun cl) (fun gone => by cases gone.unstray) rfl
    refine astray.closeConn (fun _ _ => closing_beginClose _) ?_ (handler_beginClose _)
    intro gone
    have unstray := gone.unstray
    rw [stray_beginClose, conns_setConn, if_pos rfl] at unstray
    cases unstray

theorem closeStep_spec : (conn.closeStep.closing = none ↔ conn.closing = none) ∧
      conn.closeStep.stray = conn.stray ∧ conn.closeStep.handler = conn.handler ∧
      (conn.closing = none → conn.closeStep = conn) := by
  unfold Conn.closeStep
  split
  · next steps => simp [steps]
  · next steps => simp [steps]
  · simp

theorem Sound.closeStep (sound : hub.Sound) (cl : Client) :
    (hub.setConn cl (hub.conns cl).closeStep).Sound := by
  obtain ⟨closing, stray, handler, untouched⟩ := closeStep_spec (hub.conns cl)
  refine sound.closeConn ?_ ?_ handler
  · intro prio closed never
    have open? := closing.mp never
    rw [untouched open?] at closed
    exact sound.begun cl prio closed open?
  · intro gone
    exact ⟨fun never => gone.begun (closing.mpr never), stray ▸ gone.unstray⟩

theorem Sound.cleanNext (sound : hub.Sound) : hub.cleanNext.Sound := by
  unfold Hub.cleanNext
  have unlocked (locked : hub.cleaning ≠ none) := sound.exclusive locked
  split
  case h_1 => exact sound
  case h_2 cl todo locked =>
    have free := unlocked (by rw [locked]; exact Option.some_ne_none _)
    split
    · exact sound.update rfl (fun _ => ⟨fun _ => rfl, rfl, rfl⟩) sound.publishing fun _ => free
    · exact sound
  case h_3 cl todo locked =>
    have free := unlocked (by rw [locked]; exact Option.some_ne_none _)
    have same : hub.setHandler cl (hub.conns cl).handler = hub := by
      unfold Hub.setHandler Hub.setConn
      rw [Function.update_eq_self_iff.mpr rfl]
    have shut : Sound
        { (hub.setHandler cl (hub.conns cl).handler).beginClose cl with
          router := hub.router.unsubscribeAll cl
          cleaning := some { closing := some cl, todo := todo } } :=
      sound.shut free (fun _ _ => rfl) _
    rw [same] at shut
    exact shut
  case h_4 =>
    exact sound.update rfl (fun _ => ⟨fun _ => rfl, rfl, rfl⟩) sound.publishing fun cleaning =>
      absurd rfl cleaning

/-- A select that offers a frame to a client whose channel is closed already.
A publish comes to such a client only when the client has gone astray. -/
def Exposed (hub : Hub) : HubInput → Prop
  | .publishSelect cl target _ => ∃ task current rest,
      (hub.conns cl).handler = .publishing task ∧ task.stage ≠ .evict ∧
        PublishTask.visit task target = current :: rest ∧ (hub.conns current).stray = true ∧
          ((hub.conns current).chans.sendCh (classifyTopic task.topic)).closed = true
  | .fanOut cl target _ => ∃ nonce asked todo current rest,
      (hub.conns cl).handler = .fanningOut nonce asked todo ∧
        visit target todo = current :: rest ∧ current ≠ cl ∧
          ((hub.conns current).chans.sendCh .high).closed = true
  | .echo cl _ => ∃ payload, (hub.conns cl).handler = .echoing payload ∧
      ((hub.conns cl).chans.sendCh .high).closed = true
  | .reply index _ => ∃ answer, hub.replies[index]? = some answer ∧
      ((hub.conns answer.requester).chans.sendCh .high).closed = true
  | _ => False

def Quiet (events : List RouterEvent) : Prop := ∀ cl prio, RouterEvent.sentOnClosed cl prio ∉ events

theorem quiet_nil : Quiet [] := nofun

theorem Quiet.append (before : Quiet first) (after : Quiet second) : Quiet (first ++ second) := by
  intro cl prio listed
  cases mem_append.mp listed with
  | inl early => exact before cl prio early
  | inr late => exact after cl prio late

variable {pick : SelectCase}

theorem quiet_publishSelect (sound : hub.Sound) {cl target : Client}
    (unexposed : ¬ hub.Exposed (.publishSelect cl target pick)) :
    Quiet (hub.publishSelect cl target pick).2 := by
  unfold publishSelect
  split
  case h_2 => exact quiet_nil
  case h_1 task publishes =>
    split
    case h_1 => exact quiet_nil
    case h_2 current rest order =>
      dsimp only
      split
      case h_5 panics =>
        exfalso
        obtain ⟨closed, offers⟩ := publishSelect_panics panics
        have listed : current ∈ task.todo := by
          apply mem_task_visit
          rw [order]
          exact mem_cons_self
        have reached := (sound.publishing cl task publishes).2 current listed
        refine unexposed ⟨task, current, rest, publishes, offers, order, ?_, closed⟩
        by_contra unstray
        exact reached ⟨sound.begun current _ closed, Bool.eq_false_iff.mpr unstray⟩
      all_goals exact quiet_nil

theorem quiet_fanOut {cl target : Client} (unexposed : ¬ hub.Exposed (.fanOut cl target pick)) :
    Quiet (hub.fanOut cl target pick).2 := by
  unfold fanOut
  split
  case h_2 => exact quiet_nil
  case h_1 nonce asked todo fansOut =>
    split
    case h_1 => exact quiet_nil
    case h_2 current rest order =>
      split
      case isTrue => exact quiet_nil
      case isFalse other =>
        split
        case h_3 panics =>
          exact absurd ⟨nonce, asked, todo, current, rest, fansOut, order, other,
            controlSelect_panics panics⟩ unexposed
        all_goals exact quiet_nil

theorem quiet_echo (unexposed : ¬ hub.Exposed (.echo cl pick)) : Quiet (hub.echo cl pick).2 := by
  unfold echo
  split
  case h_2 => exact quiet_nil
  case h_1 payload echoes =>
    split
    case h_3 panics =>
      exact absurd ⟨payload, echoes, controlSelect_panics panics⟩ unexposed
    all_goals exact quiet_nil

theorem quiet_reply (unexposed : ¬ hub.Exposed (.reply index pick)) :
    Quiet (hub.reply index pick).2 := by
  unfold reply
  split
  case h_1 => exact quiet_nil
  case h_2 answer found =>
    dsimp only
    split
    case h_1 =>
      intro cl prio listed
      cases mem_singleton.mp listed
    case h_3 panics =>
      exact absurd ⟨answer, found, controlSelect_panics panics⟩ unexposed
    all_goals exact quiet_nil

theorem quiet_handleFrame (cl : Client) (frame : Content) : Quiet (hub.handleFrame cl frame).2 := by
  intro other prio
  unfold handleFrame handleHealthRequest handleHealthResponse healthSnapshot
  repeat' split
  all_goals simp

theorem sound_handle (sound : hub.Sound) (input : HubInput) :
    (hub.handle input).1.Sound ∧ (¬ hub.Exposed input → Quiet (hub.handle input).2) := by
  unfold handle
  split
  case isTrue => exact ⟨sound, fun _ => quiet_nil⟩
  case isFalse =>
    cases input with
    | connect cl =>
      refine ⟨?_, fun _ => quiet_nil⟩
      dsimp only
      split
      · exact sound
      · exact sound.setHandler nofun
    | frame cl frame =>
      dsimp only
      split
      · exact ⟨sound.handleFrame cl frame, fun _ => quiet_handleFrame cl frame⟩
      · exact ⟨sound, fun _ => quiet_nil⟩
    | disconnect cl =>
      refine ⟨?_, fun _ => quiet_nil⟩
      dsimp only
      split
      · next leaves => exact sound.shut leaves.2.1 (fun _ ends => by cases ends) hub.cleaning
      · exact sound
    | publishSelect cl target pick =>
      exact ⟨sound.publishSelect cl target pick, quiet_publishSelect sound⟩
    | fanOut cl target pick => exact ⟨sound.fanOut cl target pick, quiet_fanOut⟩
    | echo cl pick => exact ⟨sound.echo cl pick, quiet_echo⟩
    | timeout nonce => exact ⟨sound.timeout nonce, fun _ => quiet_nil⟩
    | reply index pick => exact ⟨sound.reply index pick, quiet_reply⟩
    | write cl pick fails =>
      refine ⟨?_, fun _ => quiet_nil⟩
      dsimp only
      split
      · exact sound.write cl pick fails
      · exact sound
    | closeStep cl => exact ⟨sound.closeStep cl, fun _ => quiet_nil⟩
    | cleanup idle =>
      refine ⟨?_, fun _ => quiet_nil⟩
      dsimp only
      split
      · next unlocked =>
        exact sound.update rfl (fun _ => ⟨fun _ => rfl, rfl, rfl⟩) sound.publishing
          fun _ => unlocked.1
      · exact sound
    | cleanNext => exact ⟨sound.cleanNext, fun _ => quiet_nil⟩
    | elapse ms => exact ⟨sound.of_same rfl rfl rfl rfl, fun _ => quiet_nil⟩

theorem sound_start : Sound {} where
  begun := nofun
  silent := fun _ gone => absurd rfl gone.begun
  publishing := nofun
  exclusive := fun locked => absurd rfl locked

theorem no_send_on_closed (inputs : List HubInput)
    (unexposed : machine.Along (fun hub input => ¬ hub.Exposed input) {} inputs) :
    Quiet (machine.outputs {} inputs) := by
  have run := machine.invariant (fun hub input => ¬ hub.Exposed input)
    (fun _ hub events => hub.Sound ∧ Quiet events) ⟨sound_start, quiet_nil⟩
    (fun _ hub events input holds now =>
      ⟨(sound_handle holds.1 input).1, holds.2.append ((sound_handle holds.1 input).2 now)⟩)
    inputs unexposed
  exact run.2

def subscriberLeaves : List HubInput :=
  [.connect 1, .connect 2, .frame 1 (msgSubscribe, [0, 1, 35]),
    .frame 2 (msgPublish, [0, 1, 97, 7]), .publishSelect 2 1 .send, .write 1 .low false,
    .disconnect 1, .closeStep 1, .closeStep 1, .closeStep 1, .closeStep 1,
    .frame 2 (msgPublish, [0, 1, 97, 8])]

theorem subscriber_leaves_quietly : Quiet (machine.outputs {} subscriberLeaves) := by
  apply no_send_on_closed
  refine ⟨?_, ?_, ?_, ?_, ?_, ?_, ?_, ?_, ?_, ?_, ?_, ?_, trivial⟩
  case refine_5 =>
    rintro ⟨task, current, rest, publishes, -, order, stray, -⟩
    cases publishes
    obtain ⟨rfl, -⟩ := cons.inj (show [1] = current :: rest from order)
    exact Bool.false_ne_true stray
  all_goals exact id

def requesterLeaves : List HubInput :=
  [.connect 1, .frame 1 (msgHealthRequest, [0, 0, 0, 0, 0, 0, 0, 5]), .fanOut 1 1 .send,
    .disconnect 1, .closeStep 1, .closeStep 1, .timeout 5, .reply 0 .send]

def writerFails : List HubInput := [.connect 1, .connect 2, .frame 1 (msgSubscribe, [0, 1, 35]),
    .frame 2 (msgPublish, [0, 1, 97, 7]), .publishSelect 2 1 .send, .write 1 .low true,
    .write 1 .low true, .write 1 .low true,
    .closeStep 1, .closeStep 1, .closeStep 1, .closeStep 1,
    .frame 2 (msgPublish, [0, 1, 97, 8]), .publishSelect 2 1 .send]

theorem closed_channels_panic :
    ¬ Quiet (machine.outputs {} requesterLeaves) ∧ ¬ Quiet (machine.outputs {} writerFails) := by
  constructor
  · intro quiet
    exact quiet 1 .high (by decide +kernel)
  · intro quiet
    exact quiet 1 .low (by decide +kernel)

end Hub

end GtnhPlatform.Router
