import GtnhPlatform.Router.ClientConn

namespace GtnhPlatform.Router

open AList List ClientConn Table

/-! The publishes that match one client. Each takes one select at a time. -/

/-- A frame for the client. `began` tells which publish it comes from, `sentAt`
when it was put into its channel. -/
structure Entry where
  began : Nat
  sentAt : Nat
  topic : Name
  data : List UInt8

def Entry.prio (entry : Entry) : Priority := classifyTopic entry.topic

structure Publishing where
  topic : Name
  data : List UInt8
  remaining : Nat
  stage : PublishStage := .offer

def Publishing.prio (publishing : Publishing) : Priority := classifyTopic publishing.topic

/-- `matched` lists the publishes that matched the client, each once, by when
they began and with their topics. -/
structure Delivery where
  clock : Nat := 0
  client : ClientConn Entry := {}
  publishing : Table Nat Publishing := ∅
  matched : List (Nat × Name) := []

inductive DeliveryInput where
  | publish (router : RouterState) (topic : Name) (data : List UInt8)
  | select (began : Nat) (pick : SelectCase)
  | write (pick : Priority)

namespace Delivery

def matchCount (cl : Client) (router : RouterState) (topic : Name) : Nat :=
  (router.targets topic).count cl

def publish (cl : Client) (state : Delivery) (router : RouterState) (topic : Name)
    (data : List UInt8) : Delivery :=
  let count := matchCount cl router topic
  if count = 0 then state
  else
    { state with
      publishing := AList.insert state.clock ({ topic, data, remaining := count } : Publishing)
          state.publishing
      matched := state.matched ++ [(state.clock, topic)] }

variable (state : Delivery)

def served (began : Nat) (publishing : Publishing)
    (client : ClientConn Entry) : Delivery :=
  { state with
    client := client
    publishing :=
      if publishing.remaining ≤ 1 then state.publishing.erase began
      else
        AList.insert began
          { publishing with remaining := publishing.remaining - 1, stage := .offer }
          state.publishing }

/-- One select of a publish. The client stays connected, so nothing panics. -/
def select (began : Nat) (pick : SelectCase) : Delivery :=
  match state.publishing.lookup began with
  | none => state
  | some publishing =>
    let frame : Entry := ⟨began, state.clock, publishing.topic, publishing.data⟩
    match state.client.publishSelect publishing.prio frame publishing.stage pick with
    | .matched client => state.served began publishing client
    | .dropped client => state.served began publishing client
    | .goesOn stage client =>
      { state with
        client := client
        publishing :=
          AList.insert began { publishing with stage := stage } state.publishing }
    | .waits => state
    | .panic => state
    | .nilPointer => state

def handle (cl : Client) (state : Delivery) (input : DeliveryInput) : Delivery :=
  let next :=
    match input with
    | .publish router topic data => state.publish cl router topic data
    | .select began pick => state.select began pick
    | .write pick => { state with client := (state.client.write pick false).1 }
  { next with clock := state.clock + 1 }

def machine (cl : Client) : Machine Delivery DeliveryInput Unit := ⟨fun state input =>
  (state.handle cl input, [])⟩

def queued (prio : Priority) : List Entry := (state.client.sendCh prio).buffer

def queuedTotal : Nat :=
  (state.queued .high).length + (state.queued .normal).length + (state.queued .low).length

def log (prio : Priority) : List Entry :=
  (state.client.delivered.filter fun entry => entry.prio = prio) ++ state.queued prio

structure InPublishOrder (entries : List Entry) : Prop where
  order : entries.Pairwise fun first second => ¬ second.sentAt ≤ first.began
  nodup : (entries.map Entry.began).Nodup

def Held (began : Nat) : Prop :=
  (∃ prio, began ∈ (state.log prio).map Entry.began) ∨ state.publishing.lookup began ≠ none

structure Accounted (state : Delivery) : Prop where
  total : state.client.delivered.length + state.queuedTotal + state.client.dropped +
    state.publishing.entries.length = state.matched.length
  order : ∀ prio, InPublishOrder (state.log prio)
  kept : ∀ publish ∈ state.matched, classifyTopic publish.2 = .high → state.Held publish.1

def Uncrowded (cl : Client) (state : Delivery) : DeliveryInput → Prop
  | .publish router topic _ => matchCount cl router topic ≤ 1
  | .select began _ => ∀ publishing, state.publishing.lookup began = some publishing →
      publishing.stage = .evict → state.queued publishing.prio = []
  | .write _ => True

structure Tidy (state : Delivery) : Prop where
  connected : state.client.done = false
  opened : ∀ prio, (state.client.sendCh prio).closed = false
  single : ∀ began publishing, state.publishing.lookup began = some publishing →
    publishing.remaining = 1 ∧ began < state.clock ∧ publishing.stage ≠ .retry
  sorted : ∀ prio, ∀ entry ∈ state.queued prio, entry.prio = prio
  times : ∀ prio, ∀ entry ∈ state.log prio, entry.began < entry.sentAt ∧
    entry.sentAt < state.clock ∧ state.publishing.lookup entry.began = none
  ordered : ∀ prio, (state.log prio).Pairwise fun first second => first.sentAt < second.sentAt
  nodup : ∀ prio, ((state.log prio).map Entry.began).Nodup
  total : state.client.delivered.length + state.queuedTotal + state.client.dropped +
    state.publishing.entries.length = state.matched.length
  held : ∀ publish ∈ state.matched, state.Held publish.1

variable {state : Delivery}

theorem Tidy.accounted (tidy : state.Tidy) : state.Accounted where
  total := tidy.total
  kept := fun publish listed _ => tidy.held publish listed
  order := by
    intro prio
    refine ⟨?_, tidy.nodup prio⟩
    apply (tidy.ordered prio).imp_of_mem
    intro first second listed _ before late
    have began := (tidy.times prio first listed).1
    omega

theorem Tidy.tick (tidy : state.Tidy) : { state with clock := state.clock + 1 }.Tidy where
  __ := tidy
  single := by
    intro began publishing found
    obtain ⟨one, early, stage⟩ := tidy.single began publishing found
    exact ⟨one, Nat.lt_succ_of_lt early, stage⟩
  times := by
    intro prio entry listed
    obtain ⟨began, sent, ended⟩ := tidy.times prio entry listed
    exact ⟨began, Nat.lt_succ_of_lt sent, ended⟩

theorem length_entries_eq (table : Table Nat Publishing) :
    table.entries.length = total (fun _ => 1) table := by
  simp [total, values, Function.comp_def]

variable {table : Table Nat Publishing} {key : Nat}

theorem length_insert_fresh (value : Publishing) (fresh : table.lookup key = none) :
    (insert key value table).entries.length = table.entries.length + 1 := by
  have total := total_insert (fun _ => 1) table key value
  rw [fresh] at total
  rw [length_entries_eq, length_entries_eq]
  exact total

variable {old : Publishing}

theorem length_insert_again (value : Publishing) (found : table.lookup key = some old) :
    (insert key value table).entries.length = table.entries.length := by
  have total := total_insert (fun _ => 1) table key value
  rw [found] at total
  rw [length_entries_eq, length_entries_eq]
  exact Nat.add_right_cancel total

theorem length_erase (found : table.lookup key = some old) :
    table.entries.length = 1 + (table.erase key).entries.length := by
  have total := total_erase (fun _ => 1) table key
  rw [found] at total
  rw [length_entries_eq, length_entries_eq]
  exact total

theorem Tidy.publish (tidy : state.Tidy)
    (data : List UInt8) (once : matchCount cl router topic ≤ 1) :
    { state.publish cl router topic data with clock := state.clock + 1 }.Tidy := by
  unfold Delivery.publish
  dsimp only
  split
  case isTrue => exact tidy.tick
  case isFalse some =>
    have one : matchCount cl router topic = 1 := by omega
    have fresh : state.publishing.lookup state.clock = none := by
      cases found : state.publishing.lookup state.clock with
      | none => rfl
      | some publishing =>
        exact absurd (tidy.single _ _ found).2.1 (Nat.lt_irrefl _)
    exact
      { connected := tidy.connected
        __ := tidy
        single := by
          intro began publishing found
          change lookup began (insert state.clock _ state.publishing) = _ at found
          rw [lookup_insert_eq] at found
          split at found
          case isTrue new =>
            cases found
            refine ⟨one, ?_, nofun⟩
            rw [new]
            exact Nat.lt_succ_self _
          case isFalse =>
            obtain ⟨single, early, stage⟩ := tidy.single began publishing found
            exact ⟨single, Nat.lt_succ_of_lt early, stage⟩
        times := by
          intro prio entry listed
          obtain ⟨began, sent, ended⟩ := tidy.times prio entry listed
          refine ⟨began, Nat.lt_succ_of_lt sent, ?_⟩
          change lookup entry.began (insert state.clock _ state.publishing) = none
          rw [lookup_insert_eq, if_neg (by omega)]
          exact ended
        total := by
          change _ + _ + _ + (insert state.clock _ state.publishing).entries.length =
            (state.matched ++ [_]).length
          rw [length_insert_fresh _ fresh, length_append, ← tidy.total]
          rfl
        held := by
          intro one listed
          change _ ∨ lookup one.1 (insert state.clock _ state.publishing) ≠ none
          rw [lookup_insert_eq]
          cases mem_append.mp listed with
          | inl old =>
            apply (tidy.held one old).imp_right
            intro offered
            split
            · exact Option.some_ne_none _
            · exact offered
          | inr new =>
            rw [mem_singleton.mp new, if_pos rfl]
            exact Or.inr (Option.some_ne_none _) }

variable {publishing : Publishing} {began : Nat}

theorem Tidy.goOn (tidy : state.Tidy) (found : state.publishing.lookup began = some publishing)
    (stage : PublishStage) (notYet : stage ≠ .retry) :
    { state with
      publishing := insert began { publishing with stage := stage }
        state.publishing }.Tidy := by
  obtain ⟨one, early, -⟩ := tidy.single began publishing found
  exact
    { connected := tidy.connected
      __ := tidy
      single := by
        intro other later foundLater
        change lookup other (insert began _ state.publishing) = _ at foundLater
        rw [lookup_insert_eq] at foundLater
        split at foundLater
        case isTrue same =>
          cases foundLater
          refine ⟨one, ?_, notYet⟩
          rw [same]
          exact early
        case isFalse => exact tidy.single other later foundLater
      times := by
        intro prio entry listed
        obtain ⟨before, sent, ended⟩ := tidy.times prio entry listed
        refine ⟨before, sent, ?_⟩
        change lookup entry.began (insert began _ state.publishing) = none
        rw [lookup_insert_eq, if_neg]
        · exact ended
        · intro same
          rw [same, found] at ended
          cases ended
      total := by
        change _ + _ + _ + (insert began _ state.publishing).entries.length = _
        rw [length_insert_again _ found]
        exact tidy.total
      held := by
        intro publish listed
        apply (tidy.held publish listed).imp_right
        intro offered
        change lookup publish.1 (insert began _ state.publishing) ≠ none
        rw [lookup_insert_eq]
        split
        · exact Option.some_ne_none _
        · exact offered }

theorem buffer_setCh (client : ClientConn Entry) (prio : Priority) (buffer : List Entry)
    (other : Priority) :
    ((client.setCh prio { (client.sendCh prio) with buffer := buffer }).sendCh other).buffer =
      if other = prio then buffer else (client.sendCh other).buffer := by
  rw [sendCh_setCh]
  split <;> rfl

theorem closed_setCh (client : ClientConn Entry) (prio : Priority) (buffer : List Entry)
    (other : Priority) :
    ((client.setCh prio { (client.sendCh prio) with buffer := buffer }).sendCh other).closed =
      (client.sendCh other).closed := by
  rw [sendCh_setCh]
  split
  · next same => rw [same]
  · rfl

variable {buffer : List Entry} {prio : Priority}

theorem queuedTotal_of_one {next : Delivery}
    (queuedNow : ∀ other, next.queued other = if other = prio then buffer else state.queued other) :
    next.queuedTotal + (state.queued prio).length = state.queuedTotal + buffer.length := by
  unfold queuedTotal
  rw [queuedNow, queuedNow, queuedNow]
  cases prio <;> simp <;> omega

variable {frame : Entry}

theorem Tidy.sent (tidy : state.Tidy) (found : state.publishing.lookup began = some publishing)
    (is : frame = ⟨began, state.clock, publishing.topic, publishing.data⟩) :
    { state with
      clock := state.clock + 1
      client := state.client.setCh publishing.prio
        { (state.client.sendCh publishing.prio) with
          buffer := state.queued publishing.prio ++ [frame] }
      publishing := state.publishing.erase began }.Tidy := by
  obtain ⟨one, early, -⟩ := tidy.single began publishing found
  let next : Delivery :=
    { state with
      clock := state.clock + 1
      client := state.client.setCh publishing.prio
        { (state.client.sendCh publishing.prio) with
          buffer := state.queued publishing.prio ++ [frame] }
      publishing := state.publishing.erase began }
  have queuedNow (prio : Priority) : next.queued prio =
      if prio = publishing.prio then state.queued publishing.prio ++ [frame]
      else state.queued prio := buffer_setCh _ _ _ _
  have logNow (prio : Priority) : next.log prio =
      if prio = publishing.prio then state.log prio ++ [frame] else state.log prio := by
    change (state.client.delivered.filter _) ++ next.queued prio = _
    rw [queuedNow]
    split
    · next same =>
      rw [same]
      exact (append_assoc _ _ _).symm
    · rfl
  -- the frame is new to every log, for its publish was still in progress
  have unsent (prio : Priority) : ∀ entry ∈ state.log prio, entry.began ≠ began := by
    intro entry listed same
    have ended := (tidy.times prio entry listed).2.2
    rw [same, found] at ended
    cases ended
  have fromLog {prio : Priority} {entry : Entry} (listed : entry ∈ next.log prio) :
      entry ∈ state.log prio ∨ entry = frame := by
    rw [logNow] at listed
    split at listed
    · cases mem_append.mp listed with
      | inl old => exact Or.inl old
      | inr last => exact Or.inr (mem_singleton.mp last)
    · exact Or.inl listed
  exact
    { connected := tidy.connected
      opened := by
        intro prio
        change ((state.client.setCh _ _).sendCh prio).closed = false
        rw [closed_setCh]
        exact tidy.opened prio
      single := by
        intro other later foundLater
        change lookup other (state.publishing.erase began) = _ at foundLater
        rw [lookup_erase_eq] at foundLater
        split at foundLater
        · cases foundLater
        · obtain ⟨single, soon, stage⟩ := tidy.single other later foundLater
          exact ⟨single, Nat.lt_succ_of_lt soon, stage⟩
      sorted := by
        intro prio entry listed
        change entry ∈ next.queued prio at listed
        rw [queuedNow] at listed
        split at listed
        · next same =>
          cases mem_append.mp listed with
          | inl old => rw [same, tidy.sorted _ entry old]
          | inr last => rw [same, mem_singleton.mp last, is]; rfl
        · exact tidy.sorted prio entry listed
      times := by
        intro prio entry listed
        change _ ∧ entry.sentAt < state.clock + 1 ∧
          lookup entry.began (state.publishing.erase began) = none
        rw [lookup_erase_eq]
        cases fromLog listed with
        | inl old =>
          obtain ⟨before, sent, ended⟩ := tidy.times prio entry old
          rw [if_neg (unsent prio entry old)]
          exact ⟨before, Nat.lt_succ_of_lt sent, ended⟩
        | inr new =>
          subst new is
          exact ⟨early, Nat.lt_succ_self _, if_pos rfl⟩
      ordered := by
        intro prio
        change (next.log prio).Pairwise _
        rw [logNow]
        split
        · rw [pairwise_append]
          refine ⟨tidy.ordered prio, pairwise_singleton _ _, ?_⟩
          intro entry old last isLast
          rw [mem_singleton.mp isLast, is]
          exact (tidy.times prio entry old).2.1
        · exact tidy.ordered prio
      nodup := by
        intro prio
        change ((next.log prio).map Entry.began).Nodup
        rw [logNow]
        split
        · rw [map_append, nodup_append]
          refine ⟨tidy.nodup prio, nodup_singleton _, ?_⟩
          intro first listed second isLast
          obtain ⟨entry, old, rfl⟩ := mem_map.mp listed
          obtain rfl := mem_singleton.mp isLast
          rw [is]
          exact unsent prio entry old
        · exact tidy.nodup prio
      total := by
        have sum := queuedTotal_of_one queuedNow
        rw [length_append, length_singleton] at sum
        change state.client.delivered.length + next.queuedTotal + state.client.dropped +
          (state.publishing.erase began).entries.length = state.matched.length
        have total := tidy.total
        rw [length_erase found] at total
        omega
      held := by
        intro publish listed
        change (∃ prio, publish.1 ∈ (next.log prio).map _) ∨
          lookup publish.1 (state.publishing.erase began) ≠ none
        by_cases same : publish.1 = began
        · refine Or.inl ⟨publishing.prio, ?_⟩
          rw [logNow, if_pos rfl, same, map_append, is]
          exact mem_append_right _ mem_cons_self
        rw [lookup_erase_eq, if_neg same]
        apply (tidy.held publish listed).imp_left
        rintro ⟨prio, logged⟩
        refine ⟨prio, ?_⟩
        rw [logNow]
        split
        · rw [map_append]
          exact mem_append_left _ logged
        · exact logged }

theorem select_of_none (pick : SelectCase) (ended : state.publishing.lookup began = none) :
    state.select began pick = state := by
  unfold Delivery.select
  rw [ended]

section

variable {began : Nat} (pick : SelectCase) {publishing : Publishing}
  (found : state.publishing.lookup began = some publishing)

include found

variable {client : ClientConn Entry}

theorem select_of_matched (result : state.client.publishSelect publishing.prio
      ⟨began, state.clock, publishing.topic, publishing.data⟩ publishing.stage pick =
        .matched client) :
    state.select began pick = state.served began publishing client := by
  unfold Delivery.select
  rw [found]
  dsimp only
  rw [result]

theorem select_of_goesOn (result : state.client.publishSelect publishing.prio
      ⟨began, state.clock, publishing.topic, publishing.data⟩ publishing.stage pick =
        .goesOn stage client) :
    state.select began pick =
      { state with
        client := client
        publishing := insert began { publishing with stage := stage } state.publishing } := by
  unfold Delivery.select
  rw [found]
  dsimp only
  rw [result]

theorem select_of_waits (result : state.client.publishSelect publishing.prio
      ⟨began, state.clock, publishing.topic, publishing.data⟩ publishing.stage pick = .waits) :
    state.select began pick = state := by
  unfold Delivery.select
  rw [found]
  dsimp only
  rw [result]

theorem Tidy.select_sent (tidy : state.Tidy) (offers : publishing.stage ≠ .evict)
    (room : (state.queued publishing.prio).length < sendChSize) :
    state.select began pick =
      { state with
        client := state.client.setCh publishing.prio
          { (state.client.sendCh publishing.prio) with
            buffer := state.queued publishing.prio ++
              [⟨began, state.clock, publishing.topic, publishing.data⟩] }
        publishing := state.publishing.erase began } := by
  have one := (tidy.single began publishing found).1
  rw [select_of_matched pick found (publishSelect_of_room _ tidy.connected
    (tidy.opened publishing.prio) room _ offers _), served, if_pos one.le]
  rfl

theorem Tidy.select (tidy : state.Tidy)
    (empty : publishing.stage = .evict → state.queued publishing.prio = []) :
    { state.select began pick with clock := state.clock + 1 }.Tidy := by
  have notYet := (tidy.single began publishing found).2.2
  have opened := tidy.opened publishing.prio
  by_cases evicts : publishing.stage = .evict
  · rw [select_of_waits pick found (publishSelect_of_empty _ tidy.connected opened
      (empty evicts) _ evicts _)]
    exact tidy.tick
  by_cases free : (state.client.sendCh publishing.prio).buffer.length < sendChSize
  · rw [tidy.select_sent pick found evicts free]
    exact tidy.sent found rfl
  have full := publishSelect_of_full _ tidy.connected opened free
    ⟨began, state.clock, publishing.topic, publishing.data⟩ evicts pick
  cases stage : publishing.stage with
  | evict => exact absurd stage evicts
  | retry => exact absurd stage notYet
  | block =>
    rw [stage] at full
    rw [select_of_waits pick found (by rw [stage]; exact full)]
    exact tidy.tick
  | offer =>
    rw [stage] at full
    by_cases high : publishing.prio = .high
    · rw [select_of_goesOn pick found (by rw [stage, full]; exact if_pos high)]
      exact (tidy.goOn found _ (by decide)).tick
    · rw [select_of_goesOn pick found (by rw [stage, full]; exact if_neg high)]
      exact (tidy.goOn found _ (by decide)).tick

end

variable (tidy : state.Tidy)

include tidy

theorem Tidy.rest (stage : WriterStage) :
    { state with client := { state.client with writer := stage } }.Tidy where
  __ := tidy

theorem Tidy.deliver (head : state.queued prio = frame :: buffer) :
    { state with
      client :=
        { state.client.setCh prio { (state.client.sendCh prio) with buffer := buffer } with
          writer := .high
          delivered := state.client.delivered ++ [frame] } }.Tidy := by
  let next : Delivery :=
    { state with
      client :=
        { state.client.setCh prio { (state.client.sendCh prio) with buffer := buffer } with
          writer := .high
          delivered := state.client.delivered ++ [frame] } }
  have queuedNow (other : Priority) : next.queued other =
      if other = prio then buffer else state.queued other := buffer_setCh _ _ _ _
  have itsPrio : frame.prio = prio := by
    apply tidy.sorted prio frame
    rw [head]
    exact mem_cons_self
  have logNow (other : Priority) : next.log other = state.log other := by
    change ((state.client.delivered ++ [frame]).filter _) ++ next.queued other = _
    rw [queuedNow, filter_append, log]
    by_cases same : other = prio
    · rw [if_pos same, same, head]
      simp [itsPrio]
    · have elsewhere : ¬ prio = other := fun equal => same equal.symm
      rw [if_neg same]
      simp [itsPrio, elsewhere]
  have logs : next.log = state.log := funext logNow
  exact
    { connected := tidy.connected
      opened := by
        intro other
        change ((state.client.setCh _ _).sendCh other).closed = false
        rw [closed_setCh]
        exact tidy.opened other
      single := tidy.single
      sorted := by
        intro other entry listed
        change entry ∈ next.queued other at listed
        rw [queuedNow] at listed
        split at listed
        · next same =>
          apply tidy.sorted
          rw [same, head]
          exact mem_cons_of_mem _ listed
        · exact tidy.sorted other entry listed
      times := by
        intro other entry listed
        change entry ∈ next.log other at listed
        rw [logs] at listed
        exact tidy.times other entry listed
      ordered := by
        intro other
        change (next.log other).Pairwise _
        rw [logs]
        exact tidy.ordered other
      nodup := by
        intro other
        change ((next.log other).map Entry.began).Nodup
        rw [logs]
        exact tidy.nodup other
      total := by
        have sum := queuedTotal_of_one queuedNow
        rw [head, length_cons] at sum
        change (state.client.delivered ++ [frame]).length + next.queuedTotal + _ + _ = _
        rw [length_append, length_singleton, ← tidy.total]
        change _ + next.queuedTotal + state.client.dropped + state.publishing.entries.length = _
        omega
      held := by
        intro publish listed
        change (∃ other, publish.1 ∈ (next.log other).map _) ∨ _
        rw [logs]
        exact tidy.held publish listed }

theorem Tidy.write (pick : Priority) :
    { state with client := (state.client.write pick false).1 }.Tidy := by
  unfold ClientConn.write
  cases chosen : Channel.select (ClientConn.writerCases state.client.writer)
      (fun prio => (state.client.sendCh prio).canReceive) pick with
  | none => exact tidy.rest _
  | some prio =>
    have ready := (Channel.ready_of_select chosen).2
    dsimp only at ready ⊢
    rw [Channel.canReceive, tidy.opened, Bool.false_or] at ready
    unfold Channel.receive
    cases held : (state.client.sendCh prio).buffer with
    | nil =>
      rw [held] at ready
      cases ready
    | cons frame buffer => exact tidy.deliver held

theorem Tidy.handle (uncrowded : state.Uncrowded cl input) : (state.handle cl input).Tidy := by
  cases input with
  | publish router topic data => exact tidy.publish data uncrowded
  | select began pick =>
    cases found : state.publishing.lookup began with
    | none =>
      change { state.select began pick with clock := state.clock + 1 }.Tidy
      rw [select_of_none pick found]
      exact tidy.tick
    | some publishing => exact tidy.select pick found (uncrowded publishing found)
  | write pick => exact (tidy.write pick).tick

omit tidy

theorem tidy_start : Tidy {} where
  connected := rfl
  opened := fun _ => rfl
  single := by
    intro began publishing found
    rw [show lookup began (∅ : Table Nat Publishing) = none from lookup_empty began]
      at found
    cases found
  sorted := nofun
  times := by
    intro prio entry listed
    cases listed
  ordered := fun _ => List.Pairwise.nil
  nodup := fun _ => nodup_nil
  total := rfl
  held := by
    intro publish listed
    cases listed

theorem accounted_of_uncrowded (cl : Client) (inputs : List DeliveryInput)
    (uncrowded : (machine cl).Along (Uncrowded cl) {} inputs) :
    ∀ before after, inputs = before ++ after → ((machine cl).final {} before).Accounted := by
  intro before after split
  have along : (machine cl).Along (Uncrowded cl) {} before := by
    rw [split, Machine.along_append] at uncrowded
    exact uncrowded.1
  have tidy := (machine cl).invariant (Uncrowded cl) (fun _ state _ => Tidy state) tidy_start
    (fun _ _ _ _ tidy now => tidy.handle now) before along
  exact tidy.accounted

def subscribedTo (patterns : List String) : RouterState :=
  patterns.foldl (fun router pattern => router.subscribe (bytesOf pattern) 1) {}

def oneSubscription : List DeliveryInput :=
  [.publish (subscribedTo ["world.#"]) (bytesOf "world.block") [7], .select 0 .send,
    .write .high, .write .high, .write .normal]

theorem one_subscription_accounted : ((machine 1).final {} oneSubscription).Accounted := by
  refine accounted_of_uncrowded 1 oneSubscription ?_ oneSubscription []
    (append_nil _).symm
  refine ⟨?_, ?_, trivial, trivial, trivial, trivial⟩
  · change matchCount 1 (subscribedTo ["world.#"]) (bytesOf "world.block") ≤ 1
    decide +kernel
  · intro publishing _ _
    rfl

def twoSubscriptions : List DeliveryInput :=
  [.publish (subscribedTo ["world.#", "world.block"]) (bytesOf "world.block") [7],
    .select 0 .send, .select 0 .send]

theorem two_subscriptions_duplicate : ¬ ((machine 1).final {} twoSubscriptions).Accounted := by
  intro accounted
  have once := (accounted.order .normal).nodup
  revert once
  decide +kernel

theorem evicted_not_accounted (tidy : state.Tidy) (pick : SelectCase)
    (found : state.publishing.lookup began = some publishing) (evicts : publishing.stage = .evict)
    {old : Entry} (holds : state.queued publishing.prio = old :: buffer) :
    ¬ (state.select began pick).Accounted := by
  intro accounted
  have evicted := publishSelect_of_evict _ tidy.connected holds
    ⟨began, state.clock, publishing.topic, publishing.data⟩ evicts pick
  have evicting := select_of_goesOn pick found evicted
  have sum : (state.select began pick).queuedTotal + (state.queued publishing.prio).length =
      state.queuedTotal + buffer.length := by
    rw [evicting]
    exact queuedTotal_of_one (buffer_setCh _ _ _)
  have total := accounted.total
  rw [holds, length_cons] at sum
  rw [evicting] at sum total
  change state.client.delivered.length + queuedTotal _ + state.client.dropped +
    (insert began _ state.publishing).entries.length = state.matched.length at total
  rw [length_insert_again _ found, ← tidy.total] at total
  omega

def block : DeliveryInput := .publish (subscribedTo ["world.#"]) (bytesOf "world.block") [7]

def fill : Nat → List DeliveryInput
  | 0 => []
  | count + 1 => fill count ++ [block, .select (2 * count) .send]

structure Filled (count : Nat) (state : Delivery) : Prop where
  tidy : state.Tidy
  clock : state.clock = 2 * count
  idle : state.publishing = ∅
  full : (state.queued .normal).length = count

def offered : Publishing := ⟨bytesOf "world.block", [7], 1, .offer⟩

theorem matchCount_block : matchCount 1 (subscribedTo ["world.#"]) (bytesOf "world.block") = 1 := by
  decide +kernel

theorem prio_offered : offered.prio = .normal := by
  decide +kernel

variable {count : Nat}

theorem handle_block (filled : Filled count state) :
    state.handle 1 block =
      { state with
        clock := 2 * count + 1
        publishing := insert (2 * count) offered ∅
        matched := state.matched ++ [(2 * count, bytesOf "world.block")] } := by
  unfold handle block
  unfold Delivery.publish
  dsimp only
  rw [matchCount_block, if_neg Nat.one_ne_zero, filled.clock, filled.idle]
  rfl

theorem lookup_offered (key : Nat) (publishing : Publishing) :
    lookup key (insert key publishing (∅ : Table Nat Publishing)) = some publishing :=
  lookup_insert_self _ _ _

theorem Filled.block (filled : Filled count state) : (state.handle 1 block).Tidy :=
  filled.tidy.handle (le_of_eq matchCount_block)

theorem filled_round (filled : Filled count state) (room : count < sendChSize) :
    Filled (count + 1) ((state.handle 1 block).handle 1 (.select (2 * count) .send)) := by
  have tidy := filled.block
  rw [handle_block filled] at tidy ⊢
  have found := lookup_offered (2 * count) offered
  have held : (state.queued offered.prio).length = count := by
    rw [prio_offered]
    exact filled.full
  have sends := tidy.select_sent .send found nofun (held.trans_lt room)
  have next := tidy.handle (show Uncrowded 1 _ (.select (2 * count) .send) by
    intro publishing again evicts
    rw [found] at again
    rw [← Option.some.inj again] at evicts
    cases evicts)
  unfold handle at next ⊢
  dsimp only at next ⊢
  rw [sends] at next ⊢
  refine ⟨next, (Nat.mul_succ 2 count).symm, ?_, ?_⟩
  · apply ext
    exact kerase_cons_eq rfl
  rw [prio_offered]
  refine (congrArg length (buffer_setCh _ _ _ _)).trans ?_
  rw [if_pos rfl, length_append]
  exact congrArg (· + 1) filled.full

theorem filled_fill (count : Nat) (room : count ≤ sendChSize) :
    Filled count ((machine 1).final {} (fill count)) := by
  induction count with
  | zero => exact ⟨tidy_start, rfl, rfl, rfl⟩
  | succ count ih =>
    rw [fill, Machine.final_append]
    exact filled_round (ih (Nat.le_of_succ_le room)) room

def flood (count : Nat) : List DeliveryInput :=
  fill count ++ [block, .select (2 * count) .send, .select (2 * count) .evict]

theorem flood_not_accounted (count : Nat) (most : count = sendChSize) (some : 0 < count) :
    ¬ ((machine 1).final {} (flood count)).Accounted := by
  have filled := filled_fill count most.le
  rw [flood, Machine.final_append]
  generalize (machine 1).final {} (fill count) = state at filled
  change ¬ (((state.handle 1 block).handle 1 (.select (2 * count) .send)).handle 1
    (.select (2 * count) .evict)).Accounted
  have tidy := filled.block
  rw [handle_block filled] at tidy ⊢
  have found := lookup_offered (2 * count) offered
  have held : (state.queued offered.prio).length = count := by
    rw [prio_offered]
    exact filled.full
  have crowded := publishSelect_of_full _ tidy.connected (tidy.opened offered.prio)
    (held.trans most).not_lt
    ⟨2 * count, 2 * count + 1, offered.topic, offered.data⟩
    (show offered.stage ≠ .evict by rintro ⟨⟩) .send
  rw [show offered.stage = .offer from rfl, publishDefault,
    if_neg (by rw [prio_offered]; decide)] at crowded
  have goesOn := select_of_goesOn .send found crowded
  have evicting := (tidy.goOn found .evict (by rintro ⟨⟩)).tick
  obtain ⟨old, buffer, holds⟩ := exists_cons_of_length_pos (some.trans_eq held.symm)
  have again := lookup_insert_self
    (insert (2 * count) offered (∅ : Table Nat Publishing)) (2 * count)
    { offered with stage := .evict }
  have unaccounted := evicted_not_accounted evicting .evict again rfl holds
  unfold handle
  dsimp only
  rw [goesOn]
  exact fun accounted => unaccounted ⟨accounted.total, accounted.order, accounted.kept⟩

theorem crowding_breaks_accounts : ¬ ((machine 1).final {} (flood sendChSize)).Accounted ∧
      ¬ ((machine 1).final {} twoSubscriptions).Accounted :=
  ⟨flood_not_accounted sendChSize rfl (Nat.zero_lt_succ _), two_subscriptions_duplicate⟩

end Delivery

end GtnhPlatform.Router
