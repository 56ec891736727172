import GtnhPlatform.PipeNetwork.PortProjection

namespace GtnhPlatform.PipeNetwork

open GtnhPlatform.Common List Option

namespace PipeNetworkManager

inductive PortMessage where
  | register (port : ResourcePort)
  | remove (epoch : Nat)
  deriving DecidableEq

def deliver (key : PortKey) (manager : PipeNetworkManager) : PortMessage → PipeNetworkManager
  | .register port => (manager.registerPort port).1
  | .remove epoch => (manager.removePort key epoch).1

def deliverAll (key : PortKey) (manager : PipeNetworkManager) (messages : List PortMessage) :
    PipeNetworkManager :=
  messages.foldl (deliver key) manager

structure Generation where
  port : ResourcePort
  ended : Bool

def Generation.messages (generation : Generation) : List PortMessage := .register generation.port ::
    if generation.ended then [.remove generation.port.epoch] else []

structure PortHistory (key : PortKey) where
  generations : List Generation
  identity : ∀ generation ∈ generations, portKey generation.port = key
  increasing : generations.Pairwise fun older newer => older.port.epoch < newer.port.epoch

namespace PortHistory

variable {key : PortKey}

def messages (history : PortHistory key) : List PortMessage :=
  history.generations.flatMap Generation.messages

def Ended (history : PortHistory key) : Prop :=
  ∀ generation, history.generations.getLast? = some generation → generation.ended = true

instance (history : PortHistory key) : Decidable history.Ended := by
  unfold Ended
  infer_instance

end PortHistory

/-- A delivery of a history: every message arrives, in any order and any
number of times, and nothing else does. -/
structure Delivery {key : PortKey} (history : PortHistory key) where
  arrivals : List PortMessage
  complete : ∀ message, message ∈ arrivals ↔ message ∈ history.messages

def hold (held : Option Nat) : PortMessage → Option Nat
  | .register port => some (held.elim port.epoch fun epoch => max epoch port.epoch)
  | .remove epoch => if held = some epoch then none else held

def holdAll (messages : List PortMessage) : Option Nat := messages.foldl hold none

variable (messages : List PortMessage)

@[simp] theorem holdAll_concat (message : PortMessage) :
    holdAll (messages ++ [message]) = hold (holdAll messages) message := by
  simp [holdAll]

theorem exists_registered_of_held {messages : List PortMessage}
    (held : holdAll messages = some epoch) :
    ∃ port, .register port ∈ messages ∧ port.epoch = epoch := by
  induction messages using reverseRecOn generalizing epoch with
  | nil => cases held
  | append_singleton messages message ih =>
    have earlier : holdAll messages = some epoch →
        ∃ port, .register port ∈ messages ++ [message] ∧ port.epoch = epoch := by
      intro same
      obtain ⟨port, mem, equality⟩ := ih same
      exact ⟨port, mem_append_left _ mem, equality⟩
    rw [holdAll_concat] at held
    cases message with
    | register port =>
      have here : port.epoch = epoch → ∃ other, .register other ∈ messages ++ [.register port] ∧
            other.epoch = epoch := by
        intro equality
        exact ⟨port, mem_append_right _ mem_cons_self, equality⟩
      cases before : holdAll messages with
      | none =>
        rw [before] at held
        exact here (Option.some.inj held)
      | some current =>
        rw [before] at held
        have larger : max current port.epoch = epoch := Option.some.inj held
        rcases Nat.le_total port.epoch current with older | newer
        · exact earlier (by rw [before, ← larger, Nat.max_eq_left older])
        · exact here (by rw [← larger, Nat.max_eq_right newer])
    | remove removed =>
      rw [hold] at held
      split at held
      · cases held
      · exact earlier held

theorem holdAll_of_unremoved {messages : List PortMessage}
    (bounded : ∀ port, .register port ∈ messages → port.epoch ≤ newest)
    (kept : .remove newest ∉ messages)
    (registered : ∃ port, .register port ∈ messages ∧ port.epoch = newest) :
    holdAll messages = some newest := by
  induction messages using reverseRecOn with
  | nil =>
    obtain ⟨port, mem, _⟩ := registered
    cases mem
  | append_singleton messages message ih =>
    have bound : ∀ port, .register port ∈ messages → port.epoch ≤ newest :=
      fun port mem => bounded port (mem_append_left _ mem)
    have stays := ih bound (fun mem => kept (mem_append_left _ mem))
    rw [holdAll_concat]
    cases message with
    | register port =>
      have limit := bounded port (mem_append_right _ mem_cons_self)
      cases before : holdAll messages with
      | none =>
        have now : port.epoch = newest := by
          obtain ⟨other, mem, equality⟩ := registered
          rcases mem_append.mp mem with early | late
          · rw [stays ⟨other, early, equality⟩] at before
            cases before
          · cases mem_singleton.mp late
            exact equality
        simp [hold, now]
      | some current =>
        obtain ⟨other, mem, equality⟩ := exists_registered_of_held before
        have currentBound := bound other mem
        rcases eq_or_ne port.epoch newest with now | other'
        · simp only [hold, elim_some, Option.some.injEq]
          omega
        have held : holdAll messages = some newest := by
          apply stays
          obtain ⟨first, found, firstEpoch⟩ := registered
          rcases mem_append.mp found with early | late
          · exact ⟨first, early, firstEpoch⟩
          · cases mem_singleton.mp late
            exact absurd firstEpoch other'
        obtain rfl : newest = current := Option.some.inj (held.symm.trans before)
        simp only [hold, elim_some, Option.some.injEq]
        omega
    | remove removed =>
      have other : removed ≠ newest := by
        rintro rfl
        exact kept (mem_append_right _ mem_cons_self)
      have held : holdAll messages = some newest := by
        apply stays
        obtain ⟨port, mem, equality⟩ := registered
        rcases mem_append.mp mem with early | late
        · exact ⟨port, early, equality⟩
        · cases mem_singleton.mp late
      rw [held, hold, if_neg (by simpa using Ne.symm other)]

theorem foldl_hold_none_of_removals {messages : List PortMessage}
    (removals : ∀ port, .register port ∉ messages) : messages.foldl hold none = none := by
  induction messages with
  | nil => rfl
  | cons message rest ih =>
    cases message with
    | register port => exact absurd mem_cons_self (removals port)
    | remove epoch =>
      exact ih fun port mem => removals port (mem_cons_of_mem _ mem)

theorem foldl_hold_of_removals {messages : List PortMessage}
    (removals : ∀ port, .register port ∉ messages) (held : Nat) : messages.foldl hold (some held) =
      if .remove held ∈ messages then none else some held := by
  induction messages with
  | nil => rfl
  | cons message rest ih =>
    have only : ∀ port, .register port ∉ rest :=
      fun port mem => removals port (mem_cons_of_mem _ mem)
    cases message with
    | register port => exact absurd mem_cons_self (removals port)
    | remove epoch =>
      rw [foldl_cons, hold]
      rcases eq_or_ne held epoch with rfl | distinct
      · rw [if_pos rfl, foldl_hold_none_of_removals only, if_pos mem_cons_self]
      · rw [if_neg (by simpa using distinct), ih only]
        simp [distinct]

theorem exists_last_registration : (∀ port, .register port ∉ messages) ∨
      ∃ before port after, messages = before ++ .register port :: after ∧
        ∀ other, .register other ∉ after := by
  induction messages with
  | nil =>
    left
    intro port mem
    cases mem
  | cons message rest ih =>
    rcases ih with removals | ⟨before, port, after, split, last⟩
    · cases message with
      | register port => exact Or.inr ⟨[], port, rest, rfl, removals⟩
      | remove epoch =>
        left
        intro port mem
        rcases mem_cons.mp mem with here | there
        · cases here
        · exact removals port there
    · exact Or.inr ⟨message :: before, port, after, by rw [split]; rfl, last⟩

def LastRegistrationRemoved (messages : List PortMessage) : Prop :=
  ∀ before port after, messages = before ++ .register port :: after →
    (∀ other, .register other ∉ after) →
    .remove ((holdAll before).elim port.epoch fun epoch => max epoch port.epoch) ∈ after

theorem holdAll_last_registration {before after : List PortMessage} {port : ResourcePort}
    (last : ∀ other, .register other ∉ after) :
    holdAll (before ++ .register port :: after) =
      if .remove ((holdAll before).elim port.epoch fun epoch => max epoch port.epoch) ∈ after then
        none
      else some ((holdAll before).elim port.epoch fun epoch => max epoch port.epoch) := by
  rw [holdAll, foldl_append, foldl_cons]
  exact foldl_hold_of_removals last _

theorem holdAll_eq_none_iff : holdAll messages = none ↔ LastRegistrationRemoved messages := by
  constructor
  · rintro released before port after rfl last
    rw [holdAll_last_registration last] at released
    by_contra missing
    rw [if_neg missing] at released
    cases released
  · intro removed
    rcases exists_last_registration messages with removals | ⟨before, port, after, split, last⟩
    · exact foldl_hold_none_of_removals removals
    · have present := removed before port after split last
      rw [split, holdAll_last_registration last, if_pos present]

variable (manager : PipeNetworkManager)

theorem registerPort_ports (port : ResourcePort) : (manager.registerPort port).1.ports =
      if manager.acceptsPort port then AList.insert (portKey port) port manager.ports
      else manager.ports := by
  unfold registerPort
  split
  · exact projectNodeDomain_ports _ _ _
  · rfl

theorem removePort_ports (key : PortKey) (epoch : Nat) : (manager.removePort key epoch).1.ports =
      if key.portId ≠ 0 ∧ (manager.ports.lookup key).map (·.epoch) = some epoch then
        manager.ports.erase key else manager.ports := by
  unfold removePort
  by_cases named : key.portId = 0
  · simp [named]
  cases manager.ports.lookup key with
  | none => simp [named]
  | some port =>
    by_cases current : port.epoch = epoch
    · simp [named, current, erasePort]
    · simp [named, current]

variable {key : PortKey} {history : PortHistory key}

namespace PortHistory

theorem mem_messages_register : .register port ∈ history.messages ↔
      ∃ generation ∈ history.generations, generation.port = port := by
  simp only [messages, mem_flatMap, Generation.messages]
  constructor
  · rintro ⟨generation, mem, sent⟩
    rcases mem_cons.mp sent with same | later
    · exact ⟨generation, mem, (PortMessage.register.inj same).symm⟩
    · split at later
      · cases mem_singleton.mp later
      · cases later
  · rintro ⟨generation, mem, rfl⟩
    exact ⟨generation, mem, mem_cons_self⟩

theorem mem_messages_remove : .remove epoch ∈ history.messages ↔ ∃ generation ∈ history.generations,
        generation.port.epoch = epoch ∧ generation.ended = true := by
  simp only [messages, mem_flatMap, Generation.messages]
  constructor
  · rintro ⟨generation, mem, sent⟩
    rcases mem_cons.mp sent with same | later
    · cases same
    split at later
    · next ended =>
      exact ⟨generation, mem, (PortMessage.remove.inj (mem_singleton.mp later)).symm, ended⟩
    · cases later
  · rintro ⟨generation, mem, rfl, ended⟩
    refine ⟨generation, mem, mem_cons_of_mem _ ?_⟩
    rw [if_pos ended]
    exact mem_singleton.mpr rfl

theorem eq_of_epoch {first second : Generation} (firstMember : first ∈ history.generations)
    (secondMember : second ∈ history.generations) (epoch : first.port.epoch = second.port.epoch) :
    first = second := by
  have determined : history.generations.Pairwise fun older newer =>
      older.port.epoch = newer.port.epoch → older = newer := by
    apply history.increasing.imp
    intro older newer order same
    exact absurd same (Nat.ne_of_lt order)
  have flipped : history.generations.Pairwise (flip fun older newer : Generation =>
      older.port.epoch = newer.port.epoch → older = newer) := by
    apply history.increasing.imp
    intro older newer order same
    exact absurd same.symm (Nat.ne_of_lt order)
  exact determined.forall_of_forall_of_flip (fun _ _ _ => rfl) flipped
    firstMember secondMember epoch

end PortHistory

structure Follows (history : PortHistory key) (manager : PipeNetworkManager)
    (held : Option Nat) : Prop where
  epoch : (manager.ports.lookup key).map (·.epoch) = held
  known : ∀ port, manager.ports.lookup key = some port → .register port ∈ history.messages

variable {message : PortMessage}

theorem deliver_follows {manager : PipeNetworkManager} (named : key.portId ≠ 0)
    (follows : Follows history manager held) (sent : message ∈ history.messages) :
    Follows history (deliver key manager message) (hold held message) := by
  obtain ⟨epoch, known⟩ := follows
  cases message with
  | register port =>
    obtain ⟨generation, mem, rfl⟩ := PortHistory.mem_messages_register.mp sent
    have identity := history.identity generation mem
    have valid : generation.port.portId ≠ 0 := by
      rw [← identity] at named
      exact named
    have stored := registerPort_ports manager generation.port
    rw [identity] at stored
    cases before : manager.ports.lookup key with
    | none =>
      have accepts : manager.acceptsPort generation.port = true := by
        rw [acceptsPort, identity, before]
        simp [valid]
      rw [if_pos accepts] at stored
      rw [before] at epoch
      subst epoch
      constructor
      · simp [deliver, stored, hold]
      · intro port found
        simp only [deliver, stored, Table.lookup_insert_self, Option.some.injEq] at found
        exact found ▸ sent
    | some current =>
      rw [before] at epoch
      subst epoch
      by_cases stale : generation.port.epoch < current.epoch
      · have rejects : manager.acceptsPort generation.port = false := by
          rw [acceptsPort, identity, before]
          simp [stale]
        rw [rejects, if_neg (by decide)] at stored
        constructor
        · simp only [deliver, stored, before, hold, map_some, elim_some]
          rw [Nat.max_eq_left (Nat.le_of_lt stale)]
        · intro port found
          simp only [deliver, stored] at found
          exact known port found
      · have accepts : manager.acceptsPort generation.port = true := by
          rw [acceptsPort, identity, before]
          simp [valid, Nat.le_of_not_lt stale]
        rw [if_pos accepts] at stored
        constructor
        · simp only [deliver, stored, Table.lookup_insert_self, hold, map_some, elim_some]
          rw [Nat.max_eq_right (Nat.le_of_not_lt stale)]
        · intro port found
          simp only [deliver, stored, Table.lookup_insert_self, Option.some.injEq] at found
          exact found ▸ sent
  | remove removed =>
    have stored := removePort_ports manager key removed
    rw [epoch] at stored
    by_cases current : held = some removed
    · rw [if_pos ⟨named, current⟩] at stored
      constructor
      · simp [deliver, stored, hold, current]
      · intro port found
        simp only [deliver, stored, AList.lookup_erase] at found
        cases found
    · rw [if_neg (fun both => current both.2)] at stored
      constructor
      · simp only [deliver, stored, hold, if_neg current]
        exact epoch
      · intro port found
        simp only [deliver, stored] at found
        exact known port found

variable {arrivals : List PortMessage}

theorem deliverAll_follows {start : PipeNetworkManager} (absent : start.ports.lookup key = none)
    (named : key.portId ≠ 0) (sent : ∀ message ∈ arrivals, message ∈ history.messages) :
    Follows history (deliverAll key start arrivals) (holdAll arrivals) := by
  induction arrivals using reverseRecOn with
  | nil =>
    constructor
    · simp [deliverAll, absent, holdAll]
    · intro port found
      cases absent.symm.trans found
  | append_singleton arrivals message ih =>
    rw [holdAll_concat, deliverAll, foldl_append]
    apply deliver_follows named
    · exact ih fun earlier mem => sent earlier (mem_append_left _ mem)
    · exact sent message (mem_append_right _ mem_cons_self)

theorem lookup_eq_iff_of_follows {first second : PipeNetworkManager}
    (firstFollows : Follows history first held) (secondFollows : Follows history second other) :
    first.ports.lookup key = second.ports.lookup key ↔ held = other := by
  constructor
  · intro same
    rw [← firstFollows.epoch, ← secondFollows.epoch, same]
  intro same
  have epochs := firstFollows.epoch.trans (same.trans secondFollows.epoch.symm)
  cases firstFound : first.ports.lookup key with
  | none =>
    rw [firstFound, map_none, eq_comm, map_eq_none_iff] at epochs
    exact epochs.symm
  | some port =>
    rw [firstFound, map_some, eq_comm, map_eq_some_iff] at epochs
    obtain ⟨stored, secondFound, epoch⟩ := epochs
    obtain ⟨older, olderMember, rfl⟩ :=
      PortHistory.mem_messages_register.mp (firstFollows.known _ firstFound)
    obtain ⟨newer, newerMember, rfl⟩ :=
      PortHistory.mem_messages_register.mp (secondFollows.known _ secondFound)
    rw [secondFound, PortHistory.eq_of_epoch newerMember olderMember epoch]

theorem deliver_lookup_of_ne (sent : message ∈ history.messages) (distinct : other ≠ key) :
    (deliver key manager message).ports.lookup other = manager.ports.lookup other := by
  cases message with
  | register port =>
    obtain ⟨generation, mem, rfl⟩ := PortHistory.mem_messages_register.mp sent
    rw [deliver, registerPort_ports, history.identity generation mem]
    split
    · exact Table.lookup_insert_of_ne _ _ distinct
    · rfl
  | remove epoch =>
    rw [deliver, removePort_ports]
    split
    · exact AList.lookup_erase_ne distinct
    · rfl

theorem deliver_of_unnamed (unnamed : key.portId = 0) (sent : message ∈ history.messages) :
    deliver key manager message = manager := by
  cases message with
  | register port =>
    obtain ⟨generation, mem, rfl⟩ := PortHistory.mem_messages_register.mp sent
    have invalid : generation.port.portId = 0 := by
      rw [← history.identity generation mem] at unnamed
      exact unnamed
    simp [deliver, registerPort, acceptsPort, invalid]
  | remove epoch => simp [deliver, removePort, unnamed]

theorem deliverAll_invariant {manager : PipeNetworkManager}
    (holds : PipeNetworkManager → Prop) (initially : holds manager)
    (keeps : ∀ current message, message ∈ arrivals → holds current →
      holds (deliver key current message)) : holds (deliverAll key manager arrivals) := by
  induction arrivals generalizing manager with
  | nil => exact initially
  | cons message rest ih =>
    apply ih (keeps manager message mem_cons_self initially)
    intro current later mem
    exact keeps current later (mem_cons_of_mem _ mem)

theorem PortHistory.exists_last (history : PortHistory key)
    (registered : history.generations ≠ []) :
    ∃ earlier last, history.generations = earlier ++ [last] ∧ (history.Ended ↔ last.ended = true) ∧
      ∀ generation ∈ history.generations, generation.port.epoch ≤ last.port.epoch := by
  rcases eq_nil_or_concat history.generations with empty | ⟨earlier, last, split⟩
  · exact absurd empty registered
  rw [concat_eq_append] at split
  refine ⟨earlier, last, split, by simp [Ended, split], ?_⟩
  have order := history.increasing
  rw [split, pairwise_append] at order
  intro generation mem
  rw [split] at mem
  rcases mem_append.mp mem with before | final
  · exact Nat.le_of_lt (order.2.2 generation before last mem_cons_self)
  · rw [mem_singleton.mp final]

theorem exists_held_of_not_ended (standing : ¬ history.Ended) :
    ∃ newest, ∀ arrivals : List PortMessage,
      (∀ message, message ∈ arrivals ↔ message ∈ history.messages) →
        holdAll arrivals = some newest := by
  have registered : history.generations ≠ [] := by
    intro empty
    apply standing
    intro generation final
    rw [empty] at final
    cases final
  obtain ⟨earlier, last, split, ended, newest⟩ := history.exists_last registered
  rw [ended] at standing
  have mem : last ∈ history.generations := by
    rw [split]
    exact mem_append_right _ mem_cons_self
  refine ⟨last.port.epoch, ?_⟩
  intro arrivals complete
  apply holdAll_of_unremoved
  · intro port sent
    obtain ⟨generation, place, rfl⟩ := PortHistory.mem_messages_register.mp ((complete _).mp sent)
    exact newest generation place
  · intro sent
    obtain ⟨generation, place, epoch, closed⟩ :=
      PortHistory.mem_messages_remove.mp ((complete _).mp sent)
    obtain rfl := PortHistory.eq_of_epoch place mem epoch
    exact standing closed
  · exact ⟨last.port,
      (complete _).mpr (PortHistory.mem_messages_register.mpr ⟨last, mem, rfl⟩), rfl⟩

theorem holdAll_messages_of_ended (ended : history.Ended) : holdAll history.messages = none := by
  rcases eq_or_ne history.generations [] with empty | registered
  · rw [PortHistory.messages, empty]
    rfl
  obtain ⟨earlier, last, split, closes, newest⟩ := history.exists_last registered
  rw [closes] at ended
  have messages : history.messages = earlier.flatMap Generation.messages ++
      .register last.port :: [.remove last.port.epoch] := by
    rw [PortHistory.messages, split, flatMap_append, flatMap_singleton,
      Generation.messages, if_pos ended]
  have current : (holdAll (earlier.flatMap Generation.messages)).elim last.port.epoch
      (fun epoch => max epoch last.port.epoch) = last.port.epoch := by
    cases before : holdAll (earlier.flatMap Generation.messages) with
    | none => rfl
    | some epoch =>
      obtain ⟨port, mem, rfl⟩ := exists_registered_of_held before
      have known : .register port ∈ history.messages := by
        rw [messages]
        exact mem_append_left _ mem
      obtain ⟨generation, place, rfl⟩ := PortHistory.mem_messages_register.mp known
      exact Nat.max_eq_right (newest generation place)
  rw [messages, holdAll_last_registration (by simp), current]
  exact if_pos mem_cons_self

def Converges (start : PipeNetworkManager) (delivery : Delivery history) : Prop :=
  ∀ other, (deliverAll key start delivery.arrivals).ports.lookup other =
    (deliverAll key start history.messages).ports.lookup other

theorem converges_iff {start : PipeNetworkManager} (absent : start.ports.lookup key = none)
    (delivery : Delivery history) : Converges start delivery ↔
      key.portId = 0 ∨ ¬ history.Ended ∨ LastRegistrationRemoved delivery.arrivals := by
  have sent : ∀ message ∈ delivery.arrivals, message ∈ history.messages :=
    fun message => (delivery.complete message).mp
  rcases eq_or_ne key.portId 0 with unnamed | named
  · refine iff_of_true ?_ (Or.inl unnamed)
    have idle : ∀ arrivals : List PortMessage, (∀ message ∈ arrivals, message ∈ history.messages) →
        deliverAll key start arrivals = start := by
      intro arrivals known
      apply deliverAll_invariant (fun manager => manager = start) rfl
      rintro current message mem rfl
      exact deliver_of_unnamed current unnamed (known message mem)
    intro other
    rw [idle delivery.arrivals sent, idle history.messages fun _ mem => mem]
  · have arrived := deliverAll_follows absent named sent
    have ordered := deliverAll_follows absent named fun message mem =>
      (mem : message ∈ history.messages)
    have others : ∀ arrivals : List PortMessage,
        (∀ message ∈ arrivals, message ∈ history.messages) → ∀ other ≠ key,
          (deliverAll key start arrivals).ports.lookup other = start.ports.lookup other := by
      intro arrivals known other distinct
      apply deliverAll_invariant
        (fun manager => manager.ports.lookup other = start.ports.lookup other) rfl
      intro current message mem same
      rw [deliver_lookup_of_ne current (known message mem) distinct, same]
    have atKey : Converges start delivery ↔ holdAll delivery.arrivals = holdAll history.messages := by
      rw [← lookup_eq_iff_of_follows arrived ordered]
      constructor
      · intro converges
        exact converges key
      intro same other
      rcases eq_or_ne other key with rfl | distinct
      · exact same
      · rw [others _ sent other distinct, others _ (fun _ mem => mem) other distinct]
    rw [atKey, ← holdAll_eq_none_iff]
    by_cases ended : history.Ended
    · rw [holdAll_messages_of_ended ended]
      simp [named, ended]
    · refine iff_of_true ?_ (Or.inr (Or.inl ended))
      obtain ⟨newest, holds⟩ := exists_held_of_not_ended ended
      rw [holds delivery.arrivals delivery.complete, holds history.messages fun _ => Iff.rfl]

def endedHistory : PortHistory ⟨1, .fluid, 258⟩ where
  generations := [⟨movedPort 0 1, true⟩]
  identity := by decide
  increasing := pairwise_singleton _ _

def lateDuplicate : Delivery endedHistory where
  arrivals := [.register (movedPort 0 1), .remove 1, .register (movedPort 0 1)]
  complete := by
    intro message
    have sent : endedHistory.messages = [.register (movedPort 0 1), .remove 1] := rfl
    simp only [sent, mem_cons, not_mem_nil, or_false]
    tauto

theorem late_registration_resurrects : ¬ Converges {} lateDuplicate := by
  intro converges
  have gone := converges ⟨1, .fluid, 258⟩
  revert gone
  decide

theorem converges_iff_lateDuplicate : Converges {} lateDuplicate ↔
      (258 : Nat) = 0 ∨ ¬ endedHistory.Ended ∨ LastRegistrationRemoved lateDuplicate.arrivals :=
  converges_iff rfl lateDuplicate

end PipeNetworkManager

end GtnhPlatform.PipeNetwork
