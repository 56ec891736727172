import GtnhPlatform.Client.Coords
import GtnhPlatform.Data.Machine
import GtnhPlatform.Data.Register
import GtnhPlatform.Data.Table

namespace GtnhPlatform.Client

open Register List

structure WireBufferState where
  ownerId : Nat
  portId : Nat
  resourceKind : Nat
  resourceId : Nat
  amount : Int
  capacity : Int
  rate : Int
  epoch : Nat
  sequence : Nat
  pos : Option BlockPos
  removed : Bool

structure BufferEntry where
  ownerId : Nat
  portId : Nat
  resourceKind : Nat
  resourceId : Nat
  amount : Int
  capacity : Int
  rate : Int
  epoch : Nat
  sequence : Nat
  pos : BlockPos
  deriving DecidableEq

structure BufferPortKey where
  ownerId : Nat
  portId : Nat
  deriving DecidableEq

structure QueuedUpdate where
  entry : BufferEntry
  removed : Bool
  deriving DecidableEq

def BufferEntry.key (entry : BufferEntry) : BufferPortKey := ⟨entry.ownerId, entry.portId⟩

/-- `ResourceKind::ITEM`, the last kind. -/
def itemKind : Nat := 4

/-- The verifying parse. A payload that does not verify is no table. -/
def parseResourceBufferState (wire : Option WireBufferState) : Option QueuedUpdate :=
  match wire with
  | none => none
  | some state =>
    match state.pos with
    | none => none
    | some pos =>
      if itemKind < state.resourceKind then none
      else if state.amount < 0 ∨ state.capacity < 0 ∨ state.rate < 0 then none
      else
        some {
          entry := {
            ownerId := state.ownerId
            portId := state.portId
            resourceKind := state.resourceKind
            resourceId := state.resourceId
            amount := state.amount
            capacity := state.capacity
            rate := state.rate
            epoch := state.epoch
            sequence := state.sequence
            pos := pos }
          removed := state.removed }

structure ResourceBufferStateStore where
  pending : List QueuedUpdate := []
  entries : Table BufferPortKey BufferEntry := ∅
  posIndex : Table Nat BufferPortKey := ∅
  removed : Table BufferPortKey Nat := ∅

namespace ResourceBufferStateStore

variable (store : ResourceBufferStateStore)

def enqueue (payload : Option WireBufferState) : ResourceBufferStateStore :=
  match parseResourceBufferState payload with
  | none => store
  | some queued => { store with pending := store.pending ++ [queued] }

def apply (update : BufferEntry) : ResourceBufferStateStore :=
  { store with
    posIndex := AList.insert (makeBlockPosKey update.pos) update.key store.posIndex
    entries := AList.insert update.key update store.entries }

def unindex (entry : BufferEntry) : ResourceBufferStateStore :=
  { store with posIndex := store.posIndex.erase (makeBlockPosKey entry.pos) }

/-- A removal takes the entry away and leaves a tombstone, unless it is stale. -/
def applyRemoval (update : BufferEntry) : ResourceBufferStateStore :=
  match store.entries.lookup update.key with
  | some current =>
    if update.epoch < current.epoch then store
    else
      { store.unindex current with
        entries := store.entries.erase update.key
        removed := AList.insert update.key update.epoch store.removed }
  | none => { store with removed := AList.insert update.key update.epoch store.removed }

/-- An update takes effect when its epoch and sequence are current. -/
def applyUpdate (update : BufferEntry) : ResourceBufferStateStore :=
  match store.entries.lookup update.key with
  | some current =>
    if update.epoch < current.epoch then store
    else if update.epoch = current.epoch ∧ update.sequence ≤ current.sequence then store
    else if current.epoch < update.epoch then (store.unindex current).apply update
    else store.apply update
  | none => store.apply update

def applyLive (queued : QueuedUpdate) : ResourceBufferStateStore :=
  if queued.removed then store.applyRemoval queued.entry else store.applyUpdate queued.entry

/-- One turn of the loop over a batch: a tombstone stops what it covers, and goes when
the port is registered again. -/
def applyQueued (queued : QueuedUpdate) : ResourceBufferStateStore :=
  match store.removed.lookup queued.entry.key with
  | some removal =>
    if queued.entry.epoch ≤ removal then store
    else
      applyLive { store with removed := store.removed.erase queued.entry.key } queued
  | none => store.applyLive queued

def applyPending : ResourceBufferStateStore :=
  store.pending.foldl applyQueued { store with pending := [] }

end ResourceBufferStateStore

inductive BufferInput where
  | enqueue (payload : Option WireBufferState)
  | applyPending

namespace ResourceBufferStateStore

def machine : Machine ResourceBufferStateStore BufferInput Unit where
  step store
    | .enqueue payload => (store.enqueue payload, [])
    | .applyPending => (store.applyPending, [])

end ResourceBufferStateStore

def delivered (inputs : List BufferInput) : List QueuedUpdate := inputs.filterMap fun
    | .enqueue payload => parseResourceBufferState payload
    | .applyPending => none

structure Outlasts (messages : List QueuedUpdate) (key : BufferPortKey) (entry : BufferEntry) :
    Prop where
  port : entry.key = key
  member : ⟨entry, false⟩ ∈ messages
  newest : ∀ other ∈ messages, other.entry.key = key → other.removed = false →
    other.entry.epoch < entry.epoch ∨
      other.entry.epoch = entry.epoch ∧ other.entry.sequence ≤ entry.sequence
  outlives : ∀ other ∈ messages, other.entry.key = key → other.removed = true →
    other.entry.epoch < entry.epoch

def Distinguished (messages : List QueuedUpdate) : Prop :=
  ∀ first ∈ messages, ∀ second ∈ messages, first.entry.key = second.entry.key →
    first.entry.epoch = second.entry.epoch → first.entry.sequence = second.entry.sequence →
      first = second

namespace QueuedUpdate

def delivery (queued : QueuedUpdate) : Register.Delivery BufferEntry :=
  ⟨queued.entry, queued.removed⟩

end QueuedUpdate

def received (state : Register.State BufferEntry) (queued : QueuedUpdate) :
    Register.State BufferEntry :=
  Register.receive BufferEntry.epoch BufferEntry.sequence state queued.delivery

namespace ResourceBufferStateStore

def portState (store : ResourceBufferStateStore) (key : BufferPortKey) :
    Register.State BufferEntry :=
  match store.entries.lookup key with
  | some entry => .shown entry
  | none =>
    match store.removed.lookup key with
    | some epoch => .gone epoch
    | none => .absent

def Exclusive (store : ResourceBufferStateStore) : Prop :=
  ∀ key entry, store.entries.lookup key = some entry → store.removed.lookup key = none

/-- A turn treats the message as the register of its port would. -/
structure Refines (store : ResourceBufferStateStore) (queued : QueuedUpdate)
    (next : ResourceBufferStateStore) : Prop where
  exclusive : next.Exclusive
  port : ∀ key, next.portState key =
    if key = queued.entry.key then received (store.portState key) queued
    else store.portState key

variable {store next : ResourceBufferStateStore} {queued : QueuedUpdate}

variable (exclusive : store.Exclusive)

include exclusive

theorem refines_of_lookups (entries : ∀ key, key ≠ queued.entry.key → next.entries.lookup key = store.entries.lookup key)
    (removed : ∀ key, key ≠ queued.entry.key → next.removed.lookup key = store.removed.lookup key)
    (here : next.entries.lookup queued.entry.key = none ∨
      next.removed.lookup queued.entry.key = none) (state : next.portState queued.entry.key =
      received (store.portState queued.entry.key) queued) : Refines store queued next := by
  constructor
  · intro key entry found
    by_cases same : key = queued.entry.key
    · subst same
      apply here.resolve_left
      rw [found]
      exact Option.some_ne_none entry
    · rw [removed key same]
      rw [entries key same] at found
      exact exclusive key entry found
  · intro key
    by_cases same : key = queued.entry.key
    · subst same
      rw [if_pos rfl, state]
    · rw [if_neg same, portState, portState, entries key same, removed key same]

theorem refines_self (state : store.portState queued.entry.key =
      received (store.portState queued.entry.key) queued) : Refines store queued store := by
  refine ⟨exclusive, ?_⟩
  intro key
  split
  · next same => rw [same, ← state]
  · rfl

theorem refines_apply (free : store.removed.lookup queued.entry.key = none)
    (entries : next.entries = AList.insert queued.entry.key queued.entry store.entries)
    (removed : next.removed = store.removed)
    (state : .shown queued.entry = received (store.portState queued.entry.key) queued) :
    Refines store queued next := by
  apply refines_of_lookups exclusive
  · intro key other
    rw [entries, Table.lookup_insert_of_ne _ _ other]
  · intro key _
    rw [removed]
  · rw [removed]
    exact Or.inr free
  · rw [← state, portState, entries, Table.lookup_insert_self]

theorem refines_remove (entries : ∀ key, next.entries.lookup key =
      if key = queued.entry.key then none else store.entries.lookup key)
    (removed : next.removed = AList.insert queued.entry.key queued.entry.epoch store.removed)
    (state : .gone queued.entry.epoch = received (store.portState queued.entry.key) queued) :
    Refines store queued next := by
  apply refines_of_lookups exclusive
  · intro key other
    rw [entries, if_neg other]
  · intro key other
    rw [removed, Table.lookup_insert_of_ne _ _ other]
  · rw [entries, if_pos rfl]
    exact Or.inl rfl
  · rw [← state, portState, entries, if_pos rfl, removed, Table.lookup_insert_self]

omit exclusive

variable {key : BufferPortKey}

theorem portState_of_entry (found : store.entries.lookup key = some entry) :
    store.portState key = .shown entry := by
  rw [portState, found]

theorem portState_of_free (absent : store.entries.lookup key = none)
    (free : store.removed.lookup key = none) : store.portState key = .absent := by
  rw [portState, absent, free]

variable (exclusive : store.Exclusive)

include exclusive

theorem applyUpdate_refines (update : queued.removed = false)
    (free : store.removed.lookup queued.entry.key = none) :
    Refines store queued (store.applyUpdate queued.entry) := by
  unfold applyUpdate
  cases found : store.entries.lookup queued.entry.key with
  | none =>
    refine refines_apply exclusive free rfl rfl ?_
    rw [portState_of_free found free]
    simp [received, receive, accept, QueuedUpdate.delivery, update]
  | some current =>
    have state := portState_of_entry found
    dsimp only
    split
    · next stale =>
      apply refines_self exclusive
      rw [state]
      simp [received, receive, QueuedUpdate.delivery, update, stale]
    · next fresh =>
      split
      · next older =>
        apply refines_self exclusive
        rw [state]
        simp [received, receive, QueuedUpdate.delivery, update, older]
      · next newer =>
        have taken : Register.State.shown queued.entry =
            received (store.portState queued.entry.key) queued := by
          rw [state]
          simp only [received, receive, QueuedUpdate.delivery, update,
            Bool.false_eq_true, if_false, if_neg fresh, if_neg newer]
        split
        · exact refines_apply exclusive free rfl rfl taken
        · exact refines_apply exclusive free rfl rfl taken

theorem applyRemoval_refines (removal : queued.removed = true)
    (free : store.removed.lookup queued.entry.key = none) :
    Refines store queued (store.applyRemoval queued.entry) := by
  unfold applyRemoval
  cases found : store.entries.lookup queued.entry.key with
  | none =>
    refine refines_remove exclusive ?_ rfl ?_
    · intro key
      dsimp only
      split
      · next same => rw [same, found]
      · rfl
    · rw [portState_of_free found free]
      simp [received, receive, accept, QueuedUpdate.delivery, removal]
  | some current =>
    have state := portState_of_entry found
    dsimp only
    split
    · next stale =>
      apply refines_self exclusive
      rw [state]
      simp [received, receive, QueuedUpdate.delivery, removal, stale]
    · next covers =>
      refine refines_remove exclusive (Table.lookup_erase_eq store.entries _) rfl ?_
      rw [state]
      simp only [received, receive, QueuedUpdate.delivery, removal, if_true, if_neg covers]

theorem applyLive_refines (queued : QueuedUpdate)
    (free : store.removed.lookup queued.entry.key = none) :
    Refines store queued (store.applyLive queued) := by
  unfold applyLive
  split
  · next removal => exact applyRemoval_refines exclusive removal free
  · next update => exact applyUpdate_refines exclusive (Bool.eq_false_iff.mpr update) free

theorem applyQueued_refines (queued : QueuedUpdate) :
    Refines store queued (store.applyQueued queued) := by
  unfold applyQueued
  cases covered : store.removed.lookup queued.entry.key with
  | none => exact applyLive_refines exclusive queued covered
  | some removal =>
    have absent : store.entries.lookup queued.entry.key = none := by
      cases found : store.entries.lookup queued.entry.key with
      | none => rfl
      | some entry =>
        have free := exclusive _ entry found
        rw [covered] at free
        cases free
    have state : store.portState queued.entry.key = .gone removal := by
      rw [portState, absent, covered]
    dsimp only
    split
    · next stale =>
      apply refines_self exclusive
      rw [state]
      simp [received, receive, QueuedUpdate.delivery, stale]
    · next newer =>
      -- the tombstone is gone, and the message finds the port as if it were new
      have lifted : Exclusive { store with removed := store.removed.erase queued.entry.key } := by
        intro key entry found
        rw [Table.lookup_erase_eq, exclusive key entry found, ite_self]
      have free : (store.removed.erase queued.entry.key).lookup queued.entry.key = none := by
        rw [Table.lookup_erase_eq, if_pos rfl]
      have fresh : portState { store with
          removed := store.removed.erase queued.entry.key } queued.entry.key = .absent :=
        portState_of_free absent free
      have refines := applyLive_refines lifted queued free
      refine ⟨refines.exclusive, ?_⟩
      intro key
      rw [refines.port key]
      by_cases same : key = queued.entry.key
      · subst same
        rw [if_pos rfl, if_pos rfl, state, fresh]
        simp only [received, receive, QueuedUpdate.delivery]
        exact (if_neg newer).symm
      · rw [if_neg same, if_neg same, portState, portState]
        rw [Table.lookup_erase_eq, if_neg same]

omit exclusive

structure Applied (messages : List QueuedUpdate) (store : ResourceBufferStateStore) : Prop where
  exclusive : store.Exclusive
  ports : ∀ key, store.portState key =
    (messages.filter fun queued => queued.entry.key == key).foldl received .absent

variable {messages : List QueuedUpdate}

theorem Applied.turn (applied : store.Applied messages) (queued : QueuedUpdate) :
    (store.applyQueued queued).Applied (messages ++ [queued]) := by
  have refines := applyQueued_refines applied.exclusive queued
  refine ⟨refines.exclusive, ?_⟩
  intro key
  rw [refines.port, applied.ports, filter_append, foldl_append]
  by_cases same : key = queued.entry.key
  · subst same
    simp
  · have other : (queued.entry.key == key) = false := beq_eq_false_iff_ne.mpr (Ne.symm same)
    simp [same, other]

theorem Applied.batch (applied : store.Applied messages) (batch : List QueuedUpdate) :
    (batch.foldl applyQueued store).Applied (messages ++ batch) := by
  induction batch generalizing store messages with
  | nil =>
    rw [append_nil]
    exact applied
  | cons queued rest ih =>
    rw [append_cons]
    exact ih (applied.turn queued)

variable (store : ResourceBufferStateStore)

theorem applyUpdate_pending (update : BufferEntry) :
    (store.applyUpdate update).pending = store.pending := by
  unfold applyUpdate
  cases store.entries.lookup update.key with
  | none => rfl
  | some current =>
    dsimp only
    split
    · rfl
    · split
      · rfl
      · split <;> rfl

theorem applyLive_pending (queued : QueuedUpdate) :
    (store.applyLive queued).pending = store.pending := by
  unfold applyLive
  split
  · unfold applyRemoval
    split
    · split <;> rfl
    · rfl
  · exact store.applyUpdate_pending queued.entry

theorem applyQueued_pending (queued : QueuedUpdate) :
    (store.applyQueued queued).pending = store.pending := by
  unfold applyQueued
  split
  · split
    · rfl
    · exact applyLive_pending _ queued
  · exact store.applyLive_pending queued

theorem foldl_applyQueued_pending (batch : List QueuedUpdate) :
    (batch.foldl applyQueued store).pending = store.pending := by
  induction batch generalizing store with
  | nil => rfl
  | cons queued rest ih => exact (ih _).trans (applyQueued_pending store queued)

theorem applied_final (inputs : List BufferInput) :
    ∃ messages, (machine.final {} inputs).Applied messages ∧
      delivered inputs = messages ++ (machine.final {} inputs).pending := by
  induction inputs using reverseRecOn with
  | nil =>
    refine ⟨[], ⟨?_, ?_⟩, rfl⟩
    · intro key entry found
      cases found
    · intro key
      rfl
  | append_singleton inputs input ih =>
    obtain ⟨messages, applied, brought⟩ := ih
    rw [Machine.final_concat]
    generalize machine.final {} inputs = store at applied brought ⊢
    cases input with
    | enqueue payload =>
      refine ⟨messages, ?_, ?_⟩
      · simp only [machine, enqueue]
        split
        · exact applied
        · exact ⟨applied.exclusive, applied.ports⟩
      · simp only [delivered, filterMap_append, machine, enqueue] at brought ⊢
        rw [brought, append_assoc]
        cases parsed : parseResourceBufferState payload with
        | none => simp [parsed]
        | some queued => simp [parsed]
    | applyPending =>
      refine ⟨messages ++ store.pending, ?_, ?_⟩
      · have emptied : Applied messages { store with pending := [] } :=
          ⟨applied.exclusive, applied.ports⟩
        exact emptied.batch store.pending
      · simp only [delivered, filterMap_append, machine, applyPending] at brought ⊢
        rw [foldl_applyQueued_pending, brought]
        simp

theorem lookup_eq_some_iff (key : BufferPortKey) (entry : BufferEntry) :
    store.entries.lookup key = some entry ↔ store.portState key = .shown entry := by
  unfold portState
  cases store.entries.lookup key with
  | some current => simp
  | none => cases store.removed.lookup key <;> simp

def portMessages (messages : List QueuedUpdate) (key : BufferPortKey) :
    List (Register.Delivery BufferEntry) :=
  (messages.filter fun queued => queued.entry.key == key).map QueuedUpdate.delivery

theorem mem_portMessages_iff {delivery : Register.Delivery BufferEntry} :
    delivery ∈ portMessages messages key ↔
      ⟨delivery.value, delivery.removed⟩ ∈ messages ∧ delivery.value.key = key := by
  rw [portMessages, mem_map]
  constructor
  · rintro ⟨queued, member, rfl⟩
    obtain ⟨member, port⟩ := mem_filter.mp member
    exact ⟨member, beq_iff_eq.mp port⟩
  · rintro ⟨member, port⟩
    exact ⟨⟨delivery.value, delivery.removed⟩, mem_filter.mpr ⟨member, beq_iff_eq.mpr port⟩, rfl⟩

theorem survives_iff (messages : List QueuedUpdate) (key : BufferPortKey) (entry : BufferEntry) :
    Register.Survives BufferEntry.epoch BufferEntry.sequence (portMessages messages key) entry ↔
      Outlasts messages key entry := by
  constructor
  · intro survives
    obtain ⟨member, port⟩ := mem_portMessages_iff.mp survives.member
    refine ⟨port, member, ?_, ?_⟩
    · intro other listed same value
      exact survives.newest other.delivery (mem_portMessages_iff.mpr ⟨listed, same⟩) value
    · intro other listed same gone
      exact survives.outlives other.delivery (mem_portMessages_iff.mpr ⟨listed, same⟩) gone
  · intro outlasts
    refine ⟨mem_portMessages_iff.mpr ⟨outlasts.member, outlasts.port⟩, ?_, ?_⟩
    · intro other member value
      obtain ⟨listed, same⟩ := mem_portMessages_iff.mp member
      exact outlasts.newest _ listed same value
    · intro other member gone
      obtain ⟨listed, same⟩ := mem_portMessages_iff.mp member
      exact outlasts.outlives _ listed same gone

theorem lookup_entries_iff (distinct : Distinguished (delivered inputs)) (key : BufferPortKey)
    (entry : BufferEntry) :
    (machine.final {} (inputs ++ [.applyPending])).entries.lookup key = some entry ↔
      Outlasts (delivered inputs) key entry := by
  obtain ⟨messages, applied, brought⟩ := applied_final (inputs ++ [.applyPending])
  have emptied : (machine.final {} (inputs ++ [.applyPending])).pending = [] := by
    rw [Machine.final_concat]
    exact foldl_applyQueued_pending _ _
  have all : delivered (inputs ++ [.applyPending]) = delivered inputs := by
    simp [delivered]
  rw [emptied, all, append_nil] at brought
  subst brought
  have register : Register.Distinct BufferEntry.epoch BufferEntry.sequence
      (portMessages (delivered inputs) key) := by
    intro first member second other epochs sequences
    obtain ⟨listed, port⟩ := mem_portMessages_iff.mp member
    obtain ⟨listedToo, portToo⟩ := mem_portMessages_iff.mp other
    have same := distinct _ listed _ listedToo (port.trans portToo.symm) epochs sequences
    injection same with value removed
    cases first
    cases second
    rw [Register.Delivery.mk.injEq]
    exact ⟨value, removed⟩
  rw [lookup_eq_some_iff, applied.ports, ← survives_iff,
    ← foldl_receive_eq_shown_iff register, portMessages, foldl_map]
  rfl

/-- The store ends with the same entries however the messages come. -/
theorem entries_converge {inputs others : List BufferInput}
    (distinct : Distinguished (delivered inputs))
    (same : ∀ queued, queued ∈ delivered others ↔ queued ∈ delivered inputs) (key : BufferPortKey) :
    (machine.final {} (others ++ [.applyPending])).entries.lookup key =
        (machine.final {} (inputs ++ [.applyPending])).entries.lookup key ∧
      ∀ entry, (machine.final {} (inputs ++ [.applyPending])).entries.lookup key = some entry ↔
        Outlasts (delivered inputs) key entry := by
  refine ⟨?_, lookup_entries_iff distinct key⟩
  have distinctToo : Distinguished (delivered others) := by
    intro first member second other
    exact distinct first ((same first).mp member) second ((same second).mp other)
  have alike : ∀ entry, Outlasts (delivered others) key entry ↔
      Outlasts (delivered inputs) key entry := by
    intro entry
    constructor
    · intro outlasts
      exact ⟨outlasts.port, (same _).mp outlasts.member,
        fun other member => outlasts.newest other ((same other).mpr member),
        fun other member => outlasts.outlives other ((same other).mpr member)⟩
    · intro outlasts
      exact ⟨outlasts.port, (same _).mpr outlasts.member,
        fun other member => outlasts.newest other ((same other).mp member),
        fun other member => outlasts.outlives other ((same other).mp member)⟩
  ext entry
  rw [lookup_entries_iff distinctToo key, lookup_entries_iff distinct key, alike]

def boiler (epoch sequence : Nat) (amount : Int) (removed : Bool) : BufferInput :=
  .enqueue (some {
    ownerId := 42
    portId := 1
    resourceKind := 0
    resourceId := 64513
    amount := amount
    capacity := 1000
    rate := 20
    epoch := epoch
    sequence := sequence
    pos := some ⟨10, 64, -20⟩
    removed := removed })

theorem boiler_converges :
    (machine.final {} ([boiler 7 2 500 false, .applyPending, boiler 7 1 300 false,
        boiler 6 9 0 true] ++ [.applyPending])).entries.lookup ⟨42, 1⟩ =
      (machine.final {} ([boiler 6 9 0 true, boiler 7 1 300 false, .applyPending,
        boiler 7 2 500 false, boiler 7 1 300 false] ++ [.applyPending])).entries.lookup
          ⟨42, 1⟩ := by
  apply (entries_converge _ _ ⟨42, 1⟩).1
  · unfold Distinguished
    decide
  · intro queued
    simp [delivered, boiler, parseResourceBufferState, itemKind]
    tauto

end ResourceBufferStateStore

end GtnhPlatform.Client
