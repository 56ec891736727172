import GtnhPlatform.Client.BufferConvergence

namespace GtnhPlatform.Client

open List

def BufferEntry.posKey (entry : BufferEntry) : Nat := makeBlockPosKey entry.pos

def BufferEntry.inChunk (coord : ChunkCoord) (entry : BufferEntry) : Bool :=
  (entry.pos.x / 32, entry.pos.y / 32, entry.pos.z / 32) = (coord.x, coord.y, coord.z)

namespace ResourceBufferStateStore

variable (store : ResourceBufferStateStore)

def findAt (pos : BlockPos) : Option BufferEntry :=
  (store.posIndex.lookup (makeBlockPosKey pos)).bind fun port => store.entries.lookup port

def findAllAt (pos : BlockPos) : List BufferEntry :=
  store.entries.select fun _ entry => entry.posKey = makeBlockPosKey pos

/-- Every entry that goes takes what its position has in the index with it. -/
def clearChunk (coord : ChunkCoord) : ResourceBufferStateStore :=
  { store with
    entries := store.entries.filter fun _ entry => !entry.inChunk coord
    posIndex := (store.entries.select fun _ entry => entry.inChunk coord).foldl
      (fun index entry => index.erase entry.posKey) store.posIndex }

inductive StoreTurn where
  | update (queued : QueuedUpdate)
  | clearChunk (coord : ChunkCoord)

def turns : Machine ResourceBufferStateStore StoreTurn Unit where
  step store
    | .update queued => (store.applyQueued queued, [])
    | .clearChunk coord => (store.clearChunk coord, [])

def Finds : Prop := ∀ pos, ((store.findAt pos).isSome ↔ store.findAllAt pos ≠ []) ∧
    ∀ entry, store.findAt pos = some entry → entry ∈ store.findAllAt pos

structure Indexed : Prop where
  named : ∀ key port, store.posIndex.lookup key = some port →
    ∃ entry, store.entries.lookup port = some entry ∧ entry.posKey = key
  every : ∀ port entry, store.entries.lookup port = some entry →
    (store.posIndex.lookup entry.posKey).isSome

def Alone (port : BufferPortKey) (entry : BufferEntry) : Prop :=
  ∀ other present, store.entries.lookup other = some present → present.posKey = entry.posKey →
    other = port

/-- No tombstone, epoch or sequence stops it. -/
def TakesEffect (queued : QueuedUpdate) (current : BufferEntry) : Prop :=
  (∀ removal, store.removed.lookup queued.entry.key = some removal → removal < queued.entry.epoch) ∧
    current.epoch ≤ queued.entry.epoch ∧
    (queued.removed = false → queued.entry.epoch = current.epoch →
      current.sequence < queued.entry.sequence)

def Spares : StoreTurn → Prop
  | .update queued => ∀ current, store.entries.lookup queued.entry.key = some current →
      store.TakesEffect queued current →
      queued.removed = false ∧ queued.entry.posKey = current.posKey ∨
      if queued.removed = true ∨ current.epoch < queued.entry.epoch then
        store.Alone queued.entry.key current
      else store.posIndex.lookup current.posKey ≠ some queued.entry.key
  | .clearChunk coord => ∀ port entry other present, store.entries.lookup port = some entry →
      entry.inChunk coord = true → store.entries.lookup other = some present →
      present.posKey = entry.posKey → present.inChunk coord = true

variable {store} (indexed : store.Indexed)

theorem mem_findAllAt {pos : BlockPos} {entry : BufferEntry} : entry ∈ store.findAllAt pos ↔
    ∃ port, store.entries.lookup port = some entry ∧ entry.posKey = makeBlockPosKey pos := by
  simp only [findAllAt, Table.mem_select_iff, decide_eq_true_eq]

include indexed

theorem Indexed.finds : store.Finds := by
  intro pos
  have named (entry : BufferEntry) (found : store.findAt pos = some entry) :
      entry ∈ store.findAllAt pos := by
    obtain ⟨port, indexing, stored⟩ := Option.bind_eq_some_iff.mp found
    obtain ⟨_, stored', at_key⟩ := indexed.named _ port indexing
    cases stored.symm.trans stored'
    exact mem_findAllAt.mpr ⟨port, stored, at_key⟩
  refine ⟨⟨fun found => ?_, fun some => ?_⟩, named⟩
  · obtain ⟨entry, found⟩ := Option.isSome_iff_exists.mp found
    exact ne_nil_of_mem (named entry found)
  obtain ⟨entry, listed⟩ := exists_mem_of_ne_nil _ some
  obtain ⟨port, stored, at_key⟩ := mem_findAllAt.mp listed
  obtain ⟨port, indexing⟩ := Option.isSome_iff_exists.mp (indexed.every port entry stored)
  obtain ⟨named, stored, _⟩ := indexed.named _ port indexing
  rw [findAt, ← at_key, indexing]
  exact Option.isSome_iff_exists.mpr ⟨named, stored⟩

omit indexed

variable (store) in
inductive Turned (queued : QueuedUpdate) : Table Nat BufferPortKey → Table BufferPortKey BufferEntry →
    Prop where
  | still (stopped : ∀ current, store.entries.lookup queued.entry.key = some current →
      ¬store.TakesEffect queued current) : Turned queued store.posIndex store.entries
  | removes (current : BufferEntry) (effect : store.TakesEffect queued current)
      (stored : store.entries.lookup queued.entry.key = some current)
      (removed : queued.removed = true) :
      Turned queued (store.posIndex.erase current.posKey) (store.entries.erase queued.entry.key)
  | adds (fresh : store.entries.lookup queued.entry.key = none) :
      Turned queued (AList.insert queued.entry.posKey queued.entry.key store.posIndex)
        (AList.insert queued.entry.key queued.entry store.entries)
  | renews (current : BufferEntry) (effect : store.TakesEffect queued current)
      (stored : store.entries.lookup queued.entry.key = some current)
      (live : queued.removed = false) (newer : current.epoch < queued.entry.epoch) :
      Turned queued (AList.insert queued.entry.posKey queued.entry.key
          (store.posIndex.erase current.posKey))
        (AList.insert queued.entry.key queued.entry store.entries)
  | moves (current : BufferEntry) (effect : store.TakesEffect queued current)
      (stored : store.entries.lookup queued.entry.key = some current)
      (live : queued.removed = false) (same : ¬current.epoch < queued.entry.epoch) :
      Turned queued (AList.insert queued.entry.posKey queued.entry.key store.posIndex)
        (AList.insert queued.entry.key queued.entry store.entries)

theorem turned_applyLive (queued : QueuedUpdate) (passes : ∀ removal,
    store.removed.lookup queued.entry.key = some removal → removal < queued.entry.epoch)
    (removed : Table BufferPortKey Nat) :
    store.Turned queued (applyLive { store with removed := removed } queued).posIndex
      (applyLive { store with removed := removed } queued).entries := by
  unfold applyLive
  cases gone : queued.removed with
  | true =>
    rw [if_pos rfl, applyRemoval]
    cases stored : store.entries.lookup queued.entry.key with
    | none => exact .still fun _ some => absurd (stored.symm.trans some) nofun
    | some current =>
      dsimp only
      split
      · next stale =>
        refine .still fun other some effect => ?_
        cases stored.symm.trans some
        exact absurd effect.2.1 (Nat.not_le.mpr stale)
      · next due =>
        refine .removes current ⟨passes, Nat.not_lt.mp due, fun live => ?_⟩ stored gone
        exact absurd (gone.symm.trans live) nofun
  | false =>
    rw [if_neg Bool.false_ne_true, applyUpdate]
    cases stored : store.entries.lookup queued.entry.key with
    | none => exact .adds stored
    | some current =>
      dsimp only
      split
      · next stale =>
        refine .still fun other some effect => ?_
        cases stored.symm.trans some
        exact absurd effect.2.1 (Nat.not_le.mpr stale)
      · next due =>
        split
        · next old =>
          refine .still fun other some effect => ?_
          cases stored.symm.trans some
          exact absurd (effect.2.2 gone old.1) (Nat.not_lt.mpr old.2)
        · next new =>
          have effect : store.TakesEffect queued current :=
            ⟨passes, Nat.not_lt.mp due, fun _ same => Nat.not_le.mp fun old => new ⟨same, old⟩⟩
          split
          · next newer => exact .renews current effect stored gone newer
          · next same => exact .moves current effect stored gone same

theorem turned_applyQueued (queued : QueuedUpdate) :
    store.Turned queued (store.applyQueued queued).posIndex (store.applyQueued queued).entries := by
  rw [applyQueued]
  split
  · next removal buried =>
    split
    · next stopped =>
      exact .still fun _ _ effect => absurd (effect.1 removal buried) (Nat.not_lt.mpr stopped)
    rename_i passes
    refine turned_applyLive queued (fun other found => ?_) _
    cases buried.symm.trans found
    exact Nat.not_le.mp passes
  · next none =>
    exact turned_applyLive queued (fun _ found => absurd (none.symm.trans found) nofun) _

theorem not_finds_of_unindexed {port : BufferPortKey} {entry : BufferEntry}
    (stored : store.entries.lookup port = some entry)
    (unindexed : store.posIndex.lookup entry.posKey = none) : ¬store.Finds := by
  intro finds
  have listed : entry ∈ store.findAllAt entry.pos := mem_findAllAt.mpr ⟨port, stored, rfl⟩
  have found := (finds entry.pos).1.mpr (ne_nil_of_mem listed)
  rw [findAt, ← BufferEntry.posKey, unindexed] at found
  cases found

theorem not_finds_of_misnamed {port : BufferPortKey} {entry : BufferEntry} {pos : BlockPos}
    (named : store.posIndex.lookup (makeBlockPosKey pos) = some port)
    (stored : store.entries.lookup port = some entry)
    (apart : entry.posKey ≠ makeBlockPosKey pos) : ¬store.Finds := by
  intro finds
  have found : store.findAt pos = some entry := by
    rw [findAt, named]
    exact stored
  obtain ⟨_, _, at_key⟩ := mem_findAllAt.mp ((finds pos).2 entry found)
  exact apart at_key

theorem spares_of_finds_update (queued : QueuedUpdate) (finds : (store.applyQueued queued).Finds) :
    store.Spares (.update queued) := by
  intro current stored effect
  have turned := store.turned_applyQueued queued
  generalize store.applyQueued queued = next at turned finds
  obtain ⟨pending, entries, posIndex, removed⟩ := next
  cases turned with
  | still stopped => exact absurd effect (stopped current stored)
  | adds fresh => exact absurd (fresh.symm.trans stored) nofun
  | removes _ _ stored' gone =>
    cases stored.symm.trans stored'
    refine .inr ?_
    rw [if_pos (.inl gone)]
    intro other present listed shared
    by_contra apart
    refine not_finds_of_unindexed ((AList.lookup_erase_ne apart).trans listed) ?_ finds
    rw [shared]
    exact AList.lookup_erase _ _
  | renews _ _ stored' live newer =>
    cases stored.symm.trans stored'
    refine or_iff_not_imp_left.mpr fun leaves => ?_
    rw [if_pos (.inr newer)]
    intro other present listed shared
    by_contra apart
    refine not_finds_of_unindexed ((Table.lookup_insert_of_ne _ _ apart).trans listed) ?_ finds
    rw [shared]
    refine (Table.lookup_insert_of_ne _ _ fun same => leaves ⟨live, same.symm⟩).trans ?_
    exact AList.lookup_erase _ _
  | moves _ _ stored' live same =>
    cases stored.symm.trans stored'
    refine or_iff_not_imp_left.mpr fun leaves => ?_
    have apart : queued.entry.posKey ≠ current.posKey := fun same => leaves ⟨live, same⟩
    rw [if_neg (by rw [live]; simpa using same)]
    intro named
    have kept := (Table.lookup_insert_of_ne store.posIndex queued.entry.key apart.symm).trans named
    rw [BufferEntry.posKey] at kept
    exact not_finds_of_misnamed kept (AList.lookup_insert _) apart finds

theorem indexed_insert {index : Table Nat BufferPortKey} {update : BufferEntry}
    (named : ∀ key port, index.lookup key = some port → key ≠ update.posKey →
      port ≠ update.key ∧ ∃ entry, store.entries.lookup port = some entry ∧ entry.posKey = key)
    (every : ∀ port entry, store.entries.lookup port = some entry → port ≠ update.key →
      entry.posKey ≠ update.posKey → (index.lookup entry.posKey).isSome)
    (pending : List QueuedUpdate) (removed : Table BufferPortKey Nat) :
    Indexed ⟨pending, AList.insert update.key update store.entries,
      AList.insert update.posKey update.key index, removed⟩ := by
  constructor
  · intro key port indexing
    rw [Table.lookup_insert_eq] at indexing
    split at indexing
    · next same =>
      cases indexing
      exact ⟨update, AList.lookup_insert _, same.symm⟩
    · next apart =>
      obtain ⟨other, entry, stored, at_key⟩ := named key port indexing apart
      exact ⟨entry, (Table.lookup_insert_of_ne _ _ other).trans stored, at_key⟩
  · intro port entry stored
    rw [Table.lookup_insert_eq] at stored ⊢
    split
    · rfl
    rename_i apart
    split at stored
    · cases stored
      exact absurd rfl apart
    · next other => exact every port entry stored other apart

theorem indexed_update (indexed : store.Indexed) (queued : QueuedUpdate)
    (spares : store.Spares (.update queued)) : (store.applyQueued queued).Indexed := by
  have turned := store.turned_applyQueued queued
  generalize store.applyQueued queued = next at turned
  obtain ⟨pending, entries, posIndex, removed⟩ := next
  cases turned with
  | still => exact ⟨indexed.named, indexed.every⟩
  | adds fresh =>
    refine indexed_insert (fun key port indexing _ => ?_)
      (fun port entry stored _ _ => indexed.every port entry stored) _ _
    obtain ⟨entry, stored, at_key⟩ := indexed.named key port indexing
    refine ⟨?_, entry, stored, at_key⟩
    rintro rfl
    exact absurd (fresh.symm.trans stored) nofun
  | removes current effect stored gone =>
    have alone := (spares current stored effect).resolve_left fun live => by simp [gone] at live
    rw [if_pos (.inl gone)] at alone
    constructor
    · intro key port indexing
      replace indexing := (Table.lookup_erase_eq _ _ _).symm.trans indexing
      split at indexing
      · cases indexing
      rename_i apart
      obtain ⟨entry, held, at_key⟩ := indexed.named key port indexing
      refine ⟨entry, (AList.lookup_erase_ne ?_).trans held, at_key⟩
      rintro rfl
      cases stored.symm.trans held
      exact apart at_key.symm
    · intro port entry held
      replace held := (Table.lookup_erase_eq _ _ _).symm.trans held
      split at held
      · cases held
      rename_i other
      have apart : entry.posKey ≠ current.posKey := fun shared => other (alone port entry held shared)
      refine (congrArg Option.isSome (AList.lookup_erase_ne apart)).trans ?_
      exact indexed.every port entry held
  | renews current effect stored live newer =>
    have alone := spares current stored effect
    rw [if_pos (.inr newer)] at alone
    refine indexed_insert (fun key port indexing _ => ?_) (fun port entry held other apart => ?_) _ _
    · rw [Table.lookup_erase_eq] at indexing
      split at indexing
      · cases indexing
      rename_i left
      obtain ⟨entry, held, at_key⟩ := indexed.named key port indexing
      refine ⟨?_, entry, held, at_key⟩
      rintro rfl
      cases stored.symm.trans held
      exact left at_key.symm
    · rw [Table.lookup_erase_eq, if_neg]
      · exact indexed.every port entry held
      intro shared
      rcases alone with same | alone
      · exact apart (shared.trans same.2.symm)
      · exact other (alone port entry held shared)
  | moves current effect stored live same =>
    have unnamed := spares current stored effect
    rw [if_neg (by rw [live]; simpa using same)] at unnamed
    refine indexed_insert (fun key port indexing apart => ?_)
      (fun port entry stored _ _ => indexed.every port entry stored) _ _
    obtain ⟨entry, held, at_key⟩ := indexed.named key port indexing
    refine ⟨?_, entry, held, at_key⟩
    rintro rfl
    cases stored.symm.trans held
    subst at_key
    rcases unnamed with stays | unnamed
    · exact apart stays.2.symm
    · exact unnamed indexing

theorem lookup_foldl_erase (gone : List BufferEntry) (index : Table Nat BufferPortKey) (key : Nat)
    (port : BufferPortKey) :
    (gone.foldl (fun index entry => index.erase entry.posKey) index).lookup key = some port ↔
      index.lookup key = some port ∧ ∀ entry ∈ gone, entry.posKey ≠ key := by
  induction gone generalizing index with
  | nil => simp
  | cons entry rest ih =>
    rw [foldl_cons, ih, Table.lookup_erase_eq, forall_mem_cons, ← and_assoc]
    split
    · next here => simp [here]
    · next apart => simp [Ne.symm apart]

theorem lookup_clearChunk (store : ResourceBufferStateStore) (coord : ChunkCoord) :
    (∀ port entry, (store.clearChunk coord).entries.lookup port = some entry ↔
      store.entries.lookup port = some entry ∧ entry.inChunk coord = false) ∧
    ∀ key port, (store.clearChunk coord).posIndex.lookup key = some port ↔
      store.posIndex.lookup key = some port ∧ ∀ other entry, store.entries.lookup other = some entry →
        entry.inChunk coord = true → entry.posKey ≠ key := by
  constructor
  · intro port entry
    simp [clearChunk, Table.lookup_filter, Option.filter_eq_some_iff]
  intro key port
  rw [clearChunk, lookup_foldl_erase]
  simp only [Table.mem_select_iff, forall_exists_index, and_imp]
  rw [forall_comm]

theorem spares_of_finds_clearChunk (coord : ChunkCoord) (finds : (store.clearChunk coord).Finds) :
    store.Spares (.clearChunk coord) := by
  obtain ⟨entries, index⟩ := store.lookup_clearChunk coord
  intro port entry other present stored gone held shared
  by_contra stays
  refine not_finds_of_unindexed ((entries other present).mpr ⟨held, by simpa using stays⟩) ?_ finds
  refine Option.eq_none_iff_forall_ne_some.mpr fun named indexing => ?_
  exact ((index _ named).mp indexing).2 port entry stored gone shared.symm

theorem indexed_clearChunk (indexed : store.Indexed) (coord : ChunkCoord)
    (spares : store.Spares (.clearChunk coord)) : (store.clearChunk coord).Indexed := by
  obtain ⟨entries, index⟩ := store.lookup_clearChunk coord
  constructor
  · intro key port indexing
    obtain ⟨indexing, stays⟩ := (index key port).mp indexing
    obtain ⟨entry, stored, at_key⟩ := indexed.named key port indexing
    refine ⟨entry, (entries port entry).mpr ⟨stored, ?_⟩, at_key⟩
    exact Bool.eq_false_iff.mpr fun gone => stays port entry stored gone at_key
  · intro port entry stored
    obtain ⟨held, stays⟩ := (entries port entry).mp stored
    obtain ⟨named, indexing⟩ := Option.isSome_iff_exists.mp (indexed.every port entry held)
    refine Option.isSome_iff_exists.mpr ⟨named, (index _ named).mpr ⟨indexing, ?_⟩⟩
    intro other gone listed at_chunk shared
    exact absurd (spares other gone port entry listed at_chunk held shared.symm) (by simp [stays])

theorem finds_along_iff (inputs : List StoreTurn) :
    turns.Along (fun store turn => (turns.step store turn).1.Finds) {} inputs ↔
      turns.Along Spares {} inputs := by
  refine turns.along_congr_of (fun store turn indexed => ?_) (fun store turn indexed spares => ?_)
    (⟨nofun, nofun⟩ : Indexed {}) inputs
  · cases turn with
    | update queued => exact ⟨spares_of_finds_update queued,
        fun spares => (indexed_update indexed queued spares).finds⟩
    | clearChunk coord => exact ⟨spares_of_finds_clearChunk coord,
        fun spares => (indexed_clearChunk indexed coord spares).finds⟩
  · cases turn with
    | update queued => exact indexed_update indexed queued spares
    | clearChunk coord => exact indexed_clearChunk indexed coord spares

theorem applyPending_eq (store : ResourceBufferStateStore) :
    store.applyPending = turns.final { store with pending := [] } (store.pending.map .update) := by
  rw [applyPending]
  generalize { store with pending := [] } = current
  induction store.pending generalizing current with
  | nil => rfl
  | cons queued rest ih => exact ih _

def boilerPort (portId sequence : Nat) (removed : Bool) : StoreTurn :=
  .update ⟨⟨1, portId, 0, 0, 0, 0, 0, 0, sequence, ⟨0, 0, 0⟩⟩, removed⟩

theorem shared_position_lost : ¬∀ inputs : List StoreTurn,
    turns.Along (fun store turn => (turns.step store turn).1.Finds) {} inputs := by
  intro all
  obtain ⟨_, _, finds, _⟩ := all [boilerPort 1 1 false, boilerPort 2 1 false, boilerPort 2 2 true]
  exact absurd ((finds ⟨0, 0, 0⟩).1.mpr (by decide)) (by decide)

end ResourceBufferStateStore

end GtnhPlatform.Client
