import GtnhPlatform.ChunkStore.BlockStore
import GtnhPlatform.ChunkStore.LmdbStore

namespace GtnhPlatform.ChunkStore.BlockStore

open AList Table List
open LmdbStore (WriteAnswers writeRaw)

def newest (state : BlockStore) (key : Int64) : Option (List UInt8) :=
  (state.pendingLmdb.lookup key).or ((state.cache.lookup key).map MutableChunk.encodeToWire)

def writeTo (answers : WriteAnswers) (state : BlockStore) (key : Int64) (data : List UInt8) :
    BlockStore × Bool :=
  if writeRaw answers then ({ state with stored := AList.insert key data state.stored }, true)
  else (state, false)

variable (writes : Int64 → WriteAnswers)

def tryFlushKey (state : BlockStore) (key : Int64) :
    BlockStore × Bool :=
  match state.pendingLmdb.lookup key with
  | some palette =>
    writeTo (writes key) { state with pendingLmdb := state.pendingLmdb.erase key } key palette
  | none =>
    match state.cache.lookup key with
    | none => (state, false)
    | some chunk => writeTo (writes key) state key chunk.encodeToWire

def tryFlushKeys (writes : Int64 → WriteAnswers) (state : BlockStore) :
    List Int64 → BlockStore × List Int64
  | [] => (state, [])
  | key :: rest =>
    let turn := state.tryFlushKey writes key
    let result := turn.1.tryFlushKeys writes rest
    (result.1, if turn.2 then key :: result.2 else result.2)

def tryFlush (state : BlockStore) : BlockStore × List Int64 :=
  tryFlushKeys writes { state with dirtyChunks := ∅ } state.dirtyChunks.keys

def KeepsFailed (state : BlockStore) : Prop :=
  (∀ key ∈ state.dirtyChunks.keys, key ∉ (state.tryFlush writes).2 →
    key ∈ (state.tryFlush writes).1.dirtyChunks.keys ∧
      (state.tryFlush writes).1.newest key = state.newest key) ∧
  ∀ working, (∀ key, writeRaw (working key) = true) → ∀ key ∈ state.dirtyChunks.keys,
    ((state.tryFlush writes).1.tryFlush working).1.stored.lookup key = state.newest key

variable {writes : Int64 → WriteAnswers} {state : BlockStore} {key : Int64}

theorem tryFlushKey_of_works (works : writeRaw (writes key) = true) :
    state.tryFlushKey writes key = state.flushKey key := by
  simp only [tryFlushKey, writeTo, if_pos works]
  rfl

theorem tryFlush_of_works (works : ∀ key, writeRaw (writes key) = true) :
    (state.tryFlush writes).1 = state.flushDirtyChunks.1 := by
  rw [tryFlush, flushDirtyChunks]
  generalize { state with dirtyChunks := ∅ } = start
  induction state.dirtyChunks.keys generalizing start with
  | nil => rfl
  | cons key rest ih =>
    rw [tryFlushKeys, flushKeys, tryFlushKey_of_works (works key)]
    exact ih _

theorem tryFlushKey_saves : (state.tryFlushKey writes key).2 = true ↔
      (state.newest key).isSome = true ∧ writeRaw (writes key) = true := by
  rw [tryFlushKey, newest]
  cases state.pendingLmdb.lookup key with
  | some palette => cases works : writeRaw (writes key) <;> simp [writeTo, works]
  | none =>
    cases state.cache.lookup key with
    | none => simp
    | some chunk => cases works : writeRaw (writes key) <;> simp [writeTo, works]

theorem tryFlushKey_stored (saves : (state.tryFlushKey writes key).2 = true) :
    (state.tryFlushKey writes key).1.stored.lookup key = state.newest key := by
  obtain ⟨found, works⟩ := tryFlushKey_saves.mp saves
  rw [tryFlushKey_of_works works, flushKey]
  rw [newest] at found ⊢
  cases pending : state.pendingLmdb.lookup key with
  | some palette => exact lookup_insert_self _ key palette
  | none =>
    cases cached : state.cache.lookup key with
    | none =>
      rw [pending, cached] at found
      exact Bool.noConfusion found
    | some chunk => exact lookup_insert_self _ key _

theorem writeTo_frame (other : Int64) (apart : other ≠ key) :
    (state.writeTo answers key data).1.newest other = state.newest other ∧
      (state.writeTo answers key data).1.stored.lookup other = state.stored.lookup other := by
  rw [writeTo]
  split
  · exact ⟨rfl, lookup_insert_of_ne _ _ apart⟩
  · exact ⟨rfl, rfl⟩

theorem writeTo_dirtyChunks :
    (state.writeTo answers key data).1.dirtyChunks = state.dirtyChunks := by
  rw [writeTo]
  split <;> rfl

theorem tryFlushKey_frame (other : Int64) (apart : other ≠ key) :
    (state.tryFlushKey writes key).1.newest other = state.newest other ∧
      (state.tryFlushKey writes key).1.stored.lookup other = state.stored.lookup other := by
  rw [tryFlushKey]
  cases state.pendingLmdb.lookup key with
  | some palette =>
    refine ⟨(writeTo_frame other apart).1.trans ?_, (writeTo_frame other apart).2⟩
    rw [newest, lookup_erase_eq, if_neg apart, newest]
  | none =>
    cases state.cache.lookup key with
    | none => exact ⟨rfl, rfl⟩
    | some chunk => exact writeTo_frame other apart

theorem tryFlushKey_dirtyChunks :
    (state.tryFlushKey writes key).1.dirtyChunks = state.dirtyChunks := by
  rw [tryFlushKey]
  cases state.pendingLmdb.lookup key with
  | some palette => exact writeTo_dirtyChunks
  | none =>
    cases state.cache.lookup key with
    | none => rfl
    | some chunk => exact writeTo_dirtyChunks

theorem tryFlushKeys_dirtyChunks (keys : List Int64) :
    (state.tryFlushKeys writes keys).1.dirtyChunks = state.dirtyChunks := by
  induction keys generalizing state with
  | nil => rfl
  | cons key rest ih => exact ih.trans tryFlushKey_dirtyChunks

variable {keys : List Int64}

theorem tryFlushKeys_frame (unlisted : key ∉ keys) :
    (state.tryFlushKeys writes keys).1.stored.lookup key = state.stored.lookup key := by
  induction keys generalizing state with
  | nil => rfl
  | cons first rest ih =>
    have apart := ne_of_not_mem_cons unlisted
    exact (ih (not_mem_of_not_mem_cons unlisted)).trans (tryFlushKey_frame key apart).2

theorem saved_listed (saved : key ∈ (state.tryFlushKeys writes keys).2) : key ∈ keys := by
  induction keys generalizing state with
  | nil => exact saved
  | cons first rest ih =>
    rw [tryFlushKeys] at saved
    split at saved
    · exact (mem_cons.mp saved).elim (fun same => same ▸ mem_cons_self)
        fun later => mem_cons_of_mem _ (ih later)
    · exact mem_cons_of_mem _ (ih saved)

theorem saved_iff (distinct : keys.Nodup) (listed : key ∈ keys) :
    (key ∈ (state.tryFlushKeys writes keys).2 ↔
      (state.newest key).isSome = true ∧ writeRaw (writes key) = true) ∧
    ((state.newest key).isSome = true → writeRaw (writes key) = true →
      (state.tryFlushKeys writes keys).1.stored.lookup key = state.newest key) := by
  induction keys generalizing state with
  | nil => exact absurd listed not_mem_nil
  | cons first rest ih =>
    obtain ⟨fresh, restDistinct⟩ := nodup_cons.mp distinct
    rw [tryFlushKeys]
    cases mem_cons.mp listed with
    | inl same =>
      subst same
      have unsaved : key ∉ ((state.tryFlushKey writes key).1.tryFlushKeys writes rest).2 :=
        fun mem => fresh (saved_listed mem)
      refine ⟨?_, fun found works => ?_⟩
      · rw [← tryFlushKey_saves]
        split
        · next saves => exact iff_of_true mem_cons_self saves
        · next fails => exact iff_of_false unsaved fails
      · rw [tryFlushKeys_frame fresh]
        exact tryFlushKey_stored (tryFlushKey_saves.mpr ⟨found, works⟩)
    | inr later =>
      have apart : key ≠ first := fun same => fresh (same ▸ later)
      obtain ⟨saves, stores⟩ := @ih (state.tryFlushKey writes first).1 restDistinct later
      rw [(tryFlushKey_frame key apart).1] at saves stores
      refine ⟨?_, stores⟩
      rw [← saves]
      split
      · rw [mem_cons, or_iff_right apart]
      · exact Iff.rfl

theorem keeps_failed_iff (writes : Int64 → WriteAnswers) (state : BlockStore) :
    state.KeepsFailed writes ↔ ∀ key ∈ state.dirtyChunks.keys,
        (state.newest key).isSome = true ∧ writeRaw (writes key) = true := by
  have cleared : (state.tryFlush writes).1.dirtyChunks = ∅ := tryFlushKeys_dirtyChunks _
  have saves : ∀ key ∈ state.dirtyChunks.keys, _ := fun key listed =>
    @saved_iff writes { state with dirtyChunks := ∅ } key _ state.dirtyChunks.keys_nodup listed
  constructor
  · rintro ⟨kept, -⟩ key listed
    refine (saves key listed).1.mp ?_
    by_contra unsaved
    have still := (kept key listed unsaved).1
    rw [cleared] at still
    exact absurd still not_mem_nil
  · intro all
    refine ⟨fun key listed unsaved => ?_, fun working _ key listed => ?_⟩
    · exact absurd ((saves key listed).1.mpr (all key listed)) unsaved
    have again : ((state.tryFlush writes).1.tryFlush working).1.stored =
        (state.tryFlush writes).1.stored := by
      rw [tryFlush, cleared]
      rfl
    rw [again]
    exact (saves key listed).2 (all key listed).1 (all key listed).2

def refused : TxnAnswers := ⟨true, fun _ => .error, true, true⟩

theorem unwritten_palette_lost :
    ¬∀ (writes : Int64 → WriteAnswers) (state : BlockStore), state.KeepsFailed writes := by
  intro always
  have kept := (always (fun _ => ⟨true, refused, refused⟩)
    ⟨∅, [], AList.insert 1 () ∅, AList.insert 1 [7] ∅, ∅⟩).1 1
  revert kept
  decide

end GtnhPlatform.ChunkStore.BlockStore
