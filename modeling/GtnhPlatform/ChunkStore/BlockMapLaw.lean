import GtnhPlatform.ChunkStore.BlockMap

namespace GtnhPlatform.ChunkStore

open MutableChunk Option Table Content List

namespace BlockStore

open MutableChunk (wireContent Decodes)

variable {named : Set ChunkCoord} {state next : BlockStore} {key : Int64} {known : Option Content} {chunk : MutableChunk}

structure Sound (state : BlockStore) : Prop where
  cached : ∀ key chunk, state.cache.lookup key = some chunk → chunk.Sound
  pooled : ∀ chunk ∈ state.pool, chunk.Sound
  pending : ∀ key palette, state.pendingLmdb.lookup key = some palette → Decodes palette
  stored : ∀ key wire, state.stored.lookup key = some wire → Decodes wire

structure KnownAt (state : BlockStore) (key : Int64) (known : Option Content) : Prop where
  cached : ∀ chunk, state.cache.lookup key = some chunk → known = some chunk.content
  pending : ∀ palette, state.pendingLmdb.lookup key = some palette → wireContent palette = known
  stored : state.cache.lookup key = none → (state.stored.lookup key).bind wireContent = known

structure Agrees (named : Set ChunkCoord) (state : BlockStore) (world : World) : Prop where
  sound : state.Sound
  known : ∀ c ∈ named, state.KnownAt (makeKey c) (world c)

structure SameAt (state next : BlockStore) (key : Int64) : Prop where
  cached : next.cache.lookup key = state.cache.lookup key
  pending : next.pendingLmdb.lookup key = state.pendingLmdb.lookup key
  stored : next.stored.lookup key = state.stored.lookup key

/-- An operation on one chunk, and what is known of it afterwards. -/
structure Settles (state next : BlockStore) (key : Int64) (known : Option Content) : Prop where
  sound : next.Sound
  known : next.KnownAt key known
  others : ∀ other, other ≠ key → state.SameAt next other

theorem SameAt.knownAt (same : state.SameAt next key) (knownAt : state.KnownAt key known) :
    next.KnownAt key known := by
  refine ⟨?_, ?_, ?_⟩
  · rw [same.cached]
    exact knownAt.cached
  · rw [same.pending]
    exact knownAt.pending
  · rw [same.cached, same.stored]
    exact knownAt.stored

theorem Settles.refl (sound : state.Sound) (knownAt : state.KnownAt key known) :
    state.Settles state key known :=
  ⟨sound, knownAt, fun _ _ => ⟨rfl, rfl, rfl⟩⟩

variable {world : World} {c : ChunkCoord}

theorem Settles.agrees (agrees : Agrees named state world) (apart : Set.InjOn makeKey named)
    (here : c ∈ named) (settles : state.Settles next (makeKey c) known) :
    Agrees named next (Function.update world c known) := by
  refine ⟨settles.sound, ?_⟩
  intro other there
  by_cases same : other = c
  · rw [same, Function.update_self]
    exact settles.known
  · have otherKey : makeKey other ≠ makeKey c := fun sameKey => same (apart there here sameKey)
    rw [Function.update_of_ne same]
    exact (settles.others _ otherKey).knownAt (agrees.known other there)

variable {wire : List UInt8}

theorem wireContent_of_decodes (decodes : Decodes wire) :
    ∃ content, wireContent wire = some content := by
  obtain ⟨decoded, reads, _⟩ := decodes
  exact ⟨decoded.content, by rw [wireContent, reads, map_some]⟩

variable (knownAt : state.KnownAt key known)

include knownAt

theorem KnownAt.of_pending (sound : state.Sound)
    (waits : state.pendingLmdb.lookup key = some palette) :
    ∃ content, known = some content ∧ wireContent palette = some content := by
  obtain ⟨content, reads⟩ := wireContent_of_decodes (sound.pending key palette waits)
  exact ⟨content, (knownAt.pending palette waits).symm.trans reads, reads⟩

theorem KnownAt.of_stored (sound : state.Sound)
    (uncached : state.cache.lookup key = none) (there : state.stored.lookup key = some wire) :
    ∃ decoded, fromWire wire = some decoded ∧ decoded.Sound ∧
      known = some decoded.content ∧ wireContent wire = some decoded.content := by
  obtain ⟨decoded, reads, decodedSound⟩ := sound.stored key wire there
  have content : wireContent wire = some decoded.content := by
    rw [wireContent, reads, map_some]
  refine ⟨decoded, reads, decodedSound, ?_, content⟩
  have same := knownAt.stored uncached
  rw [there, bind_some, content] at same
  exact same.symm

theorem KnownAt.of_absent (uncached : state.cache.lookup key = none) (absent : state.stored.lookup key = none) :
    known = none := by
  have same := knownAt.stored uncached
  rw [absent] at same
  exact same.symm

omit knownAt

section Pool

@[simp] theorem recycleCached_pendingLmdb :
    (state.recycleCached key).pendingLmdb = state.pendingLmdb := by
  unfold recycleCached recycle
  split
  · split <;> rfl
  · rfl

@[simp] theorem recycleCached_stored : (state.recycleCached key).stored = state.stored := by
  unfold recycleCached recycle
  split
  · split <;> rfl
  · rfl

theorem mem_recycleCached (mem : chunk ∈ (state.recycleCached key).pool) :
    state.cache.lookup key = some chunk ∨ chunk ∈ state.pool := by
  unfold recycleCached recycle at mem
  split at mem
  · next cached found =>
    split at mem
    · rcases mem_cons.mp mem with rfl | pooled
      · exact Or.inl found
      · exact Or.inr pooled
    · exact Or.inr mem
  · exact Or.inr mem

variable (sound : state.Sound)

include sound

theorem takeFromPool_sound : state.takeFromPool.Sound :=
  ⟨sound.cached, fun chunk mem => sound.pooled chunk (mem_of_mem_tail mem),
    sound.pending, sound.stored⟩

theorem nextChunk_sound : state.nextChunk.Sound := by
  unfold nextChunk
  cases pool : state.pool with
  | nil => exact empty_sound
  | cons first rest =>
    apply sound.pooled
    rw [pool]
    exact mem_cons_self

theorem recycleCached_pooled : ∀ chunk ∈ (state.recycleCached key).pool, chunk.Sound := by
  intro chunk mem
  rcases mem_recycleCached mem with cached | pooled
  · exact sound.cached key chunk cached
  · exact sound.pooled chunk pooled

theorem putCache_sound (chunkSound : chunk.Sound) : (state.putCache key chunk).Sound := by
  refine ⟨?_, recycleCached_pooled sound, ?_, ?_⟩
  · intro other cached found
    rw [putCache, lookup_insert_eq] at found
    split at found
    · exact Option.some.inj found ▸ chunkSound
    · exact sound.cached other cached found
  · rw [putCache, recycleCached_pendingLmdb]
    exact sound.pending
  · rw [putCache, recycleCached_stored]
    exact sound.stored

omit sound

theorem putCache_others (other : Int64) (apart : other ≠ key) :
    state.SameAt (state.putCache key chunk) other := by
  refine ⟨lookup_insert_of_ne _ _ apart, ?_, ?_⟩
  · rw [putCache, recycleCached_pendingLmdb]
  · rw [putCache, recycleCached_stored]

variable {fresh : Content}

theorem putCache_settles (sound : state.Sound) (knownAt : state.KnownAt key known)
    (chunkSound : chunk.Sound) (content : chunk.content = known.getD fresh) :
    state.Settles (state.putCache key chunk) key (some (known.getD fresh)) := by
  refine ⟨putCache_sound sound chunkSound, ⟨?_, ?_, ?_⟩, putCache_others⟩
  · intro cached found
    rw [putCache, lookup_insert_self] at found
    rw [← content, Option.some.inj found]
  · rw [putCache, recycleCached_pendingLmdb]
    intro palette waits
    obtain ⟨held, isKnown, reads⟩ := knownAt.of_pending sound waits
    rw [reads, isKnown, getD_some]
  · intro uncached
    rw [putCache, lookup_insert_self] at uncached
    cases uncached

theorem markDirty_settles (sound : next.Sound) (cached : next.cache.lookup key = some chunk)
    (others : ∀ other, other ≠ key → state.SameAt next other) :
    state.Settles (next.markDirty key) key (some chunk.content) := by
  have erased : ∀ {other palette}, (next.pendingLmdb.erase key).lookup other = some palette →
        other ≠ key ∧ next.pendingLmdb.lookup other = some palette := by
    intro other palette found
    rw [lookup_erase_eq] at found
    split at found
    · cases found
    · next apart => exact ⟨apart, found⟩
  refine ⟨⟨sound.cached, sound.pooled, ?_, sound.stored⟩, ⟨?_, ?_, ?_⟩, ?_⟩
  · intro other palette found
    exact sound.pending other palette (erased found).2
  · intro found isCached
    exact congrArg (Option.map content) (cached.symm.trans isCached)
  · intro palette found
    exact absurd rfl (erased found).1
  · intro uncached
    exact absurd (cached.symm.trans uncached) (some_ne_none chunk)
  intro other apart
  have same := others other apart
  refine ⟨same.cached, ?_, same.stored⟩
  rw [markDirty, lookup_erase_eq, if_neg apart]
  exact same.pending

theorem edit_settles (sound : state.Sound) (chunkSound : chunk.Sound) :
    state.Settles (markDirty { state with cache := AList.insert key chunk state.cache } key) key
      (some chunk.content) := by
  refine markDirty_settles ⟨?_, sound.pooled, sound.pending, sound.stored⟩
    (lookup_insert_self _ _ _) ?_
  · intro other cached found
    rw [lookup_insert_eq] at found
    split at found
    · exact Option.some.inj found ▸ chunkSound
    · exact sound.cached other cached found
  · intro other apart
    exact ⟨lookup_insert_of_ne _ _ apart, rfl, rfl⟩

theorem putCache_markDirty_settles (sound : state.Sound) (chunkSound : chunk.Sound) :
    state.Settles ((state.putCache key chunk).markDirty key) key (some chunk.content) :=
  markDirty_settles (putCache_sound sound chunkSound) (lookup_insert_self _ _ _)
    putCache_others

theorem Settles.fromPool (settles : state.takeFromPool.Settles next key known) :
    state.Settles next key known :=
  ⟨settles.sound, settles.known, fun other apart =>
    ⟨(settles.others other apart).cached, (settles.others other apart).pending,
      (settles.others other apart).stored⟩⟩

theorem load_settles (sound : state.Sound) (knownAt : state.KnownAt key known)
    (chunkSound : chunk.Sound) (content : chunk.content = known.getD fresh) :
    state.Settles (state.takeFromPool.putCache key chunk) key (some (known.getD fresh)) :=
  (putCache_settles (takeFromPool_sound sound) ⟨knownAt.cached, knownAt.pending, knownAt.stored⟩
    chunkSound content).fromPool

end Pool

theorem content_empty : empty.content = air := rfl

theorem getChunk_spec (sound : state.Sound) (knownAt : state.KnownAt (makeKey c) known)
    (starts : state.StartsAsAir c) :
    ∃ found, (state.getChunk c).2 = some found ∧ found.content = known.getD air ∧
      state.Settles (state.getChunk c).1 (makeKey c) (some (known.getD air)) := by
  rw [getChunk]
  cases cached : state.cache.lookup (makeKey c) with
  | some chunk =>
    have isKnown := knownAt.cached chunk cached
    refine ⟨chunk, rfl, ?_, ?_⟩
    · rw [isKnown, getD_some]
    · rw [isKnown] at knownAt ⊢
      exact Settles.refl sound knownAt
  | none =>
    cases stored : state.stored.lookup (makeKey c) with
    | none =>
      have content : state.nextChunk.content = known.getD air := by
        rw [knownAt.of_absent cached stored]
        exact starts cached stored
      exact ⟨state.nextChunk, rfl, content,
        load_settles sound knownAt (nextChunk_sound sound) content⟩
    | some wire =>
      obtain ⟨decoded, reads, decodedSound, isKnown, _⟩ := knownAt.of_stored sound cached stored
      have content : decoded.content = known.getD air := by
        rw [isKnown, getD_some]
      dsimp only
      rw [reads]
      exact ⟨decoded, rfl, content, load_settles sound knownAt decodedSound content⟩

theorem chunkAt_spec (sound : state.Sound) (knownAt : state.KnownAt key known) :
    (state.chunkAt key).Sound ∧ (state.chunkAt key).content = known.getD air := by
  rw [chunkAt]
  cases cached : state.cache.lookup key with
  | some chunk =>
    refine ⟨sound.cached key chunk cached, ?_⟩
    rw [knownAt.cached chunk cached, getD_some]
  | none =>
    cases stored : state.stored.lookup key with
    | none =>
      rw [knownAt.of_absent cached stored]
      exact ⟨empty_sound, content_empty⟩
    | some wire =>
      obtain ⟨decoded, reads, decodedSound, isKnown, _⟩ := knownAt.of_stored sound cached stored
      rw [bind_some, reads, isKnown]
      exact ⟨decodedSound, rfl⟩

variable {pos : BlockPos}

theorem setBlock_settles {id : UInt16} (value : UInt8) (leftover : MutableChunk)
    (sound : state.Sound) (knownAt : state.KnownAt (makeKey pos.chunkCoord) known)
    (takes : (state.chunkAt (makeKey pos.chunkCoord)).Takes pos.localPos id) :
    state.Settles (state.setBlock pos id value leftover) (makeKey pos.chunkCoord)
      (some (Function.update (known.getD air) pos.localPos (id, value))) := by
  obtain ⟨beforeSound, content⟩ := chunkAt_spec sound knownAt
  obtain ⟨afterSound, written⟩ := put_spec beforeSound takes value
  rw [← content, ← written]
  rw [setBlock]
  cases cached : state.cache.lookup (makeKey pos.chunkCoord) with
  | some chunk =>
    have same : state.chunkAt (makeKey pos.chunkCoord) = chunk := by
      rw [chunkAt, cached]
    rw [same] at afterSound ⊢
    exact edit_settles sound afterSound
  | none =>
    have same : state.localChunk (makeKey pos.chunkCoord) leftover =
        state.chunkAt (makeKey pos.chunkCoord) := by
      rw [chunkAt, cached, localChunk]
      cases stored : state.stored.lookup (makeKey pos.chunkCoord) with
      | none => rfl
      | some wire =>
        obtain ⟨decoded, reads, _⟩ := sound.stored _ wire stored
        dsimp only
        rw [bind_some, reads]
        rfl
    rw [same]
    exact (putCache_markDirty_settles (takeFromPool_sound sound) afterSound).fromPool

theorem casBlock_spec (newMeta : UInt8)
    (sound : state.Sound) (knownAt : state.KnownAt (makeKey pos.chunkCoord) known)
    (takes : (state.chunkAt (makeKey pos.chunkCoord)).getBlock pos.localPos = expectedId →
      (state.chunkAt (makeKey pos.chunkCoord)).Takes pos.localPos newId) :
    (known = none ∧ state.casBlock pos expectedId newId newMeta = (state, ⟨.conflict, 0, 0⟩)) ∨
    (∃ content, known = some content ∧ (content pos.localPos).1 ≠ expectedId ∧
      state.casBlock pos expectedId newId newMeta =
        (state, ⟨.conflict, (content pos.localPos).1, (content pos.localPos).2⟩)) ∨
    (∃ content, known = some content ∧ (content pos.localPos).1 = expectedId ∧
      (state.casBlock pos expectedId newId newMeta).2 = ⟨.ok, newId, newMeta⟩ ∧
        state.Settles (state.casBlock pos expectedId newId newMeta).1 (makeKey pos.chunkCoord)
          (some (Function.update content pos.localPos (newId, newMeta)))) := by
  obtain ⟨beforeSound, _⟩ := chunkAt_spec sound knownAt
  rw [casBlock]
  cases cached : state.cache.lookup (makeKey pos.chunkCoord) with
  | some chunk =>
    have same : state.chunkAt (makeKey pos.chunkCoord) = chunk := by
      rw [chunkAt, cached]
    rw [same] at beforeSound takes
    have isKnown := knownAt.cached chunk cached
    dsimp only
    by_cases finds : chunk.getBlock pos.localPos = expectedId
    · obtain ⟨afterSound, written⟩ := put_spec beforeSound (takes finds) newMeta
      rw [if_neg (not_not.mpr finds)]
      refine Or.inr (Or.inr ⟨chunk.content, isKnown, finds, rfl, ?_⟩)
      rw [← written]
      exact edit_settles sound afterSound
    · rw [if_pos finds]
      exact Or.inr (Or.inl ⟨chunk.content, isKnown, finds, rfl⟩)
  | none =>
    cases stored : state.stored.lookup (makeKey pos.chunkCoord) with
    | none => exact Or.inl ⟨knownAt.of_absent cached stored, rfl⟩
    | some wire =>
      obtain ⟨decoded, reads, decodedSound, isKnown, _⟩ := knownAt.of_stored sound cached stored
      have same : state.chunkAt (makeKey pos.chunkCoord) = decoded := by
        rw [chunkAt, cached]
        rw [stored, bind_some, reads, getD_some]
      rw [same] at takes
      dsimp only
      rw [reads]
      dsimp only
      by_cases finds : decoded.getBlock pos.localPos = expectedId
      · obtain ⟨afterSound, written⟩ := put_spec decodedSound (takes finds) newMeta
        rw [if_neg (not_not.mpr finds)]
        refine Or.inr (Or.inr ⟨decoded.content, isKnown, finds, rfl, ?_⟩)
        rw [← written]
        exact putCache_markDirty_settles sound afterSound
      · rw [if_pos finds]
        exact Or.inr (Or.inl ⟨decoded.content, isKnown, finds, rfl⟩)

theorem store_sound (sound : next.Sound) (decodes : Decodes wire) :
    Sound { next with stored := AList.insert key wire next.stored } := by
  refine ⟨sound.cached, sound.pooled, sound.pending, ?_⟩
  intro other written found
  rw [lookup_insert_eq] at found
  split at found
  · exact Option.some.inj found ▸ decodes
  · exact sound.stored other written found

theorem store_settles (sound : next.Sound) (decodes : Decodes wire)
    (cached : ∀ chunk, next.cache.lookup key = some chunk → known = some chunk.content)
    (pending : ∀ palette, next.pendingLmdb.lookup key = some palette → wireContent palette = known)
    (content : next.cache.lookup key = none → wireContent wire = known)
    (others : ∀ other, other ≠ key → state.SameAt next other) :
    state.Settles { next with stored := AList.insert key wire next.stored } key known := by
  refine ⟨store_sound sound decodes, ⟨cached, pending, ?_⟩, ?_⟩
  · intro uncached
    rw [lookup_insert_self, bind_some]
    exact content uncached
  · intro other apart
    have same := others other apart
    exact ⟨same.cached, same.pending, (lookup_insert_of_ne _ _ apart).trans same.stored⟩

theorem pending_settles {pendingLmdb : Table Int64 (List UInt8)} (sound : state.Sound)
    (knownAt : state.KnownAt key known)
    (here : ∀ palette, pendingLmdb.lookup key = some palette →
      Decodes palette ∧ wireContent palette = known)
    (others : ∀ other, other ≠ key → pendingLmdb.lookup other = state.pendingLmdb.lookup other) :
    state.Settles { state with pendingLmdb := pendingLmdb } key known := by
  refine ⟨⟨sound.cached, sound.pooled, ?_, sound.stored⟩,
    ⟨knownAt.cached, fun palette found => (here palette found).2, knownAt.stored⟩,
    fun other apart => ⟨rfl, others other apart, rfl⟩⟩
  intro other palette found
  by_cases same : other = key
  · exact (here palette (same ▸ found)).1
  · exact sound.pending other palette ((others other same).symm.trans found)

theorem dropPending_settles (sound : state.Sound) (knownAt : state.KnownAt key known) :
    state.Settles { state with pendingLmdb := state.pendingLmdb.erase key } key known := by
  apply pending_settles sound knownAt
  · intro palette found
    rw [lookup_erase_eq, if_pos rfl] at found
    cases found
  · intro other apart
    rw [lookup_erase_eq, if_neg apart]

variable {coord : ChunkCoord}

theorem saveChunk_settles (sound : state.Sound) (chunkSound : chunk.Sound)
    (cached : ∀ cached, state.cache.lookup (makeKey coord) = some cached →
      cached.content = chunk.content)
    (pending : ∀ palette, state.pendingLmdb.lookup (makeKey coord) = some palette →
      wireContent palette = some chunk.content)
    (storable : state.cache.lookup (makeKey coord) = none → chunk.Storable) :
    state.Settles (state.saveChunk chunk coord) (makeKey coord) (some chunk.content) := by
  apply store_settles sound (encode_decodes chunkSound)
  · intro other found
    rw [cached other found]
  · exact pending
  · exact fun uncached => wireContent_encode chunkSound (storable uncached)
  · exact fun _ _ => ⟨rfl, rfl, rfl⟩

variable (generateTerrain : ChunkCoord → Fin (SEC_VOL * SEC_CNT) → UInt16)

theorem asyncGetChunk_spec (sound : state.Sound)
    (knownAt : state.KnownAt (makeKey coord) known)
    (storable : ∀ cached, state.cache.lookup (makeKey coord) = some cached →
      state.pendingLmdb.lookup (makeKey coord) = none → cached.Storable) :
    (state.asyncGetChunk generateTerrain coord).2.bind wireContent =
        some (known.getD (ofBlocks (generateTerrain coord))) ∧
      state.Settles (state.asyncGetChunk generateTerrain coord).1 (makeKey coord)
        (some (known.getD (ofBlocks (generateTerrain coord)))) := by
  rw [asyncGetChunk]
  cases cached : state.cache.lookup (makeKey coord) with
  | some chunk =>
    have isKnown := knownAt.cached chunk cached
    rw [isKnown, getD_some]
    rw [isKnown] at knownAt
    cases pending : state.pendingLmdb.lookup (makeKey coord) with
    | some palette => exact ⟨knownAt.pending palette pending, dropPending_settles sound knownAt⟩
    | none =>
      have chunkSound := sound.cached _ chunk cached
      have content := wireContent_encode chunkSound
        (storable chunk cached pending)
      have placed := lookup_emplace_of_none chunk.encodeToWire pending
      refine ⟨content, pending_settles sound knownAt ?_ ?_⟩
      · intro palette found
        rw [placed, if_pos rfl] at found
        cases found
        exact ⟨encode_decodes chunkSound, content⟩
      · intro other apart
        rw [placed, if_neg apart]
  | none =>
    cases stored : state.stored.lookup (makeKey coord) with
    | some wire =>
      obtain ⟨decoded, reads, decodedSound, isKnown, content⟩ :=
        knownAt.of_stored sound cached stored
      dsimp only
      rw [reads]
      refine ⟨?_, load_settles sound knownAt decodedSound ?_⟩
      · rw [isKnown, getD_some]
        exact content
      · rw [isKnown, getD_some]
    | none =>
      have unknown := knownAt.of_absent cached stored
      have generated := fromBlocks_sound (generateTerrain coord)
      have terrain := content_fromBlocks (generateTerrain coord)
      have content := wireContent_encode generated
        (fromBlocks_storable (generateTerrain coord))
      have fresh : (fromBlocks (generateTerrain coord)).content =
          known.getD (ofBlocks (generateTerrain coord)) := by
        rw [terrain, unknown, getD_none]
      have settles := putCache_settles sound knownAt generated fresh
      rw [terrain] at content
      rw [unknown, getD_none] at settles ⊢
      refine ⟨content, ?_⟩
      have stores : state.Settles { state.putCache (makeKey coord)
          (fromBlocks (generateTerrain coord)) with
            stored := AList.insert (makeKey coord)
              (fromBlocks (generateTerrain coord)).encodeToWire
                (state.putCache (makeKey coord)
                  (fromBlocks (generateTerrain coord))).stored } (makeKey coord)
          (some (ofBlocks (generateTerrain coord))) :=
        store_settles settles.sound (encode_decodes generated)
          settles.known.cached settles.known.pending (fun _ => content) settles.others
      rw [putCache, recycleCached_stored] at stores
      exact stores

theorem flushKey_settles (sound : state.Sound) (knownAt : state.KnownAt key known) :
    state.Settles (state.flushKey key).1 key known := by
  rw [flushKey]
  cases pending : state.pendingLmdb.lookup key with
  | some palette =>
    have dropped := dropPending_settles sound knownAt
    exact store_settles dropped.sound (sound.pending key palette pending) dropped.known.cached
      dropped.known.pending (fun _ => knownAt.pending palette pending) dropped.others
  | none =>
    cases cached : state.cache.lookup key with
    | none => exact Settles.refl sound knownAt
    | some chunk =>
      apply store_settles sound (encode_decodes (sound.cached key chunk cached))
        knownAt.cached knownAt.pending
      · intro uncached
        rw [cached] at uncached
        cases uncached
      · exact fun _ _ => ⟨rfl, rfl, rfl⟩

theorem flushKey_sound (sound : state.Sound) (key : Int64) : (state.flushKey key).1.Sound := by
  rw [flushKey]
  cases pending : state.pendingLmdb.lookup key with
  | some palette =>
    have dropped : Sound { state with pendingLmdb := state.pendingLmdb.erase key } := by
      refine ⟨sound.cached, sound.pooled, ?_, sound.stored⟩
      intro other waiting found
      rw [lookup_erase_eq] at found
      split at found
      · cases found
      · exact sound.pending other waiting found
    exact store_sound dropped (sound.pending key palette pending)
  | none =>
    cases cached : state.cache.lookup key with
    | none => exact sound
    | some chunk =>
      exact store_sound sound (encode_decodes (sound.cached key chunk cached))

theorem flushKey_others (other : Int64) (apart : other ≠ key) :
    state.SameAt (state.flushKey key).1 other := by
  rw [flushKey]
  cases state.pendingLmdb.lookup key with
  | some palette =>
    refine ⟨rfl, ?_, lookup_insert_of_ne _ _ apart⟩
    rw [lookup_erase_eq, if_neg apart]
  | none =>
    cases state.cache.lookup key with
    | none => exact ⟨rfl, rfl, rfl⟩
    | some chunk => exact ⟨rfl, rfl, lookup_insert_of_ne _ _ apart⟩

theorem flushKey_cache (key : Int64) : (state.flushKey key).1.cache = state.cache := by
  rw [flushKey]
  cases state.pendingLmdb.lookup key with
  | some palette => rfl
  | none =>
    cases state.cache.lookup key with
    | none => rfl
    | some chunk => rfl

theorem flushKey_agrees (agrees : Agrees named state world) (key : Int64) :
    Agrees named (state.flushKey key).1 world := by
  refine ⟨flushKey_sound agrees.sound key, ?_⟩
  intro c here
  have knownAt := agrees.known c here
  by_cases same : makeKey c = key
  · rw [← same]
    exact (flushKey_settles agrees.sound knownAt).known
  · exact (flushKey_others _ same).knownAt knownAt

theorem flushKeys_agrees (agrees : Agrees named state world) (keys : List Int64) :
    Agrees named (state.flushKeys keys).1 world := by
  induction keys generalizing state with
  | nil => exact agrees
  | cons key rest ih => exact ih (flushKey_agrees agrees key)

theorem flushKeys_cache (keys : List Int64) : (state.flushKeys keys).1.cache = state.cache := by
  induction keys generalizing state with
  | nil => rfl
  | cons key rest ih => exact ih.trans (flushKey_cache key)

theorem flushKey_held (sound : state.Sound) (knownAt : state.KnownAt key (some chunk.content))
    (cached : state.cache.lookup key = some chunk)
    (flushes : (state.pendingLmdb.lookup key).isSome ∨ chunk.Storable) :
    (state.flushKey key).1.Held key chunk := by
  rw [flushKey]
  cases pending : state.pendingLmdb.lookup key with
  | some palette =>
    rw [Held, lookup_insert_self, bind_some]
    exact knownAt.pending palette pending
  | none =>
    rw [pending] at flushes
    have storable := flushes.resolve_left Bool.false_ne_true
    rw [cached]
    rw [Held, lookup_insert_self, bind_some]
    exact wireContent_encode (sound.cached key chunk cached) storable

theorem flushKeys_held {keys : List Int64} (distinct : keys.Nodup) (sound : state.Sound)
    (knownAt : state.KnownAt key (some chunk.content))
    (cached : state.cache.lookup key = some chunk)
    (flushes : if key ∈ keys then (state.pendingLmdb.lookup key).isSome ∨ chunk.Storable
      else state.Held key chunk) : (state.flushKeys keys).1.Held key chunk := by
  induction keys generalizing state with
  | nil =>
    rw [if_neg not_mem_nil] at flushes
    exact flushes
  | cons first rest ih =>
    obtain ⟨fresh, restDistinct⟩ := nodup_cons.mp distinct
    have nextSound := flushKey_sound sound first
    have nextCached : (state.flushKey first).1.cache.lookup key = some chunk := by
      rw [flushKey_cache, cached]
    by_cases same : key = first
    · subst same
      rw [if_pos mem_cons_self] at flushes
      apply ih restDistinct nextSound (flushKey_settles sound knownAt).known nextCached
      rw [if_neg fresh]
      exact flushKey_held sound knownAt cached flushes
    · have others : state.SameAt (state.flushKey first).1 key := flushKey_others key same
      apply ih restDistinct nextSound (others.knownAt knownAt) nextCached
      rw [Held, others.pending, others.stored]
      by_cases later : key ∈ rest
      · rw [if_pos (mem_cons_of_mem _ later)] at flushes
        rw [if_pos later]
        exact flushes
      have absent : key ∉ first :: rest := fun mem =>
        (mem_cons.mp mem).elim same later
      rw [if_neg absent] at flushes
      rw [if_neg later]
      exact flushes

theorem flushDirtyChunks_agrees (agrees : Agrees named state world) :
    Agrees named state.flushDirtyChunks.1 world := by
  have cleared : Agrees named { state with dirtyChunks := ∅ } world :=
    ⟨⟨agrees.sound.cached, agrees.sound.pooled, agrees.sound.pending, agrees.sound.stored⟩,
      fun c here => ⟨(agrees.known c here).cached, (agrees.known c here).pending,
        (agrees.known c here).stored⟩⟩
  exact flushKeys_agrees cleared _

theorem opened_agrees {stored : Table Int64 (List UInt8)}
    (decodes : ∀ key wire, stored.lookup key = some wire → Decodes wire) :
    Agrees named (opened stored) (World.ofStored stored) :=
  ⟨⟨nofun, nofun, nofun, decodes⟩, fun _ _ => ⟨nofun, nofun, fun _ => rfl⟩⟩

theorem reopen_agrees (agrees : Agrees named state world)
    (flushes : ∀ key chunk, state.cache.lookup key = some chunk → state.Flushes key chunk) :
    Agrees named state.reopen world := by
  have flushed := flushDirtyChunks_agrees agrees
  have opens : Agrees named state.reopen _ := opened_agrees flushed.sound.stored
  refine ⟨opens.sound, ?_⟩
  intro c here
  refine ⟨nofun, nofun, ?_⟩
  intro _
  have knownAt := agrees.known c here
  cases cached : state.cache.lookup (makeKey c) with
  | none =>
    apply (flushed.known c here).stored
    rw [flushDirtyChunks, flushKeys_cache]
    exact cached
  | some chunk =>
    have isKnown := knownAt.cached chunk cached
    rw [isKnown] at knownAt ⊢
    have sound : Sound { state with dirtyChunks := ∅ } :=
      ⟨agrees.sound.cached, agrees.sound.pooled, agrees.sound.pending, agrees.sound.stored⟩
    exact flushKeys_held state.dirtyChunks.keys_nodup sound
      ⟨knownAt.cached, knownAt.pending, knownAt.stored⟩ cached (flushes _ chunk cached)

theorem evict_agrees (agrees : Agrees named state world)
    (held : ∀ chunk, state.cache.lookup key = some chunk → state.Held key chunk) :
    Agrees named (state.evict key) world := by
  have kept : ∀ {other cached}, (state.evict key).cache.lookup other = some cached →
      state.cache.lookup other = some cached := by
    intro other cached found
    rw [evict, lookup_erase_eq] at found
    split at found
    · cases found
    · exact found
  have pending : (state.evict key).pendingLmdb = state.pendingLmdb := by
    rw [evict]
    split
    · rfl
    · exact recycleCached_pendingLmdb
  have stored : (state.evict key).stored = state.stored := by
    rw [evict]
    split
    · rfl
    · exact recycleCached_stored
  obtain ⟨sound, known⟩ := agrees
  have pooled : ∀ chunk ∈ (state.evict key).pool, chunk.Sound := by
    rw [evict]
    split
    · exact sound.pooled
    · exact recycleCached_pooled sound
  refine ⟨⟨fun other cached found => sound.cached other cached (kept found), pooled,
    pending ▸ sound.pending, stored ▸ sound.stored⟩, ?_⟩
  intro c here
  have knownAt := known c here
  refine ⟨fun cached found => knownAt.cached cached (kept found), pending ▸ knownAt.pending, ?_⟩
  intro uncached
  rw [stored]
  cases before : state.cache.lookup (makeKey c) with
  | none => exact knownAt.stored before
  | some chunk =>
    have dropped : makeKey c = key := by
      by_contra apart
      rw [evict, lookup_erase_eq, if_neg apart, before] at uncached
      cases uncached
    rw [knownAt.cached chunk before]
    exact dropped ▸ held chunk (dropped ▸ before)

theorem handle_agrees
    (agrees : Agrees named state world) (apart : Set.InjOn makeKey named) {op : StoreOp}
    (names : ∀ c, op.coord = some c → c ∈ named) (safe : state.Safe op) :
    Agrees named (state.handle generateTerrain op).1 (world.handle generateTerrain op).1 ∧
      (state.handle generateTerrain op).2.map StoreReply.seen =
        (world.handle generateTerrain op).2 := by
  have sound := agrees.sound
  have known := agrees.known
  cases op with
  | setBlock pos id value leftover =>
    have here := names _ rfl
    have settles := setBlock_settles value leftover sound (known _ here) safe
    exact ⟨settles.agrees agrees apart here, rfl⟩
  | casBlock pos expectedId newId newMeta =>
    have here := names _ rfl
    rw [handle, World.handle]
    rcases casBlock_spec newMeta sound (known _ here) safe with
      ⟨isKnown, same⟩ | ⟨content, isKnown, different, same⟩ |
        ⟨content, isKnown, finds, reply, settles⟩
    · rw [same, isKnown]
      exact ⟨agrees, rfl⟩
    · rw [same, isKnown]
      dsimp only
      rw [if_pos different]
      exact ⟨agrees, rfl⟩
    · rw [isKnown]
      dsimp only
      rw [if_neg (not_not.mpr finds), reply]
      refine ⟨?_, rfl⟩
      have written := settles.agrees agrees apart here
      rw [World.write, World.known, isKnown, getD_some]
      exact written
  | saveChunk chunk coord =>
    obtain ⟨chunkSound, cached, pending, storable⟩ := safe
    have settles := saveChunk_settles sound chunkSound cached pending storable
    exact ⟨settles.agrees agrees apart (names _ rfl), rfl⟩
  | getChunk coord =>
    have here := names _ rfl
    obtain ⟨found, isFound, content, settles⟩ := getChunk_spec sound (known _ here) safe
    refine ⟨settles.agrees agrees apart here, ?_⟩
    rw [handle, isFound]
    exact congrArg (fun content => [MapReply.chunk (some content)]) content
  | getBlockAt pos =>
    have here := names _ rfl
    obtain ⟨found, isFound, content, settles⟩ := getChunk_spec sound (known _ here) safe
    refine ⟨settles.agrees agrees apart here, ?_⟩
    rw [handle, getBlockAt, isFound]
    exact congrArg (fun content : Content => [MapReply.block (content pos.localPos).1]) content
  | getMeta pos =>
    have here := names _ rfl
    obtain ⟨found, isFound, content, settles⟩ := getChunk_spec sound (known _ here) safe
    refine ⟨settles.agrees agrees apart here, ?_⟩
    rw [handle, getMeta, isFound]
    exact congrArg (fun content : Content => [MapReply.metadata (content pos.localPos).2]) content
  | asyncGetChunk coord =>
    have here := names _ rfl
    obtain ⟨content, settles⟩ := asyncGetChunk_spec generateTerrain sound (known _ here) safe
    refine ⟨settles.agrees agrees apart here, ?_⟩
    exact congrArg (fun content => [MapReply.chunk content]) content
  | flushDirtyChunks => exact ⟨flushDirtyChunks_agrees agrees, rfl⟩
  | evict key => exact ⟨evict_agrees agrees safe, rfl⟩
  | reopen => exact ⟨reopen_agrees agrees safe, rfl⟩

def Named (ops : List StoreOp) : Set ChunkCoord := {c | ∃ op ∈ ops, op.coord = some c}

theorem refines_map (generateTerrain : ChunkCoord → Fin (SEC_VOL * SEC_CNT) → UInt16)
    {stored : Table Int64 (List UInt8)}
    (decodes : ∀ key wire, stored.lookup key = some wire → Decodes wire) (ops : List StoreOp)
    (apart : Set.InjOn makeKey (Named ops))
    (safe : (machine generateTerrain).Along Safe (opened stored) ops) :
    ((machine generateTerrain).outputs (opened stored) ops).map StoreReply.seen =
      (World.machine generateTerrain).outputs (World.ofStored stored) ops := by
  have step : ∀ state world op, Agrees (Named ops) state world → op ∈ ops ∧ state.Safe op →
      Agrees (Named ops) ((machine generateTerrain).step state op).1
          ((World.machine generateTerrain).step world op).1 ∧
        ((machine generateTerrain).step state op).2.map StoreReply.seen =
          ((World.machine generateTerrain).step world op).2 := by
    intro state world op agrees condition
    obtain ⟨mem, safe⟩ := condition
    exact handle_agrees generateTerrain agrees apart (fun c named => ⟨op, mem, named⟩) safe
  have along : (machine generateTerrain).Along (fun state op => op ∈ ops ∧ state.Safe op)
      (opened stored) ops := by
    rw [Machine.along_iff] at safe ⊢
    intro before op after split
    refine ⟨?_, safe before op after split⟩
    rw [split]
    exact mem_append_right _ mem_cons_self
  exact (Machine.simulates step (opened_agrees decodes) ops along).2

theorem Agrees.final (generateTerrain : ChunkCoord → Fin (SEC_VOL * SEC_CNT) → UInt16)
    (agrees : Agrees named state world) (apart : Set.InjOn makeKey named) {ops : List StoreOp}
    (within : Named ops ⊆ named) (safe : (machine generateTerrain).Along Safe state ops) :
    Agrees named ((machine generateTerrain).final state ops)
      ((World.machine generateTerrain).final world ops) := by
  induction ops generalizing state world with
  | nil => exact agrees
  | cons op rest ih =>
    have next := (handle_agrees generateTerrain agrees apart
      (fun c names => within ⟨op, mem_cons_self, names⟩) safe.1).1
    have later : Named rest ⊆ named := fun c named =>
      within (named.imp fun _ => And.imp_left (mem_cons_of_mem _))
    exact ih next later safe.2

def flatWorld : ChunkCoord → Fin (SEC_VOL * SEC_CNT) → UInt16 := fun _ _ => 0

def corner : BlockPos := ⟨0, 0, 0⟩

def visit : List StoreOp :=
  [.setBlock corner 5 3 MutableChunk.empty, .getBlockAt corner, .flushDirtyChunks, .getMeta corner]

theorem refines_map_visit : ((machine flatWorld).outputs (opened ∅) visit).map StoreReply.seen =
      (World.machine flatWorld).outputs (World.ofStored ∅) visit := by
  have named : Named visit ⊆ {c | Addressable c} := by
    rintro c ⟨op, mem, names⟩
    have here : c = corner.chunkCoord := by
      simp only [visit, mem_cons, not_mem_nil, or_false] at mem
      rcases mem with rfl | rfl | rfl | rfl
      · exact (Option.some.inj names).symm
      · exact (Option.some.inj names).symm
      · cases names
      · exact (Option.some.inj names).symm
    rw [here]
    exact ⟨⟨by decide, by decide⟩, ⟨by decide, by decide⟩, ⟨by decide, by decide⟩⟩
  have decodes : ∀ key wire, AList.lookup key (∅ : Table Int64 (List UInt8)) = some wire →
      Decodes wire := by
    intro key wire found
    rw [AList.lookup_empty] at found
    cases found
  apply refines_map flatWorld decodes visit (makeKey_injOn.mono named)
  refine ⟨?_, ?_, trivial, ?_, trivial⟩
  · rintro ⟨data, isFlat, _⟩
    cases isFlat
  · intro uncached
    cases uncached
  · intro uncached
    cases uncached

def savedOver : List StoreOp :=
  [.getBlockAt corner, .saveChunk (MutableChunk.empty.put corner.localPos 7 0) corner.chunkCoord,
    .getBlockAt corner]

theorem saved_chunk_not_read :
    ((machine flatWorld).outputs (opened ∅) savedOver).map StoreReply.seen ≠
      (World.machine flatWorld).outputs (World.ofStored ∅) savedOver := by
  intro same
  have replies := congrArg (fun replies => replies.getLast?) same
  have reads : (((machine flatWorld).outputs (opened ∅) savedOver).map
      StoreReply.seen).getLast? = some (.block 0) := rfl
  have holds : ((World.machine flatWorld).outputs (World.ofStored ∅) savedOver).getLast? =
      some (.block 7) := rfl
  rw [reads, holds] at replies
  cases replies

end BlockStore

end GtnhPlatform.ChunkStore
