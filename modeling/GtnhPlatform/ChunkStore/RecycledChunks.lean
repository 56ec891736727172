import GtnhPlatform.ChunkStore.BlockMapLaw

namespace GtnhPlatform.ChunkStore

open AList Table List

namespace MutableChunk

def view (chunk : MutableChunk) (pos : LocalPos) : UInt16 × UInt8 × UInt32 :=
  (chunk.getBlock pos, chunk.getMeta pos, chunk.getMultiblock pos)

def Blank (chunk : MutableChunk) : Prop := chunk.view = fun _ => (0, 0, 0)

end MutableChunk

namespace BlockStore

variable (generateTerrain : ChunkCoord → Fin (SEC_VOL * SEC_CNT) → UInt16)
  {state next : BlockStore} {key : Int64} {chunk : MutableChunk} {c : ChunkCoord} {op : StoreOp}

def served (state : BlockStore) (c : ChunkCoord) : Option (LocalPos → UInt16 × UInt8 × UInt32) :=
  (state.getChunk c).2.map MutableChunk.view

structure CarriesNothing (state : BlockStore) (op : StoreOp) : Prop where
  fresh : ∀ c, state.cache.lookup (makeKey c) = none → state.stored.lookup (makeKey c) = none →
    state.served c = some fun _ => (0, 0, 0)
  apart : ∀ c other, op.coord = some c → makeKey other ≠ makeKey c →
    (state.handle generateTerrain op).1.served other = state.served other

/-- What the cache drops into the pool is blank. -/
def RecyclesBlank (state : BlockStore) : StoreOp → Prop
  | .evict key => key ≠ 0 → state.pool.length < POOL_CAP →
      ∀ chunk, state.cache.lookup key = some chunk → chunk.Blank
  | _ => True

structure Within (state next : BlockStore) (key : Int64) : Prop where
  cache : ∀ other, other ≠ key → next.cache.lookup other = state.cache.lookup other
  stored : ∀ other, other ≠ key → next.stored.lookup other = state.stored.lookup other
  pool : next.pool ⊆ state.pool

theorem Within.refl : Within state state key := ⟨fun _ _ => rfl, fun _ _ => rfl, fun _ mem => mem⟩

theorem within_take : Within state state.takeFromPool key :=
  ⟨fun _ _ => rfl, fun _ _ => rfl, tail_subset _⟩

theorem within_edit : Within state { state with cache := AList.insert key chunk state.cache } key :=
  ⟨fun _ apart => lookup_insert_of_ne _ _ apart, fun _ _ => rfl, fun _ mem => mem⟩

theorem within_put (within : Within state next key) (uncached : next.cache.lookup key = none) :
    Within state (next.putCache key chunk) key := by
  have bare : next.recycleCached key = next := by rw [recycleCached, uncached]
  rw [putCache, bare]
  exact ⟨fun other apart => (lookup_insert_of_ne _ _ apart).trans (within.cache other apart),
    within.stored, within.pool⟩

theorem Within.markDirty (within : Within state next key) : Within state (next.markDirty key) key :=
  ⟨within.cache, within.stored, within.pool⟩

theorem getChunk_within : Within state (state.getChunk c).1 (makeKey c) := by
  rw [getChunk]
  cases cached : state.cache.lookup (makeKey c) with
  | some chunk => exact Within.refl
  | none =>
    cases state.stored.lookup (makeKey c) with
    | none => exact within_put within_take cached
    | some wire =>
      dsimp only
      cases MutableChunk.fromWire wire with
      | none => exact within_take
      | some chunk => exact within_put within_take cached

theorem handle_within (names : op.coord = some c) :
    Within state (state.handle generateTerrain op).1 (makeKey c) := by
  cases op with
  | setBlock pos id value leftover =>
    cases names
    rw [handle, setBlock]
    cases cached : state.cache.lookup (makeKey pos.chunkCoord) with
    | some chunk => exact within_edit.markDirty
    | none => exact (within_put within_take cached).markDirty
  | casBlock pos expectedId newId newMeta =>
    cases names
    rw [handle, casBlock]
    cases cached : state.cache.lookup (makeKey pos.chunkCoord) with
    | some chunk =>
      dsimp only
      split
      · exact Within.refl
      · exact within_edit.markDirty
    | none =>
      cases state.stored.lookup (makeKey pos.chunkCoord) with
      | none => exact Within.refl
      | some wire =>
        dsimp only
        cases MutableChunk.fromWire wire with
        | none => exact Within.refl
        | some chunk =>
          dsimp only
          split
          · exact Within.refl
          · exact (within_put Within.refl cached).markDirty
  | saveChunk chunk coord =>
    cases names
    exact ⟨fun _ _ => rfl, fun _ apart => lookup_insert_of_ne _ _ apart, fun _ mem => mem⟩
  | getChunk coord =>
    cases names
    exact getChunk_within
  | getBlockAt pos | getMeta pos =>
    cases names
    exact getChunk_within
  | asyncGetChunk coord =>
    cases names
    rw [handle, asyncGetChunk]
    cases cached : state.cache.lookup (makeKey c) with
    | some chunk =>
      cases state.pendingLmdb.lookup (makeKey c) with
      | some palette => exact ⟨fun _ _ => rfl, fun _ _ => rfl, fun _ mem => mem⟩
      | none => exact ⟨fun _ _ => rfl, fun _ _ => rfl, fun _ mem => mem⟩
    | none =>
      cases state.stored.lookup (makeKey c) with
      | none =>
        obtain ⟨cache, -, pool⟩ := within_put Within.refl cached
        exact ⟨cache, fun _ apart => lookup_insert_of_ne _ _ apart, pool⟩
      | some wire =>
        dsimp only
        cases MutableChunk.fromWire wire with
        | none => exact within_take
        | some chunk => exact within_put within_take cached
  | flushDirtyChunks | evict | reopen => cases names

theorem flushKeys_pool (keys : List Int64) : (state.flushKeys keys).1.pool = state.pool := by
  induction keys generalizing state with
  | nil => rfl
  | cons key rest ih =>
    have turn : (state.flushKey key).1.pool = state.pool := by
      rw [flushKey]
      cases state.pendingLmdb.lookup key with
      | some palette => rfl
      | none => cases state.cache.lookup key <;> rfl
    exact ih.trans turn

def PoolBlank (state : BlockStore) : Prop := ∀ chunk ∈ state.pool, chunk.Blank

theorem PoolBlank.nextChunk (blank : state.PoolBlank) : state.nextChunk.Blank := by
  rw [BlockStore.nextChunk]
  cases pool : state.pool with
  | nil => rfl
  | cons first rest => exact blank first (pool ▸ mem_cons_self)

theorem PoolBlank.handle (blank : state.PoolBlank) (recycles : state.RecyclesBlank op) :
    (state.handle generateTerrain op).1.PoolBlank := by
  cases names : op.coord with
  | some c =>
    have within : Within state (state.handle generateTerrain op).1 (makeKey c) :=
      handle_within generateTerrain names
    exact fun chunk mem => blank chunk (within.pool mem)
  | none =>
    cases op with
    | flushDirtyChunks =>
      intro chunk mem
      rw [BlockStore.handle, flushDirtyChunks, flushKeys_pool] at mem
      exact blank chunk mem
    | reopen => exact fun chunk mem => absurd mem not_mem_nil
    | evict key =>
      intro chunk mem
      rw [BlockStore.handle, evict] at mem
      split at mem
      · exact blank chunk mem
      rename_i used
      rw [recycleCached] at mem
      cases found : state.cache.lookup key with
      | none =>
        rw [found] at mem
        exact blank chunk mem
      | some cached =>
        rw [found] at mem
        dsimp only [recycle] at mem
        split at mem
        · next room =>
          cases mem_cons.mp mem with
          | inl same => exact same ▸ recycles used room cached found
          | inr pooled => exact blank chunk pooled
        · exact blank chunk mem
    | setBlock | casBlock | saveChunk | getChunk | getBlockAt | getMeta | asyncGetChunk =>
      cases names

theorem served_congr
    (cache : next.cache.lookup (makeKey other) = state.cache.lookup (makeKey other))
    (stored : next.stored.lookup (makeKey other) = state.stored.lookup (makeKey other))
    (before : state.nextChunk.Blank) (after : next.nextChunk.Blank) :
    next.served other = state.served other := by
  rw [served, served, getChunk, getChunk, cache, stored]
  cases state.cache.lookup (makeKey other) with
  | some chunk => rfl
  | none =>
    cases state.stored.lookup (makeKey other) with
    | none => exact congrArg some (after.trans before.symm)
    | some wire =>
      dsimp only
      cases MutableChunk.fromWire wire <;> rfl

theorem carries_nothing_of_blank (stored : Table Int64 (List UInt8)) (ops : List StoreOp)
    (blank : (machine generateTerrain).Along RecyclesBlank (opened stored) ops) :
    (machine generateTerrain).Along (CarriesNothing generateTerrain) (opened stored) ops := by
  have run : ∀ {state : BlockStore}, state.PoolBlank →
      (machine generateTerrain).Along RecyclesBlank state ops →
      (machine generateTerrain).Along (CarriesNothing generateTerrain) state ops := by
    clear blank
    induction ops with
    | nil => exact fun _ _ => trivial
    | cons op rest ih =>
      intro state pool along
      have after := pool.handle generateTerrain along.1
      refine ⟨⟨fun c uncached absent => ?_, fun c other names apart => ?_⟩, ih after along.2⟩
      · rw [served, getChunk, uncached]
        rw [absent]
        exact congrArg some pool.nextChunk
      have within : Within state (state.handle generateTerrain op).1 (makeKey c) :=
        handle_within generateTerrain names
      exact served_congr (within.cache _ apart) (within.stored _ apart) pool.nextChunk
        after.nextChunk
  exact run (fun chunk mem => absurd mem not_mem_nil) blank

theorem carries_nothing_unwritten : (machine flatWorld).Along (CarriesNothing flatWorld) (opened ∅)
      [.getChunk ⟨0, 0, 0⟩, .evict (makeKey ⟨0, 0, 0⟩), .getChunk ⟨1, 0, 0⟩] := by
  refine carries_nothing_of_blank flatWorld ∅ _ ⟨trivial, ?_, trivial, trivial⟩
  intro _ _ chunk cached
  cases cached
  rfl

theorem evicted_chunk_served : ¬∀ (stored : Table Int64 (List UInt8)) (ops : List StoreOp),
      (machine flatWorld).Along (CarriesNothing flatWorld) (opened stored) ops := by
  intro always
  have fresh := (always ∅ [.setBlock corner 5 0 .empty, .evict (makeKey corner.chunkCoord),
    .getChunk ⟨1, 0, 0⟩]).2.2.1.fresh ⟨1, 0, 0⟩ rfl rfl
  have first := congrFun (Option.some.inj fresh) corner.localPos
  exact absurd (congrArg Prod.fst first) (by decide)

end BlockStore

end GtnhPlatform.ChunkStore
