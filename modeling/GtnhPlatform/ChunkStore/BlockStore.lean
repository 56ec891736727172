import GtnhPlatform.ChunkStore.GenerationPipeline
import GtnhPlatform.ChunkStore.MutableChunk

namespace GtnhPlatform.ChunkStore

/-! The chunk store one operation after another, each with all that it sets
going in the threads. LMDB does not fail here. -/

structure BlockPos where
  x : Int32
  y : Int32
  z : Int32
deriving DecidableEq

namespace BlockPos

/-- `x >> 5`, `y >> 5`, `z >> 5` -/
def chunkCoord (pos : BlockPos) : ChunkCoord := ⟨pos.x >>> 5, pos.y >>> 5, pos.z >>> 5⟩

def inChunk (coordinate : Int32) : Fin 32 :=
  ⟨(coordinate.toUInt32 &&& 31).toNat, by
    rw [UInt32.toNat_and]
    exact Nat.lt_succ_of_le Nat.and_le_right⟩

/-- `x & 31`, `y & 31`, `z & 31` -/
def localPos (pos : BlockPos) : LocalPos := ⟨inChunk pos.x, inChunk pos.y, inChunk pos.z⟩

example : (chunkCoord ⟨-1, 32, 5⟩, localPos ⟨-1, 32, 5⟩) = (⟨-1, 1, 0⟩, ⟨31, 0, 5⟩) := by decide

end BlockPos

def POOL_CAP : Nat := 256

inductive CasStatus where
  | conflict
  | ok

structure CasResult where
  status : CasStatus
  actualBlock : UInt16
  actualMeta : UInt8

/-- What is asked of the store. Which chunk the cache drops is up to the
operations before, and `leftover` is what a decode that fails has made of the
chunk. -/
inductive StoreOp where
  | setBlock (pos : BlockPos) (id : UInt16) (value : UInt8) (leftover : MutableChunk)
  | casBlock (pos : BlockPos) (expectedId newId : UInt16) (newMeta : UInt8)
  | saveChunk (chunk : MutableChunk) (coord : ChunkCoord)
  | getChunk (coord : ChunkCoord)
  | getBlockAt (pos : BlockPos)
  | getMeta (pos : BlockPos)
  | asyncGetChunk (coord : ChunkCoord)
  | flushDirtyChunks
  | evict (key : Int64)
  | reopen

def StoreOp.coord : StoreOp → Option ChunkCoord
  | .setBlock pos _ _ _ | .casBlock pos _ _ _ | .getBlockAt pos | .getMeta pos =>
    some pos.chunkCoord
  | .saveChunk _ coord | .getChunk coord | .asyncGetChunk coord => some coord
  | .flushDirtyChunks | .evict _ | .reopen => none

inductive StoreReply where
  | done (success : Bool)
  | swapped (result : CasResult)
  | chunk (found : Option MutableChunk)
  | block (id : UInt16)
  | metadata (value : UInt8)
  | palette (wire : Option (List UInt8))

structure BlockStore where
  cache : Table Int64 MutableChunk
  /-- the chunk put in last comes first -/
  pool : List MutableChunk
  dirtyChunks : Table Int64 Unit
  pendingLmdb : Table Int64 (List UInt8)
  stored : Table Int64 (List UInt8)

namespace BlockStore

variable (state : BlockStore)

/-- The chunk that `takeFromPool` takes, or a new one. -/
def nextChunk : MutableChunk := state.pool.headD MutableChunk.empty

def takeFromPool : BlockStore := { state with pool := state.pool.tail }

def recycle (chunk : MutableChunk) : BlockStore :=
  if state.pool.length < POOL_CAP then { state with pool := chunk :: state.pool } else state

def recycleCached (key : Int64) : BlockStore :=
  match state.cache.lookup key with
  | some chunk => state.recycle chunk
  | none => state

/-- Key 0 is that of an empty slot: what the cache drops of it is not handed on. -/
def evict (key : Int64) : BlockStore :=
  { (if key = 0 then state else state.recycleCached key) with cache := state.cache.erase key }

def putCache (key : Int64) (chunk : MutableChunk) : BlockStore :=
  { state.recycleCached key with cache := AList.insert key chunk state.cache }

def markDirty (key : Int64) : BlockStore :=
  { state with
    pendingLmdb := state.pendingLmdb.erase key
    dirtyChunks := AList.insert key () state.dirtyChunks }

def getChunk (c : ChunkCoord) : BlockStore × Option MutableChunk :=
  let key := makeKey c
  match state.cache.lookup key with
  | some cached => (state, some cached)
  | none =>
    match state.stored.lookup key with
    | none => (state.takeFromPool.putCache key state.nextChunk, some state.nextChunk)
    | some wire =>
      match MutableChunk.fromWire wire with
      | some chunk => (state.takeFromPool.putCache key chunk, some chunk)
      | none => (state.takeFromPool, none)

def getBlockAt (pos : BlockPos) : BlockStore × UInt16 :=
  let result := state.getChunk pos.chunkCoord
  (result.1, (result.2.map fun chunk => chunk.getBlock pos.localPos).getD 0)

def getMeta (state : BlockStore) (pos : BlockPos) : BlockStore × UInt8 :=
  let result := state.getChunk pos.chunkCoord
  (result.1, (result.2.map fun chunk => chunk.getMeta pos.localPos).getD 0)

/-- `local` after `fromWire`, whatever that has returned. -/
def localChunk (key : Int64) (leftover : MutableChunk) : MutableChunk :=
  match state.stored.lookup key with
  | none => MutableChunk.empty
  | some wire => (MutableChunk.fromWire wire).getD leftover

def setBlock (pos : BlockPos) (id : UInt16) (value : UInt8)
    (leftover : MutableChunk) : BlockStore :=
  let key := makeKey pos.chunkCoord
  match state.cache.lookup key with
  | some chunk =>
    markDirty
      { state with cache := AList.insert key (chunk.put pos.localPos id value) state.cache } key
  | none =>
    let chunk := (state.localChunk key leftover).put pos.localPos id value
    (state.takeFromPool.putCache key chunk).markDirty key

def casBlock (pos : BlockPos) (expectedId newId : UInt16) (newMeta : UInt8) :
    BlockStore × CasResult :=
  let key := makeKey pos.chunkCoord
  let place := pos.localPos
  match state.cache.lookup key with
  | some chunk =>
    if chunk.getBlock place ≠ expectedId then
      (state, ⟨.conflict, chunk.getBlock place, chunk.getMeta place⟩)
    else
      (markDirty { state with cache := AList.insert key (chunk.put place newId newMeta) state.cache }
        key, ⟨.ok, newId, newMeta⟩)
  | none =>
    match state.stored.lookup key with
    | none => (state, ⟨.conflict, 0, 0⟩)
    | some wire =>
      match MutableChunk.fromWire wire with
      | none => (state, ⟨.conflict, 0, 0⟩)
      | some chunk =>
        if chunk.getBlock place ≠ expectedId then
          (state, ⟨.conflict, chunk.getBlock place, chunk.getMeta place⟩)
        else
          ((state.putCache key (chunk.put place newId newMeta)).markDirty key,
            ⟨.ok, newId, newMeta⟩)

/-- Neither the cache nor a palette that waits is looked at. -/
def saveChunk (chunk : MutableChunk) (coord : ChunkCoord) : BlockStore :=
  { state with stored := AList.insert (makeKey coord) chunk.encodeToWire state.stored }

variable (generateTerrain : ChunkCoord → Fin (SEC_VOL * SEC_CNT) → UInt16)

def asyncGetChunk (state : BlockStore) (coord : ChunkCoord) : BlockStore × Option (List UInt8) :=
  let key := makeKey coord
  match state.cache.lookup key with
  | some cached =>
    match state.pendingLmdb.lookup key with
    | some palette => ({ state with pendingLmdb := state.pendingLmdb.erase key }, some palette)
    | none =>
      let palette := cached.encodeToWire
      ({ state with pendingLmdb := state.pendingLmdb.emplace key palette }, some palette)
  | none =>
    match state.stored.lookup key with
    | some wire =>
      match MutableChunk.fromWire wire with
      | some chunk => (state.takeFromPool.putCache key chunk, some wire)
      | none => (state.takeFromPool, none)
    | none =>
      let chunk := MutableChunk.fromBlocks (generateTerrain coord)
      let palette := chunk.encodeToWire
      ({ state.putCache key chunk with stored := AList.insert key palette state.stored },
        some palette)

def flushKey (key : Int64) : BlockStore × Bool :=
  match state.pendingLmdb.lookup key with
  | some palette =>
    ({ state with
        pendingLmdb := state.pendingLmdb.erase key
        stored := AList.insert key palette state.stored }, true)
  | none =>
    match state.cache.lookup key with
    | none => (state, false)
    | some chunk =>
      ({ state with stored := AList.insert key chunk.encodeToWire state.stored }, true)

def flushKeys (state : BlockStore) : List Int64 → BlockStore × Bool
  | [] => (state, false)
  | key :: rest =>
    let turn := state.flushKey key
    let result := turn.1.flushKeys rest
    (result.1, turn.2 || result.2)

def flushDirtyChunks : BlockStore × Bool :=
  flushKeys { state with dirtyChunks := ∅ } state.dirtyChunks.keys

def opened (stored : Table Int64 (List UInt8)) : BlockStore := ⟨∅, [], ∅, ∅, stored⟩

/-- `close`, with its last flush, and a new store. -/
def reopen : BlockStore := opened state.flushDirtyChunks.1.stored

def handle (state : BlockStore) :
    StoreOp → BlockStore × List StoreReply
  | .setBlock pos id value leftover => (state.setBlock pos id value leftover, [.done true])
  | .casBlock pos expectedId newId newMeta =>
    let result := state.casBlock pos expectedId newId newMeta
    (result.1, [.swapped result.2])
  | .saveChunk chunk coord => (state.saveChunk chunk coord, [.done true])
  | .getChunk coord =>
    let result := state.getChunk coord
    (result.1, [.chunk result.2])
  | .getBlockAt pos =>
    let result := state.getBlockAt pos
    (result.1, [.block result.2])
  | .getMeta pos =>
    let result := state.getMeta pos
    (result.1, [.metadata result.2])
  | .asyncGetChunk coord =>
    let result := state.asyncGetChunk generateTerrain coord
    (result.1, [.palette result.2])
  | .flushDirtyChunks => (state.flushDirtyChunks.1, [])
  | .evict key => (state.evict key, [])
  | .reopen => (state.reopen, [])

def machine :
    Machine BlockStore StoreOp StoreReply :=
  ⟨handle generateTerrain⟩

end BlockStore

end GtnhPlatform.ChunkStore
