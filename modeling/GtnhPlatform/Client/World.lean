import GtnhPlatform.Client.ChunkView
import GtnhPlatform.Data.Machine
import Mathlib.Data.List.Sort

namespace GtnhPlatform.Client

open ChunkStore (LocalPos)

/-! The client's copy of the world. -/

/-- `storage_` and `pendingChanges_`, by chunk key; the changes of a chunk by position key. -/
structure World where
  storage : Table Nat ChunkView
  pendingChanges : Table Nat (Table Nat PendingBlock)

def MAX_CHUNKS : Nat := 1024

def farthestFirst (distSq : ChunkCoord → Nat) (coords : List ChunkCoord) : List ChunkCoord :=
  coords.insertionSort fun first second => distSq second ≤ distSq first

namespace World

def empty : World := ⟨∅, ∅⟩

variable (world : World)

def getChunk (coord : ChunkCoord) : Option ChunkView :=
  world.storage.lookup (makeChunkKey coord)

def getBlockAt (pos : BlockPos) : Option PendingBlock :=
  (world.getChunk pos.chunkCoord).map fun view => view.getBlock pos.localPos

def changesOf (coord : ChunkCoord) : Table Nat PendingBlock :=
  (world.pendingChanges.lookup (makeChunkKey coord)).getD ∅

def onBlockUpdate (pos : BlockPos) (block : PendingBlock) : World :=
  let key := makeChunkKey pos.chunkCoord
  { storage :=
      match world.storage.lookup key with
      | none => world.storage
      | some view => AList.insert key (view.setBlock pos.localPos block) world.storage
    pendingChanges :=
      AList.insert key (AList.insert (makeBlockPosKey pos) block (world.changesOf pos.chunkCoord))
        world.pendingChanges }

def storedChunk (wireData : List UInt8) (coord : ChunkCoord) : ChunkView :=
  (world.getChunk coord).getD (ChunkView.ofWire wireData)

def onChunkData (wireData : List UInt8) (coord : ChunkCoord) : World :=
  { world with
    storage := AList.insert (makeChunkKey coord)
      ((world.storedChunk wireData coord).replay (world.changesOf coord).entries) world.storage }

def evictChunk (coord : ChunkCoord) : World :=
  { storage := world.storage.erase (makeChunkKey coord)
    pendingChanges := world.pendingChanges.erase (makeChunkKey coord) }

def removeChunks (coords : List ChunkCoord) : World :=
  { world with
    storage := coords.foldl (fun storage coord => storage.erase (makeChunkKey coord)) world.storage }

/-- Only the farthest chunks above the limit go; their changes stay. -/
def farChunks (distSq : ChunkCoord → Nat) : List ChunkCoord :=
  (farthestFirst distSq (world.storage.keys.map chunkKeyToCoord)).take
    (world.storage.keys.length - MAX_CHUNKS)

def evictFarChunks (distSq : ChunkCoord → Nat) : World :=
  if world.storage.keys.length ≤ MAX_CHUNKS then world
  else world.removeChunks (world.farChunks distSq)

end World

/-- `distSq` orders the chunks as their distances to the camera do. -/
inductive WorldInput where
  | onBlockUpdate (pos : BlockPos) (block : PendingBlock)
  | onChunkData (wireData : List UInt8) (coord : ChunkCoord)
  | evictChunk (coord : ChunkCoord)
  | evictFarChunks (distSq : ChunkCoord → Nat)

def World.evicted (world : World) : WorldInput → List ChunkCoord
  | .onBlockUpdate _ _ | .onChunkData _ _ => []
  | .evictChunk coord => [coord]
  | .evictFarChunks distSq => world.farChunks distSq

def World.handle (world : World) : WorldInput → World
  | .onBlockUpdate pos block => world.onBlockUpdate pos block
  | .onChunkData wireData coord => world.onChunkData wireData coord
  | .evictChunk coord => world.evictChunk coord
  | .evictFarChunks distSq => world.evictFarChunks distSq

/-- What the client has been told since the last eviction: the last snapshot of each
chunk, and the last update of each position. -/
structure Told where
  snapshots : ChunkCoord → Option (LocalPos → PendingBlock)
  updates : BlockPos → Option PendingBlock

namespace Told

def nothing : Told := ⟨fun _ => none, fun _ => none⟩

def hear (told : Told) : WorldInput → Told
  | .onBlockUpdate pos block => { told with updates := Function.update told.updates pos (some block) }
  | .onChunkData wireData coord =>
    { told with
      snapshots := Function.update told.snapshots coord
        (some (ChunkView.ofWire wireData).getBlock) }
  | .evictChunk _ | .evictFarChunks _ => told

def forget (told : Told) (coords : List ChunkCoord) : Told where
  snapshots coord := if coord ∈ coords then none else told.snapshots coord
  updates pos := if pos.chunkCoord ∈ coords then none else told.updates pos

def expected (told : Told) (pos : BlockPos) : Option PendingBlock :=
  (told.snapshots pos.chunkCoord).map fun cells =>
    (told.updates pos).getD (cells pos.localPos)

end Told

def worldMachine : Machine (World × Told) WorldInput ChunkCoord where
  step state input := ((state.1.handle input, (state.2.hear input).forget (state.1.evicted input)),
      state.1.evicted input)

def ShowsTold (state : World × Told) : Prop :=
  ∀ pos block, state.2.expected pos = some block → state.1.getBlockAt pos = some block

/-- The chunks of the run are among those given, the keys tell where the changes are and
which chunks are far away, what arrives can be decoded, and no section has more block ids
than its palette has indices for. -/
def WellFormed (chunks : Set ChunkCoord) (state : World × Told) : WorldInput → Prop
  | .onBlockUpdate pos block =>
    pos.chunkCoord ∈ chunks ∧ pos.Keyed ∧ ∀ view, state.1.getChunk pos.chunkCoord = some view →
        view.Takes pos.localPos block.blockId
  | .onChunkData wireData coord =>
    coord ∈ chunks ∧ (state.1.storedChunk wireData coord).Sound ∧
      (state.1.storedChunk wireData coord).TakesEach (state.1.changesOf coord).entries
  | .evictChunk coord => coord ∈ chunks
  | .evictFarChunks _ =>
    MAX_CHUNKS < state.1.storage.keys.length →
      ∀ coord ∈ chunks, (state.1.getChunk coord).isSome → coord.Keyed

def Agrees (state : World × Told) : WorldInput → Prop
  | .onChunkData wireData coord =>
    match state.1.getChunk coord with
    | none => ∀ key change, (state.1.changesOf coord).lookup key = some change →
        state.2.updates (coord.block (localOfKey key)) = none →
          change = (ChunkView.ofWire wireData).getBlock (localOfKey key)
    | some view => ∀ cell, state.2.updates (coord.block cell) = none →
        view.getBlock cell = (ChunkView.ofWire wireData).getBlock cell
  | .onBlockUpdate _ _ | .evictChunk _ | .evictFarChunks _ => True

end GtnhPlatform.Client
