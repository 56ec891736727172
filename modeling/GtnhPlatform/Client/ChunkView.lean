import GtnhPlatform.Client.Coords
import GtnhPlatform.ChunkStore.MutableChunk
import GtnhPlatform.Data.Table

namespace GtnhPlatform.Client

open ChunkStore (LocalPos MutableChunk)

/-- `coordinate & (CHUNK_SIZE - 1)` -/
def inChunk (coordinate : Int) : Fin 32 := ⟨(coordinate % 32).toNat, by omega⟩

namespace BlockPos

/-- `{pos.x >> 5, pos.y >> 5, pos.z >> 5}` -/
def chunkCoord (pos : BlockPos) : ChunkCoord := ⟨pos.x / 32, pos.y / 32, pos.z / 32⟩

def localPos (pos : BlockPos) : LocalPos := ⟨inChunk pos.x, inChunk pos.y, inChunk pos.z⟩

end BlockPos

def ChunkCoord.block (coord : ChunkCoord) (cell : LocalPos) : BlockPos :=
  ⟨coord.x * 32 + cell.x.val, coord.y * 32 + cell.y.val, coord.z * 32 + cell.z.val⟩

/-- The cell that a recorded change is replayed to. -/
def localOfKey (key : Nat) : LocalPos :=
  ⟨inChunk (unpackedAt 42 key), inChunk (unpackedAt 21 key), inChunk (unpackedAt 0 key)⟩

theorem inChunk_block (quotient : Int) (cell : Fin 32) : inChunk
    (quotient * 32 + cell.val) = cell := by
  apply Fin.ext
  change ((quotient * 32 + cell.val) % 32).toNat = cell.val
  omega

theorem val_inChunk (coordinate : Int) : coordinate / 32 * 32 +
    (inChunk coordinate).val = coordinate := by
  change coordinate / 32 * 32 + ((coordinate % 32).toNat : Int) = coordinate
  omega

namespace ChunkCoord

variable (coord : ChunkCoord) (cell : LocalPos)

@[simp] theorem chunkCoord_block : (coord.block cell).chunkCoord = coord := by
  have quotient : ∀ (whole : Int) (part : Fin 32), (whole * 32 + part.val) / 32 = whole := by
    intro whole part
    omega
  simp only [BlockPos.chunkCoord, block, quotient]

@[simp] theorem localPos_block : (coord.block cell).localPos = cell := by
  simp only [BlockPos.localPos, block, inChunk_block]

end ChunkCoord

@[simp] theorem BlockPos.block_parts (pos : BlockPos) : pos.chunkCoord.block pos.localPos = pos := by
  simp only [ChunkCoord.block, chunkCoord, localPos, val_inChunk]

theorem BlockPos.eq_of_parts {pos other : BlockPos} (sameChunk : pos.chunkCoord = other.chunkCoord)
    (samePlace : pos.localPos = other.localPos) : pos = other := by
  rw [← block_parts pos, sameChunk, samePlace, block_parts]

/-- The key of the chunk gives its coordinates back. -/
def ChunkCoord.Keyed (coord : ChunkCoord) : Prop := chunkKeyToCoord (makeChunkKey coord) = coord

def BlockPos.Keyed (pos : BlockPos) : Prop := localOfKey (makeBlockPosKey pos) = pos.localPos

theorem ChunkCoord.keyed_injOn : Set.InjOn makeChunkKey {coord | coord.Keyed} := by
  intro coord keyed other otherKeyed same
  rw [Set.mem_ofPred_eq, Keyed] at keyed otherKeyed
  rw [← keyed, same, otherKeyed]

theorem ChunkCoord.keyed_of_inField {coord : ChunkCoord} (x : InField coord.x) (y : InField coord.y)
    (z : InField coord.z) : coord.Keyed := by
  obtain ⟨first, second, third⟩ := unpackedAt_packCoordinates x y z
  rw [Keyed, chunkKeyToCoord, makeChunkKey, first, second, third]

section Writing

variable {κ : Type u} {ι : Type v} {ν : Type w} [DecidableEq ι] (place : κ → ι)
  {entries : List (Sigma fun _ : κ => ν)}

theorem foldl_update_eq (agree : ∀ entry ∈ entries, place entry.1 = target → entry.2 = value)
    {cells : ι → ν} (either : (∃ entry ∈ entries, place entry.1 = target) ∨ cells target = value) :
    entries.foldl (fun cells entry => Function.update cells (place entry.1) entry.2) cells target =
      value := by
  induction entries generalizing cells with
  | nil =>
    apply either.resolve_left
    rintro ⟨entry, mem, _⟩
    exact List.not_mem_nil mem
  | cons entry rest ih =>
    apply ih fun other mem => agree other (List.mem_cons_of_mem _ mem)
    dsimp only
    by_cases here : place entry.1 = target
    · right
      rw [← here, Function.update_self]
      exact agree entry List.mem_cons_self here
    rw [Function.update_of_ne (Ne.symm here)]
    apply either.imp_left
    rintro ⟨other, mem, there⟩
    rcases List.mem_cons.mp mem with rfl | later
    · exact absurd there here
    · exact ⟨other, later, there⟩

end Writing

structure PendingBlock where
  blockId : UInt16
  metadata : UInt8
  mbId : UInt32
  deriving DecidableEq

/-- Decoded wire data. Data that cannot be decoded reads as air and takes no block. -/
abbrev ChunkView := Option MutableChunk

namespace ChunkView

def ofWire (wireData : List UInt8) : ChunkView :=
  if wireData = [] then some MutableChunk.empty else MutableChunk.fromWire wireData

def getBlock (view : ChunkView) (cell : LocalPos) : PendingBlock :=
  match view with
  | none => ⟨0, 0, 0⟩
  | some chunk => ⟨chunk.getBlock cell, chunk.getMeta cell, chunk.getMultiblock cell⟩

def setBlock (view : ChunkView) (cell : LocalPos) (block : PendingBlock) : ChunkView :=
  view.map fun chunk =>
    (chunk.put cell block.blockId block.metadata).setMultiblock cell block.mbId

/-- The rebase in `OnChunkData`. -/
def replay (view : ChunkView) (changes : List (Sigma fun _ : Nat => PendingBlock)) : ChunkView :=
  changes.foldl (fun view change => view.setBlock (localOfKey change.1) change.2) view

def Sound (view : ChunkView) : Prop := ∃ chunk, view = some chunk ∧ chunk.Sound

def Takes (view : ChunkView) (cell : LocalPos) (blockId : UInt16) : Prop :=
  ∀ chunk, view = some chunk → chunk.Takes cell blockId

def TakesEach (view : ChunkView) : List (Sigma fun _ : Nat => PendingBlock) → Prop
  | [] => True
  | change :: rest =>
    view.Takes (localOfKey change.1) change.2.blockId ∧
      TakesEach (view.setBlock (localOfKey change.1) change.2) rest

variable {view : ChunkView} {cell : LocalPos}

theorem setBlock_spec (sound : view.Sound) {block : PendingBlock}
    (takes : view.Takes cell block.blockId) : (view.setBlock cell block).Sound ∧
      (view.setBlock cell block).getBlock = Function.update view.getBlock cell block := by
  obtain ⟨chunk, rfl, sound⟩ := sound
  obtain ⟨putSound, put⟩ := MutableChunk.put_spec sound (takes chunk rfl) block.metadata
  obtain ⟨markedSound, kept, marked⟩ := MutableChunk.setMultiblock_spec putSound cell block.mbId
  refine ⟨⟨_, rfl, markedSound⟩, ?_⟩
  funext other
  have content := congrFun (kept.trans put) other
  have mbId := marked other
  rw [MutableChunk.getMultiblock_put] at mbId
  rw [Function.update_apply] at content ⊢
  by_cases same : other = cell
  · rw [if_pos same] at content mbId ⊢
    exact congrArg₂ (fun (pair : UInt16 × UInt8) id => PendingBlock.mk pair.1 pair.2 id) content mbId
  · rw [if_neg same] at content mbId ⊢
    exact congrArg₂ (fun (pair : UInt16 × UInt8) id => PendingBlock.mk pair.1 pair.2 id) content mbId

theorem replay_spec (sound : view.Sound) {changes : List (Sigma fun _ : Nat => PendingBlock)}
    (takes : view.TakesEach changes) :
    (view.replay changes).Sound ∧ (view.replay changes).getBlock =
        changes.foldl (fun cells change => Function.update cells (localOfKey change.1) change.2)
          view.getBlock := by
  induction changes generalizing view with
  | nil => exact ⟨sound, rfl⟩
  | cons change rest ih =>
    obtain ⟨written, block⟩ := setBlock_spec sound takes.1
    obtain ⟨last, cells⟩ := ih written takes.2
    rw [block] at cells
    exact ⟨last, cells⟩

/-- Changes whose keys lead to different cells of a chunk. -/
def Apart (changes : Table Nat PendingBlock) : Prop :=
  ∀ key change other otherChange, changes.lookup key = some change →
    changes.lookup other = some otherChange → localOfKey key = localOfKey other → key = other

variable {changes : Table Nat PendingBlock}

theorem getBlock_replay_of_lookup (sound : view.Sound) (takes : view.TakesEach changes.entries)
    (apart : Apart changes) (recorded : changes.lookup key = some change) :
    (view.replay changes.entries).getBlock (localOfKey key) = change := by
  rw [(replay_spec sound takes).2]
  apply foldl_update_eq localOfKey
  · intro other mem same
    have found := Table.mem_entries_iff.mp mem
    have key := apart _ _ _ _ found recorded same
    rw [key, recorded] at found
    exact Option.some.inj found.symm
  · exact Or.inl ⟨⟨key, change⟩, Table.mem_entries_iff.mpr recorded, rfl⟩

theorem getBlock_replay_of_none (sound : view.Sound) (takes : view.TakesEach changes.entries)
    (none : ∀ key change, changes.lookup key = some change → localOfKey key ≠ cell) :
    (view.replay changes.entries).getBlock cell = view.getBlock cell := by
  rw [(replay_spec sound takes).2]
  apply foldl_update_eq localOfKey
  · intro other mem same
    exact absurd same (none _ _ (Table.mem_entries_iff.mp mem))
  · exact Or.inr rfl

end ChunkView

end GtnhPlatform.Client
