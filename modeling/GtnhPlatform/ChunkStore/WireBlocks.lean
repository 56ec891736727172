import GtnhPlatform.ChunkStore.RecycledChunks

namespace GtnhPlatform.ChunkStore

open AList Table

namespace BlockPos

/-- Another position that the store cannot tell apart from this one. -/
def twin (pos : BlockPos) : BlockPos := { pos with x := pos.x + 134217728 }

variable (pos : BlockPos)

theorem toInt_shift (x : Int32) : (x + 134217728).toInt = x.toInt + 134217728 ∨
      (x + 134217728).toInt = x.toInt + 134217728 - 4294967296 := by
  have low := x.le_toInt
  have high := x.toInt_lt
  have step : (134217728 : Int32).toInt = 134217728 := rfl
  rw [Int32.toInt_add, step, Int.bmod_def]
  split <;> omega

theorem twin_ne : pos.twin ≠ pos := by
  intro same
  have x : (pos.x + 134217728).toInt = pos.x.toInt := congrArg (fun pos => pos.x.toInt) same
  cases toInt_shift pos.x <;> omega

theorem twin_localPos : pos.twin.localPos = pos.localPos := by
  have x : inChunk (pos.x + 134217728) = inChunk pos.x := by
    have first := inChunk_toInt (pos.x + 134217728)
    have second := inChunk_toInt pos.x
    apply Fin.ext
    cases toInt_shift pos.x <;> omega
  rw [localPos, localPos, twin]
  rw [x]

theorem shifted_out {a b : Int64} (same : a.toInt % 4194304 = b.toInt % 4194304) :
    a.toUInt64 <<< 42 = b.toUInt64 <<< 42 := by
  have word : ∀ c : Int64, c.toInt = Int.bmod c.toUInt64.toNat (2 ^ 64) := fun c => by
    rw [← Int64.toInt_toBitVec, BitVec.toInt_eq_toNat_bmod]
    rfl
  have place : (42 : UInt64).toNat % 64 = 42 := rfl
  have first := word a
  have second := word b
  rw [Int.bmod_def] at first second
  apply UInt64.toNat_inj.mp
  rw [UInt64.toNat_shiftLeft, UInt64.toNat_shiftLeft, place, Nat.shiftLeft_eq, Nat.shiftLeft_eq]
  omega

theorem twin_key : makeKey pos.twin.chunkCoord = makeKey pos.chunkCoord := by
  have bias : ∀ x : Int32, ((x >>> 5).toInt64 + CHUNK_KEY_BIAS).toInt = x.toInt / 32 + 1048576 := by
    intro x
    have low := x.le_toInt
    have high := x.toInt_lt
    have value : CHUNK_KEY_BIAS.toInt = 1048576 := rfl
    rw [Int64.toInt_add, Int32.toInt_toInt64, value, shiftRight_toInt]
    apply Int.bmod_eq_of_le <;> omega
  have x : (((pos.x + 134217728) >>> 5).toInt64 + CHUNK_KEY_BIAS).toUInt64 <<< 42 =
      ((pos.x >>> 5).toInt64 + CHUNK_KEY_BIAS).toUInt64 <<< 42 := by
    apply shifted_out
    rw [bias, bias]
    cases toInt_shift pos.x <;> omega
  rw [makeKey, makeKey, chunkCoord, chunkCoord, twin]
  rw [x]

def landing : BlockPos := ⟨pos.x >>> 5, pos.y >>> 5, pos.z >>> 5⟩

end BlockPos

namespace BlockStore

variable {state next : BlockStore} {c : ChunkCoord}

def getMultiblock (state : BlockStore) (pos : BlockPos) : BlockStore × UInt32 :=
  let result := state.getChunk pos.chunkCoord
  (result.1, (result.2.map fun chunk => chunk.getMultiblock pos.localPos).getD 0)

def handleGetBlock (state : BlockStore) (pos : BlockPos) : BlockStore × UInt16 × UInt8 × UInt32 :=
  let block := state.getBlockAt pos
  let metadata := block.1.getMeta pos
  let multiblock := metadata.1.getMultiblock pos
  (multiblock.1, block.2, metadata.2, multiblock.2)

/-- The overload `SetBlock`, to which the position in the chunk is of no use. -/
def setBlockIn (state : BlockStore) (coord : ChunkCoord) (_pos : BlockPos) (id : UInt16)
    (value : UInt8) (leftover : MutableChunk) : BlockStore × Bool :=
  (state.setBlock ⟨coord.x, coord.y, coord.z⟩ id value leftover, true)

def handleSetBlock (state : BlockStore) (pos : BlockPos) (id : UInt16) (value : UInt8)
    (leftover : MutableChunk) : BlockStore × Bool :=
  state.setBlockIn pos.chunkCoord ⟨pos.x &&& 31, pos.y &&& 31, pos.z &&& 31⟩ id value leftover

def Lands (state : BlockStore) (pos : BlockPos) (id : UInt16) (value : UInt8)
    (leftover : MutableChunk) : Prop :=
  (state.handleSetBlock pos id value leftover).2 = true →
    (∃ mbId, ((state.handleSetBlock pos id value leftover).1.handleGetBlock pos).2 =
      (id, value, mbId)) ∧
    ∀ other, other ≠ pos → ((state.handleSetBlock pos id value leftover).1.handleGetBlock other).2 =
        (state.handleGetBlock other).2

/-- The chunk that a write changes: the cached one or `local`. -/
def changedChunk (state : BlockStore) (key : Int64) (leftover : MutableChunk) : MutableChunk :=
  (state.cache.lookup key).getD (state.localChunk key leftover)

structure Unseen (state : BlockStore) (pos : BlockPos) (id : UInt16) (value : UInt8)
    (leftover : MutableChunk) : Prop where
  chunk : ∀ other : BlockPos, makeKey other.chunkCoord = makeKey pos.chunkCoord →
    (state.handleGetBlock other).2 =
      ((state.changedChunk (makeKey pos.chunkCoord) leftover).put pos.localPos id value).view
        other.localPos
  pool : state.cache.lookup (makeKey pos.chunkCoord) = none → ∀ other : BlockPos,
    makeKey other.chunkCoord ≠ makeKey pos.chunkCoord →
    state.cache.lookup (makeKey other.chunkCoord) = none →
    state.stored.lookup (makeKey other.chunkCoord) = none →
      state.takeFromPool.nextChunk.view other.localPos = state.nextChunk.view other.localPos

theorem getChunk_again : ((state.getChunk c).1.getChunk c).2 = (state.getChunk c).2 := by
  have shown : ∀ chunk, ((state.takeFromPool.putCache (makeKey c) chunk).getChunk c).2 =
      some chunk := by
    intro chunk
    rw [getChunk, show (state.takeFromPool.putCache (makeKey c) chunk).cache.lookup (makeKey c) =
      some chunk from lookup_insert_self _ _ _]
  cases cached : state.cache.lookup (makeKey c) with
  | some chunk =>
    have first : state.getChunk c = (state, some chunk) := by rw [getChunk, cached]
    rw [first, first]
  | none =>
    cases stored : state.stored.lookup (makeKey c) with
    | none =>
      have first : state.getChunk c =
          (state.takeFromPool.putCache (makeKey c) state.nextChunk, some state.nextChunk) := by
        rw [getChunk, cached]
        rw [stored]
      rw [first]
      exact shown _
    | some wire =>
      have first : ∀ (start : BlockStore) found, MutableChunk.fromWire wire = found →
          start.cache.lookup (makeKey c) = none → start.stored.lookup (makeKey c) = some wire →
          start.getChunk c = found.elim (start.takeFromPool, none) fun chunk =>
            (start.takeFromPool.putCache (makeKey c) chunk, some chunk) := by
        intro start found decoded uncached kept
        rw [getChunk, uncached]
        rw [kept]
        dsimp only
        rw [decoded]
        cases found <;> rfl
      rw [first state _ rfl cached stored]
      cases decoded : MutableChunk.fromWire wire with
      | some chunk => exact shown chunk
      | none =>
        change (state.takeFromPool.getChunk c).2 = none
        rw [first state.takeFromPool none decoded cached stored]
        rfl

theorem handleGetBlock_eq (pos : BlockPos) :
    (state.handleGetBlock pos).2 =
      ((state.served pos.chunkCoord).map fun view => view pos.localPos).getD (0, 0, 0) := by
  simp only [handleGetBlock, getBlockAt, getMeta, getMultiblock, getChunk_again, served]
  cases (state.getChunk pos.chunkCoord).2 with
  | none => rfl
  | some chunk => rfl

theorem served_of_key {other : ChunkCoord} (same : makeKey other = makeKey c) :
    state.served other = state.served c := by
  rw [served, served, getChunk, getChunk, same]

theorem handleGetBlock_twin (pos : BlockPos) :
    (state.handleGetBlock pos.twin).2 = (state.handleGetBlock pos).2 := by
  rw [handleGetBlock_eq, handleGetBlock_eq, pos.twin_localPos, served_of_key pos.twin_key]

section SetBlock

variable (pos : BlockPos) (id : UInt16) (value : UInt8) (leftover : MutableChunk)

theorem setBlock_cached :
    (state.setBlock pos id value leftover).cache.lookup (makeKey pos.chunkCoord) =
      some ((state.changedChunk (makeKey pos.chunkCoord) leftover).put pos.localPos id value) := by
  rw [setBlock, changedChunk]
  cases state.cache.lookup (makeKey pos.chunkCoord) with
  | some chunk => exact lookup_insert_self _ _ _
  | none => exact lookup_insert_self _ _ _

theorem setBlock_nextChunk : (state.setBlock pos id value leftover).nextChunk =
      if state.cache.lookup (makeKey pos.chunkCoord) = none then state.takeFromPool.nextChunk
      else state.nextChunk := by
  rw [setBlock]
  cases cached : state.cache.lookup (makeKey pos.chunkCoord) with
  | some chunk => rfl
  | none =>
    have bare : state.takeFromPool.recycleCached (makeKey pos.chunkCoord) = state.takeFromPool := by
      rw [recycleCached, show state.takeFromPool.cache.lookup (makeKey pos.chunkCoord) = none from
        cached]
    simp only [putCache, bare, markDirty, nextChunk, if_true]

theorem setBlock_unseen_iff :
    (∀ other, ((state.setBlock pos id value leftover).handleGetBlock other).2 =
      (state.handleGetBlock other).2) ↔ state.Unseen pos id value leftover := by
  have here : ∀ other : BlockPos, makeKey other.chunkCoord = makeKey pos.chunkCoord →
      ((state.setBlock pos id value leftover).handleGetBlock other).2 =
        ((state.changedChunk (makeKey pos.chunkCoord) leftover).put pos.localPos id value).view
          other.localPos := by
    intro other same
    rw [handleGetBlock_eq, served, getChunk, same, setBlock_cached]
    rfl
  have names : (StoreOp.setBlock pos id value leftover).coord = some pos.chunkCoord := rfl
  have within : Within state (state.setBlock pos id value leftover) (makeKey pos.chunkCoord) :=
    handle_within flatWorld names
  have elsewhere : ∀ other : BlockPos, makeKey other.chunkCoord ≠ makeKey pos.chunkCoord →
      (((state.setBlock pos id value leftover).handleGetBlock other).2 =
        (state.handleGetBlock other).2 ↔
      (state.cache.lookup (makeKey pos.chunkCoord) = none →
        state.cache.lookup (makeKey other.chunkCoord) = none →
        state.stored.lookup (makeKey other.chunkCoord) = none →
          state.takeFromPool.nextChunk.view other.localPos =
            state.nextChunk.view other.localPos)) := by
    intro other apart
    rw [handleGetBlock_eq, handleGetBlock_eq, served, served, getChunk, getChunk,
      within.cache _ apart, within.stored _ apart]
    cases state.cache.lookup (makeKey other.chunkCoord) with
    | some chunk => exact iff_of_true rfl fun _ wrong => absurd wrong (Option.some_ne_none _)
    | none =>
      cases state.stored.lookup (makeKey other.chunkCoord) with
      | some wire =>
        refine iff_of_true ?_ fun _ _ wrong => absurd wrong (Option.some_ne_none _)
        dsimp only
        cases MutableChunk.fromWire wire with
        | some chunk => rfl
        | none => rfl
      | none =>
        dsimp only
        rw [setBlock_nextChunk]
        split
        · next uncached => exact ⟨fun same _ _ _ => same, fun same => same uncached rfl rfl⟩
        · next cached => exact iff_of_true rfl fun wrong => absurd wrong cached
  constructor
  · intro same
    exact ⟨fun other atKey => (same other).symm.trans (here other atKey),
      fun uncached other apart => (elsewhere other apart).mp (same other) uncached⟩
  intro unseen other
  by_cases atKey : makeKey other.chunkCoord = makeKey pos.chunkCoord
  · exact (here other atKey).trans (unseen.chunk other atKey).symm
  · exact (elsewhere other atKey).mpr fun uncached => unseen.pool uncached other atKey

theorem lands_iff (state : BlockStore) (pos : BlockPos) (id : UInt16) (value : UInt8)
    (leftover : MutableChunk) : state.Lands pos id value leftover ↔
      (∃ mbId, (state.handleGetBlock pos).2 = (id, value, mbId)) ∧
        state.Unseen pos.landing id value leftover := by
  rw [← setBlock_unseen_iff]
  constructor
  · intro lands
    obtain ⟨placed, others⟩ := lands rfl
    have unchanged : ∀ other,
        ((state.setBlock pos.landing id value leftover).handleGetBlock other).2 =
          (state.handleGetBlock other).2 := by
      intro other
      by_cases same : other = pos
      · rw [same]
        exact (handleGetBlock_twin pos).symm.trans
          ((others pos.twin pos.twin_ne).trans (handleGetBlock_twin pos))
      · exact others other same
    exact ⟨unchanged pos ▸ placed, unchanged⟩
  · rintro ⟨placed, unchanged⟩ -
    exact ⟨(unchanged pos).symm ▸ placed, fun other _ => unchanged other⟩

end SetBlock

theorem block_set_elsewhere : ¬∀ (state : BlockStore) (pos : BlockPos) (id : UInt16) (value : UInt8)
      (leftover : MutableChunk), state.Lands pos id value leftover := by
  intro always
  obtain ⟨mbId, shown⟩ := (always (opened ∅) ⟨40, 70, 5⟩ 7 0 .empty rfl).1
  have block := congrArg Prod.fst shown
  change _ = (7 : UInt16) at block
  revert block
  decide

end BlockStore

end GtnhPlatform.ChunkStore
