import GtnhPlatform.ChunkStore.BlockStore

namespace GtnhPlatform.ChunkStore

/-! What the chunk store is for: a map from positions to block and metadata. -/

theorem shiftRight_toInt (coordinate : Int32) :
    (coordinate >>> 5).toInt = coordinate.toInt / 32 := by
  have bits : (coordinate >>> 5).toBitVec = coordinate.toBitVec.sshiftRight 5 := rfl
  rw [← Int32.toInt_toBitVec, bits, BitVec.toInt_sshiftRight, Int.shiftRight_eq_div_pow]
  rfl

theorem inChunk_toInt (coordinate : Int32) :
    ((BlockPos.inChunk coordinate).val : Int) = coordinate.toInt % 32 := by
  have value : (BlockPos.inChunk coordinate).val = coordinate.toUInt32.toNat % 2 ^ 5 := by
    change (coordinate.toUInt32 &&& 31).toNat = _
    rw [UInt32.toNat_and]
    exact Nat.and_two_pow_sub_one_eq_mod _ 5
  have word : coordinate.toInt = Int.bmod coordinate.toUInt32.toNat (2 ^ 32) := by
    rw [← Int32.toInt_toBitVec, BitVec.toInt_eq_toNat_bmod]
    rfl
  rw [value, word, Int.bmod_def]
  split <;> omega

def InField (coordinate : Int32) : Prop := -1048576 ≤ coordinate.toInt ∧ coordinate.toInt < 1048576

theorem field_toNat {coordinate : Int32} (inField : InField coordinate) :
    (coordinate.toInt64 + CHUNK_KEY_BIAS).toUInt64.toNat = (coordinate.toInt + 1048576).toNat := by
  obtain ⟨low, high⟩ := inField
  have bias : CHUNK_KEY_BIAS.toInt = 1048576 := rfl
  have sum : (coordinate.toInt64 + CHUNK_KEY_BIAS).toInt = coordinate.toInt + 1048576 := by
    rw [Int64.toInt_add, Int32.toInt_toInt64, bias]
    apply Int.bmod_eq_of_le <;> omega
  have nonneg : 0 ≤ coordinate.toInt64 + CHUNK_KEY_BIAS := by
    rw [Int64.le_iff_toInt_le, sum]
    have zero : (0 : Int64).toInt = 0 := rfl
    omega
  rw [Int64.toNat_toUInt64_of_le nonneg, Int64.toNatClampNeg, sum]

theorem packed_toNat {x y z : UInt64} (xSmall : x.toNat < 2 ^ 21) (ySmall : y.toNat < 2 ^ 21)
    (zSmall : z.toNat < 2 ^ 21) : ((x <<< 42) ||| (y <<< 21) ||| z).toNat =
      x.toNat * 2 ^ 42 + (y.toNat * 2 ^ 21 + z.toNat) := by
  have high : (x <<< 42).toNat = x.toNat <<< 42 := by
    have place : (42 : UInt64).toNat % 64 = 42 := rfl
    rw [UInt64.toNat_shiftLeft, place, Nat.shiftLeft_eq]
    exact Nat.mod_eq_of_lt (by omega)
  have middle : (y <<< 21).toNat = y.toNat <<< 21 := by
    have place : (21 : UInt64).toNat % 64 = 21 := rfl
    rw [UInt64.toNat_shiftLeft, place, Nat.shiftLeft_eq]
    exact Nat.mod_eq_of_lt (by omega)
  have low : y.toNat <<< 21 ||| z.toNat = y.toNat * 2 ^ 21 + z.toNat := by
    rw [← Nat.shiftLeft_add_eq_or_of_lt zSmall, Nat.shiftLeft_eq]
  rw [UInt64.toNat_or, UInt64.toNat_or, high, middle, Nat.or_assoc, low,
    ← Nat.shiftLeft_add_eq_or_of_lt (by omega), Nat.shiftLeft_eq]

structure Addressable (c : ChunkCoord) : Prop where
  x : InField c.x
  y : InField c.y
  z : InField c.z

theorem makeKey_injOn : Set.InjOn makeKey {c | Addressable c} := by
  intro c here other there same
  have small : ∀ {coordinate}, InField coordinate →
      (coordinate.toInt64 + CHUNK_KEY_BIAS).toUInt64.toNat < 2 ^ 21 := by
    intro coordinate inField
    rw [field_toNat inField]
    obtain ⟨low, high⟩ := inField
    omega
  have bits := congrArg (fun key : Int64 => key.toUInt64.toNat) same
  dsimp only [makeKey] at bits
  rw [UInt64.toUInt64_toInt64, UInt64.toUInt64_toInt64,
    packed_toNat (small here.x) (small here.y) (small here.z),
    packed_toNat (small there.x) (small there.y) (small there.z),
    field_toNat here.x, field_toNat here.y, field_toNat here.z,
    field_toNat there.x, field_toNat there.y, field_toNat there.z] at bits
  obtain ⟨⟨xLow, xHigh⟩, ⟨yLow, yHigh⟩, ⟨zLow, zHigh⟩⟩ := here
  obtain ⟨⟨otherXLow, otherXHigh⟩, ⟨otherYLow, otherYHigh⟩, ⟨otherZLow, otherZHigh⟩⟩ := there
  obtain ⟨x, y, z⟩ := c
  obtain ⟨otherX, otherY, otherZ⟩ := other
  dsimp only at *
  have sameX : x.toInt = otherX.toInt := by omega
  have sameY : y.toInt = otherY.toInt := by omega
  have sameZ : z.toInt = otherZ.toInt := by omega
  rw [Int32.toInt_inj.mp sameX, Int32.toInt_inj.mp sameY, Int32.toInt_inj.mp sameZ]

abbrev World := ChunkCoord → Option Content

inductive MapReply where
  | done (success : Bool)
  | swapped (result : CasResult)
  | chunk (content : Option Content)
  | block (id : UInt16)
  | metadata (value : UInt8)

def StoreReply.seen : StoreReply → MapReply
  | .done success => .done success
  | .swapped result => .swapped result
  | .chunk found => .chunk (found.map MutableChunk.content)
  | .block id => .block id
  | .metadata value => .metadata value
  | .palette wire => .chunk (wire.bind MutableChunk.wireContent)

namespace World

variable (world : World)

def known (c : ChunkCoord) (fresh : Content) : Content := (world c).getD fresh

def load (c : ChunkCoord) (fresh : Content) : World :=
  Function.update world c (some (world.known c fresh))

def value (pos : BlockPos) : UInt16 × UInt8 := world.known pos.chunkCoord Content.air pos.localPos

def write (pos : BlockPos) (cell : UInt16 × UInt8) : World := Function.update world pos.chunkCoord
    (some (Function.update (world.known pos.chunkCoord Content.air) pos.localPos cell))

def handle (generateTerrain : ChunkCoord → Fin (SEC_VOL * SEC_CNT) → UInt16) :
    StoreOp → World × List MapReply
  | .setBlock pos id value _ => (world.write pos (id, value), [.done true])
  | .casBlock pos expectedId newId newMeta =>
    match world pos.chunkCoord with
    | none => (world, [.swapped ⟨.conflict, 0, 0⟩])
    | some content =>
      if (content pos.localPos).1 ≠ expectedId then
        (world, [.swapped ⟨.conflict, (content pos.localPos).1, (content pos.localPos).2⟩])
      else (world.write pos (newId, newMeta), [.swapped ⟨.ok, newId, newMeta⟩])
  | .saveChunk chunk coord => (Function.update world coord (some chunk.content), [.done true])
  | .getChunk coord =>
    (world.load coord Content.air, [.chunk (some (world.known coord Content.air))])
  | .getBlockAt pos => (world.load pos.chunkCoord Content.air, [.block (world.value pos).1])
  | .getMeta pos => (world.load pos.chunkCoord Content.air, [.metadata (world.value pos).2])
  | .asyncGetChunk coord =>
    let terrain := Content.ofBlocks (generateTerrain coord)
    (world.load coord terrain, [.chunk (some (world.known coord terrain))])
  | .flushDirtyChunks | .evict _ | .reopen => (world, [])

def machine (generateTerrain : ChunkCoord → Fin (SEC_VOL * SEC_CNT) → UInt16) :
    Machine World StoreOp MapReply :=
  ⟨fun world => world.handle generateTerrain⟩

def ofStored (stored : Table Int64 (List UInt8)) : World :=
  fun c => (stored.lookup (makeKey c)).bind MutableChunk.wireContent

end World

namespace BlockStore

variable (state : BlockStore)

def chunkAt (key : Int64) : MutableChunk :=
  match state.cache.lookup key with
  | some cached => cached
  | none => ((state.stored.lookup key).bind MutableChunk.fromWire).getD MutableChunk.empty

def Held (key : Int64) (chunk : MutableChunk) : Prop :=
  (state.stored.lookup key).bind MutableChunk.wireContent = some chunk.content

def StartsAsAir (c : ChunkCoord) : Prop :=
  state.cache.lookup (makeKey c) = none → state.stored.lookup (makeKey c) = none →
    state.nextChunk.content = Content.air

def Flushes (key : Int64) (chunk : MutableChunk) : Prop :=
  if key ∈ state.dirtyChunks.keys then (state.pendingLmdb.lookup key).isSome ∨ chunk.Storable
  else state.Held key chunk

def Safe : StoreOp → Prop
  | .setBlock pos id _ _ => (state.chunkAt (makeKey pos.chunkCoord)).Takes pos.localPos id
  | .casBlock pos expectedId newId _ =>
    (state.chunkAt (makeKey pos.chunkCoord)).getBlock pos.localPos = expectedId →
      (state.chunkAt (makeKey pos.chunkCoord)).Takes pos.localPos newId
  | .saveChunk chunk coord =>
    chunk.Sound ∧ (∀ cached, state.cache.lookup (makeKey coord) = some cached →
        cached.content = chunk.content) ∧
      (∀ palette, state.pendingLmdb.lookup (makeKey coord) = some palette →
        MutableChunk.wireContent palette = some chunk.content) ∧
      (state.cache.lookup (makeKey coord) = none → chunk.Storable)
  | .getChunk coord => state.StartsAsAir coord
  | .getBlockAt pos | .getMeta pos => state.StartsAsAir pos.chunkCoord
  | .asyncGetChunk coord =>
    ∀ cached, state.cache.lookup (makeKey coord) = some cached →
      state.pendingLmdb.lookup (makeKey coord) = none → cached.Storable
  | .flushDirtyChunks => True
  | .evict key => ∀ chunk, state.cache.lookup key = some chunk → state.Held key chunk
  | .reopen => ∀ key chunk, state.cache.lookup key = some chunk → state.Flushes key chunk

end BlockStore

end GtnhPlatform.ChunkStore
