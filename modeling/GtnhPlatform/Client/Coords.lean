import Mathlib.Algebra.Order.Ring.Int

namespace GtnhPlatform.Client

structure BlockPos where
  x : Int
  y : Int
  z : Int
  deriving DecidableEq

structure ChunkCoord where
  x : Int
  y : Int
  z : Int
  deriving DecidableEq

def chunkKeyBias : Int := 2 ^ 20

/-- A coordinate moved by the bias, as a `uint64_t`. -/
def biased (coordinate : Int) : Nat := ((coordinate + chunkKeyBias) % 2 ^ 64).toNat

def packCoordinates (x y z : Int) : Nat :=
  ((biased x <<< 42) % 2 ^ 64) ||| ((biased y <<< 21) % 2 ^ 64) ||| biased z

def makeChunkKey (coord : ChunkCoord) : Nat := packCoordinates coord.x coord.y coord.z

def makeBlockPosKey (pos : BlockPos) : Nat := packCoordinates pos.x pos.y pos.z

def unpackedAt (shift key : Nat) : Int := ((key >>> shift % 2 ^ 21 : Nat) : Int) - chunkKeyBias

def chunkKeyToCoord (key : Nat) : ChunkCoord :=
  ⟨unpackedAt 42 key, unpackedAt 21 key, unpackedAt 0 key⟩

def InField (coordinate : Int) : Prop := -chunkKeyBias ≤ coordinate ∧ coordinate < chunkKeyBias

theorem biased_of_inField (inField : InField coordinate) :
    biased coordinate < 2 ^ 21 ∧ (biased coordinate : Int) = coordinate + chunkKeyBias := by
  obtain ⟨low, high⟩ := inField
  unfold biased
  unfold chunkKeyBias at *
  omega

theorem packCoordinates_of_inField (xField : InField x) (yField : InField y) (zField : InField z) :
    packCoordinates x y z = biased x * 2 ^ 42 + (biased y * 2 ^ 21 + biased z) := by
  have xSmall := (biased_of_inField xField).1
  have ySmall := (biased_of_inField yField).1
  have zSmall := (biased_of_inField zField).1
  have high : biased x <<< 42 % 2 ^ 64 = biased x <<< 42 := by
    rw [Nat.shiftLeft_eq]
    exact Nat.mod_eq_of_lt (by omega)
  have middle : biased y <<< 21 % 2 ^ 64 = biased y <<< 21 := by
    rw [Nat.shiftLeft_eq]
    exact Nat.mod_eq_of_lt (by omega)
  have low : biased y <<< 21 ||| biased z = biased y * 2 ^ 21 + biased z := by
    rw [← Nat.shiftLeft_add_eq_or_of_lt zSmall, Nat.shiftLeft_eq]
  rw [packCoordinates, high, middle, Nat.or_assoc, low,
    ← Nat.shiftLeft_add_eq_or_of_lt (by omega), Nat.shiftLeft_eq]

theorem unpackedAt_packCoordinates (xField : InField x) (yField : InField y) (zField : InField z) :
    unpackedAt 42 (packCoordinates x y z) = x ∧ unpackedAt 21 (packCoordinates x y z) = y ∧
      unpackedAt 0 (packCoordinates x y z) = z := by
  obtain ⟨xSmall, xValue⟩ := biased_of_inField xField
  obtain ⟨ySmall, yValue⟩ := biased_of_inField yField
  obtain ⟨zSmall, zValue⟩ := biased_of_inField zField
  rw [packCoordinates_of_inField xField yField zField]
  generalize biased x = high at *
  generalize biased y = middle at *
  generalize biased z = low at *
  have first : (high * 2 ^ 42 + (middle * 2 ^ 21 + low)) / 2 ^ 42 = high := by omega
  have second : (high * 2 ^ 42 + (middle * 2 ^ 21 + low)) / 2 ^ 21 = high * 2 ^ 21 + middle := by
    omega
  simp only [unpackedAt, Nat.shiftRight_eq_div_pow, first, second, Nat.pow_zero, Nat.div_one]
  refine ⟨?_, ?_, ?_⟩ <;> omega

end GtnhPlatform.Client
