import Mathlib.Algebra.Order.BigOperators.Group.List
import Mathlib.Data.Int.Bitwise

namespace GtnhPlatform

open List

/-! Machine integers. Where arithmetic can leave the range of its type the result is
reduced as the hardware reduces it. -/

def wrapU64 (value : Nat) : Nat := value % 2 ^ 64

def wrapU32 (value : Nat) : Nat := value % 2 ^ 32

def wrapI32 (value : Int) : Int := Int.bmod value (2 ^ 32)

theorem wrapU64_of_lt {value : Nat} (bound : value < 2 ^ 64) : wrapU64 value = value :=
  Nat.mod_eq_of_lt bound

variable {value : Int}

theorem wrapI32_of_bounds (lower : -2 ^ 31 ≤ value) (upper : value < 2 ^ 31) :
    wrapI32 value = value := by
  unfold wrapI32
  apply Int.bmod_eq_of_le <;> omega

theorem wrapI32_bounds (value : Int) : -2 ^ 31 ≤ wrapI32 value ∧ wrapI32 value < 2 ^ 31 := by
  unfold wrapI32
  have lower := Int.le_bmod (x := value) (m := 2 ^ 32) (by decide)
  have upper := Int.bmod_lt (x := value) (m := 2 ^ 32) (by decide)
  omega

theorem wrapI32_le (lower : 0 ≤ value) : wrapI32 value ≤ value := by
  unfold wrapI32
  have width : ((2 ^ 32 : Nat) : Int) = 4294967296 := rfl
  rw [Int.bmod_def, width]
  split <;> omega

theorem wrapI32_of_pos (lower : 0 ≤ value) (upper : value < 2 ^ 32) (positive : 0 < wrapI32 value) :
    wrapI32 value = value := by
  unfold wrapI32 at *
  rw [Int.bmod_def] at *
  rw [Int.emod_eq_of_lt lower (by simpa using upper)] at *
  split at positive
  · next small => rw [if_pos small]
  · omega

def FitsI32 (value : Int) : Prop := -2 ^ 31 ≤ value ∧ value < 2 ^ 31

instance (value : Int) : Decidable (FitsI32 value) := inferInstanceAs (Decidable (_ ∧ _))

def asI32 (value : Int) : Option Int := if FitsI32 value then some value else none

theorem asI32_eq_some {value result : Int} :
    asI32 value = some result ↔ FitsI32 value ∧ value = result := by
  rw [asI32]
  split
  · next fits => simp [fits]
  · next outside => simp [outside]

def addI32 (first second : Int) : Option Int :=
  if -2 ^ 31 ≤ first + second ∧ first + second < 2 ^ 31 then some (first + second) else none

def sumFromI32 : Int → List Int → Option Int
  | start, [] => some start
  | start, value :: rest => (addI32 start value).bind fun next => sumFromI32 next rest

def sumI32 (values : List Int) : Option Int := sumFromI32 0 values

variable {values : List Int}

theorem sumFromI32_of_nonneg (positive : ∀ value ∈ values, 0 ≤ value) (lower : 0 ≤ start)
    (upper : start < 2 ^ 31) : sumFromI32 start values =
      if start + values.sum < 2 ^ 31 then some (start + values.sum) else none := by
  induction values generalizing start with
  | nil =>
    rw [sumFromI32, sum_nil, Int.add_zero, if_pos upper]
  | cons value rest ih =>
    have first := positive value mem_cons_self
    have later := fun other mem => positive other (mem_cons_of_mem value mem)
    have more : 0 ≤ rest.sum := sum_nonneg later
    rw [sumFromI32, addI32, sum_cons, ← Int.add_assoc]
    by_cases fits : start + value < 2 ^ 31
    · rw [if_pos ⟨by omega, fits⟩, Option.bind_some, ih later (by omega) fits]
    · rw [if_neg fun both => fits both.2, if_neg (by omega)]
      rfl

theorem sumI32_of_nonneg (positive : ∀ value ∈ values, 0 ≤ value) :
    sumI32 values = if values.sum < 2 ^ 31 then some values.sum else none := by
  rw [sumI32, sumFromI32_of_nonneg positive le_rfl (by decide), Int.zero_add]

theorem toNat_toUInt8_eq_zero {byte : Int8} : byte.toUInt8.toNat = 0 ↔ byte = 0 := by
  constructor
  · intro zero
    have unsigned : byte.toUInt8 = 0 := UInt8.toNat_inj.mp zero
    rw [← Int8.toInt8_toUInt8 byte, unsigned]
    rfl
  · rintro rfl
    rfl

theorem toNat_toInt_eq_iff {byte : Int8} : byte.toInt.toNat = byte.toUInt8.toNat ↔ 0 ≤ byte := by
  constructor
  · intro same
    by_contra negative
    have below : byte.toInt < 0 := Int8.lt_iff_toInt_lt.mp (Int8.not_le.mp negative)
    have zero : byte.toUInt8.toNat = 0 := by
      rw [← same]
      omega
    exact negative (toNat_toUInt8_eq_zero.mp zero ▸ Int8.le_refl 0)
  · intro positive
    exact (Int8.toNat_toUInt8_of_le positive).symm

end GtnhPlatform
