import Mathlib.Algebra.Order.Ring.Nat
import Mathlib.Tactic.Ring

namespace GtnhPlatform

open List

namespace Bytes

def bigEndian : List UInt8 → Nat
  | [] => 0
  | byte :: rest => byte.toNat * 256 ^ rest.length + bigEndian rest

def putBigEndian : Nat → Nat → List UInt8
  | 0, _ => []
  | width + 1, value => UInt8.ofNat (value / 256 ^ width) :: putBigEndian width value

@[simp] theorem length_putBigEndian (width value : Nat) :
    (putBigEndian width value).length = width := by
  induction width with
  | zero => rfl
  | succ width ih => rw [putBigEndian, length_cons, ih]

theorem bigEndian_putBigEndian (width value : Nat) :
    bigEndian (putBigEndian width value) = value % 256 ^ width := by
  induction width with
  | zero => simp [putBigEndian, bigEndian, Nat.mod_one]
  | succ width ih =>
    have digit : (UInt8.ofNat (value / 256 ^ width)).toNat = value / 256 ^ width % 256 := by
      simp
    rw [putBigEndian, bigEndian, length_putBigEndian, ih, digit, pow_succ, Nat.mod_mul]
    ring

theorem bigEndian_lt (bytes : List UInt8) : bigEndian bytes < 256 ^ bytes.length := by
  induction bytes with
  | nil => simp [bigEndian]
  | cons byte rest ih =>
    have digit : byte.toNat + 1 ≤ 256 := byte.toNat_lt
    have scaled : (byte.toNat + 1) * 256 ^ rest.length ≤ 256 * 256 ^ rest.length :=
      Nat.mul_le_mul_right _ digit
    rw [bigEndian, length_cons, pow_succ, Nat.mul_comm (256 ^ rest.length)]
    rw [Nat.add_mul, Nat.one_mul] at scaled
    omega

def littleEndian : List UInt8 → Nat
  | [] => 0
  | byte :: rest => byte.toNat + 256 * littleEndian rest

theorem littleEndian_lt (bytes : List UInt8) : littleEndian bytes < 256 ^ bytes.length := by
  induction bytes with
  | nil => simp [littleEndian]
  | cons byte rest ih =>
    have digit : byte.toNat < 256 := byte.toNat_lt
    rw [littleEndian, length_cons, pow_succ]
    omega

def putLittleEndian : Nat → Nat → List UInt8
  | 0, _ => []
  | width + 1, value => UInt8.ofNat value :: putLittleEndian width (value / 256)

@[simp] theorem length_putLittleEndian (width value : Nat) :
    (putLittleEndian width value).length = width := by
  induction width generalizing value with
  | zero => rfl
  | succ width ih => rw [putLittleEndian, length_cons, ih]

theorem littleEndian_putLittleEndian (width value : Nat) :
    littleEndian (putLittleEndian width value) = value % 256 ^ width := by
  induction width generalizing value with
  | zero => simp [putLittleEndian, littleEndian, Nat.mod_one]
  | succ width ih =>
    have digit : (UInt8.ofNat value).toNat = value % 256 := by simp
    rw [putLittleEndian, littleEndian, ih, digit, pow_succ, Nat.mul_comm (256 ^ width), Nat.mod_mul]

def zeros (size : Nat) : List UInt8 := replicate size 0

/-- `copy(buffer[offset:], bytes)`: what does not fit is dropped. -/
def write (offset : Nat) (bytes buffer : List UInt8) : List UInt8 :=
  buffer.take offset ++ bytes.take (buffer.length - offset) ++ buffer.drop (offset + bytes.length)

theorem write_append {done rest bytes : List UInt8} (reached : done.length = offset)
    (fits : bytes.length ≤ rest.length) :
    write offset bytes (done ++ rest) = done ++ bytes ++ rest.drop bytes.length := by
  subst reached
  have room : bytes.length ≤ (done ++ rest).length - done.length := by
    rw [length_append]
    omega
  rw [write, take_left, take_of_length_le room, drop_append,
    drop_eq_nil_of_le (Nat.le_add_right _ _), Nat.add_sub_cancel_left, nil_append]

theorem write_zero {rest bytes : List UInt8} (fits : bytes.length ≤ rest.length) :
    write 0 bytes rest = bytes ++ rest.drop bytes.length := by
  have empty : ([] : List UInt8).length = 0 := rfl
  exact write_append empty fits

end Bytes

end GtnhPlatform
