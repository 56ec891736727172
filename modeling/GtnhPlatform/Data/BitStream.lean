import Mathlib.Data.List.Induction
import Mathlib.Data.Nat.Bitwise

namespace GtnhPlatform

open List

/-! Fields of a fixed width in a stream of bits, least significant bit first. -/

namespace BitStream

def bitAt (bytes : List UInt8) (position : Nat) : Bool :=
  (bytes.getD (position / 8) 0).toNat.testBit (position % 8)

variable {position : Nat}

theorem bitAt_append {bytes : List UInt8} (rest : List UInt8)
    (inside : position / 8 < bytes.length) :
    bitAt (bytes ++ rest) position = bitAt bytes position := by
  rw [bitAt, bitAt, getD_append _ _ _ _ inside]

structure Writer where
  bytes : List UInt8
  byte : Nat
  bitIdx : Nat

namespace Writer

def start : Writer := ⟨[], 0, 0⟩

def push (writer : Writer) (bit : Bool) : Writer :=
  let byte := writer.byte ||| (bit.toNat <<< writer.bitIdx)
  if writer.bitIdx + 1 = 8 then ⟨writer.bytes ++ [UInt8.ofNat byte], 0, 0⟩
  else ⟨writer.bytes, byte, writer.bitIdx + 1⟩

def finish (writer : Writer) : List UInt8 :=
  if writer.bitIdx ≠ 0 then writer.bytes ++ [UInt8.ofNat writer.byte] else writer.bytes

structure Holds (writer : Writer) (bits : List Bool) : Prop where
  size : writer.bytes.length * 8 + writer.bitIdx = bits.length
  partly : writer.bitIdx < 8
  small : writer.byte < 2 ^ writer.bitIdx
  full : ∀ position < writer.bytes.length * 8, bits[position]? = some (bitAt writer.bytes position)
  last : ∀ index < writer.bitIdx,
    bits[writer.bytes.length * 8 + index]? = some (writer.byte.testBit index)

theorem start_holds : start.Holds [] :=
  ⟨rfl, Nat.zero_lt_succ _, Nat.one_pos, fun _ inside => absurd inside (Nat.not_lt_zero _),
    fun _ inside => absurd inside (Nat.not_lt_zero _)⟩

variable {byte bitIdx : Nat}

theorem testBit_push (small : byte < 2 ^ bitIdx) (bit : Bool) (index : Nat) :
    (byte ||| (bit.toNat <<< bitIdx)).testBit index =
      if index = bitIdx then bit else byte.testBit index := by
  rw [Nat.testBit_or, Nat.testBit_shiftLeft]
  rcases Nat.lt_trichotomy index bitIdx with before | rfl | after
  · simp [before.ne, not_le.mpr before]
  · rw [if_pos rfl, Nat.testBit_lt_two_pow small]
    cases bit <;> simp
  have high : byte.testBit index = false :=
    Nat.testBit_lt_two_pow (small.trans_le (Nat.pow_le_pow_right (by decide) after.le))
  have beyond : bit.toNat < 2 ^ (index - bitIdx) :=
    bit.toNat_le.trans_lt (Nat.one_lt_two_pow (Nat.sub_ne_zero_of_lt after))
  rw [if_neg after.ne', high, Nat.testBit_lt_two_pow beyond, Bool.and_false, Bool.false_or]

theorem push_lt (small : byte < 2 ^ bitIdx) (bit : Bool) :
    byte ||| (bit.toNat <<< bitIdx) < 2 ^ (bitIdx + 1) := by
  apply Nat.or_lt_two_pow
  · exact small.trans_le (Nat.pow_le_pow_right (by decide) (Nat.le_succ _))
  have one := Nat.mul_le_mul_right (2 ^ bitIdx) bit.toNat_le
  rw [Nat.shiftLeft_eq, pow_succ]
  omega

theorem Holds.push {writer : Writer} (holds : writer.Holds bits) (bit : Bool) :
    (writer.push bit).Holds (bits ++ [bit]) := by
  obtain ⟨size, partly, small, full, last⟩ := holds
  have before : ∀ {position : Nat} {value : Bool}, bits[position]? = some value →
      (bits ++ [bit])[position]? = some value := by
    intro position value found
    obtain ⟨inside, _⟩ := List.getElem?_eq_some_iff.mp found
    rw [getElem?_append_left inside, found]
  have new : (bits ++ [bit])[writer.bytes.length * 8 + writer.bitIdx]? = some bit := by
    rw [size, getElem?_concat_length]
  have bitOf : ∀ index < writer.bitIdx + 1, (bits ++ [bit])[writer.bytes.length * 8 + index]? =
        some ((writer.byte ||| (bit.toNat <<< writer.bitIdx)).testBit index) := by
    intro index inside
    rw [testBit_push small]
    by_cases same : index = writer.bitIdx
    · rw [if_pos same, same, new]
    · rw [if_neg same]
      exact before (last index (by omega))
  rw [Writer.push]
  by_cases flush : writer.bitIdx + 1 = 8
  · rw [if_pos flush]
    refine ⟨?_, Nat.zero_lt_succ _, Nat.one_pos, ?_, fun _ inside => absurd inside (Nat.not_lt_zero _)⟩
    · simp only [length_append, length_singleton]
      omega
    intro position inside
    simp only [length_append, length_singleton] at inside
    by_cases old : position < writer.bytes.length * 8
    · rw [bitAt_append _ (by omega)]
      exact before (full position old)
    obtain ⟨index, rfl⟩ := Nat.exists_eq_add_of_le (Nat.le_of_not_lt old)
    have byte : (writer.bytes.length * 8 + index) / 8 = writer.bytes.length := by omega
    have bitIdx : (writer.bytes.length * 8 + index) % 8 = index := by omega
    have fits : (writer.byte ||| (bit.toNat <<< writer.bitIdx)) < 256 := by
      have bound := push_lt small bit
      rwa [flush] at bound
    rw [bitOf index (by omega), bitAt, byte, bitIdx, getD_append_right _ _ _ _ le_rfl,
      Nat.sub_self, getD_cons_zero, UInt8.toNat_ofNat_of_lt' fits]
  · rw [if_neg flush]
    have room : writer.bitIdx + 1 < 8 := by omega
    refine ⟨?_, room, push_lt small bit, fun position inside => before (full position inside),
      bitOf⟩
    simp only [length_append, length_singleton]
    omega

end Writer

def pack (bits : List Bool) : List UInt8 := (bits.foldl Writer.push Writer.start).finish

theorem foldl_push_holds (bits : List Bool) : (bits.foldl Writer.push Writer.start).Holds bits := by
  induction bits using reverseRecOn with
  | nil => exact Writer.start_holds
  | append_singleton bits bit ih =>
    rw [foldl_append]
    exact ih.push bit

theorem pack_length (bits : List Bool) : (pack bits).length = (bits.length + 7) / 8 := by
  obtain ⟨size, partly, _, _, _⟩ := foldl_push_holds bits
  rw [pack, Writer.finish]
  split
  · rw [length_append, length_singleton]
    omega
  · omega

theorem bitAt_pack {bits : List Bool} (inside : position < bits.length) :
    bits[position]? = some (bitAt (pack bits) position) := by
  obtain ⟨size, partly, small, full, last⟩ := foldl_push_holds bits
  rw [pack, Writer.finish]
  generalize bits.foldl Writer.push Writer.start = writer at *
  by_cases old : position < writer.bytes.length * 8
  · rw [full position old]
    split
    · rw [bitAt_append _ (by omega)]
    · rfl
  · obtain ⟨index, rfl⟩ := Nat.exists_eq_add_of_le (Nat.le_of_not_lt old)
    have byte : (writer.bytes.length * 8 + index) / 8 = writer.bytes.length := by omega
    have bitIdx : (writer.bytes.length * 8 + index) % 8 = index := by omega
    have fits : writer.byte < 256 := small.trans_le (Nat.pow_le_pow_right (by decide) partly.le)
    rw [last index (by omega), if_pos (by omega), bitAt, byte, bitIdx,
      getD_append_right _ _ _ _ le_rfl, Nat.sub_self, getD_cons_zero,
      UInt8.toNat_ofNat_of_lt' fits]

def fieldBits (width value : Nat) : List Bool := (range width).map value.testBit

def packFields (width : Nat) (values : List Nat) : List UInt8 :=
  pack (values.flatMap (fieldBits width))

def readField (bytes : List UInt8) (position : Nat) : Nat → Nat
  | 0 => 0
  | width + 1 =>
    readField bytes position width ||| ((bitAt bytes (position + width)).toNat <<< width)

theorem fieldBits_length (width value : Nat) : (fieldBits width value).length = width := by
  simp [fieldBits]

theorem flatMap_fieldBits_length (width : Nat) (values : List Nat) :
    (values.flatMap (fieldBits width)).length = values.length * width := by
  induction values with
  | nil => simp
  | cons value rest ih =>
    rw [flatMap_cons, length_append, ih, fieldBits_length, length_cons, Nat.succ_mul, Nat.add_comm]

theorem packFields_length (width : Nat) (values : List Nat) :
    (packFields width values).length = (values.length * width + 7) / 8 := by
  rw [packFields, pack_length, flatMap_fieldBits_length]

variable {values : List Nat}

theorem flatMap_fieldBits_get {index value offset : Nat} (found : values[index]? = some value)
    (inside : offset < width) :
    (values.flatMap (fieldBits width))[index * width + offset]? = some (value.testBit offset) := by
  induction values generalizing index with
  | nil => cases found
  | cons first rest ih =>
    rw [flatMap_cons]
    cases index with
    | zero =>
      obtain rfl : first = value := Option.some.inj found
      rw [getElem?_append_left (by rw [fieldBits_length]; omega)]
      simp [fieldBits, inside]
    | succ index =>
      have further : (fieldBits width first).length ≤ (index + 1) * width + offset := by
        rw [fieldBits_length, Nat.succ_mul]
        omega
      rw [getElem?_append_right further, fieldBits_length, Nat.succ_mul]
      rw [show index * width + width + offset - width = index * width + offset by omega]
      exact ih found

theorem readField_lt (bytes : List UInt8) (position width : Nat) :
    readField bytes position width < 2 ^ width := by
  induction width with
  | zero => exact Nat.one_pos
  | succ width ih => exact Writer.push_lt ih _

theorem testBit_readField (bytes : List UInt8) (position width index : Nat) :
    (readField bytes position width).testBit index =
      if index < width then bitAt bytes (position + index) else false := by
  induction width with
  | zero => simp [readField]
  | succ width ih =>
    rw [readField, Writer.testBit_push (readField_lt bytes position width), ih]
    by_cases last : index = width
    · rw [if_pos last, if_pos (by omega), last]
    rw [if_neg last]
    by_cases inside : index < width
    · rw [if_pos inside, if_pos (by omega)]
    · rw [if_neg inside, if_neg (by omega)]

theorem readField_packFields (found : values[index]? = some value) (small : value < 2 ^ width)
    (rest : List UInt8) :
    readField (packFields width values ++ rest) (index * width) width = value := by
  apply Nat.eq_of_testBit_eq
  intro offset
  rw [testBit_readField]
  by_cases inside : offset < width
  · have bit := flatMap_fieldBits_get found inside
    obtain ⟨within, _⟩ := List.getElem?_eq_some_iff.mp bit
    have packed := bitAt_pack within
    have room : (index * width + offset) / 8 < (packFields width values).length := by
      rw [packFields_length, ← flatMap_fieldBits_length]
      omega
    rw [if_pos inside, bitAt_append _ room]
    rw [bit] at packed
    exact (Option.some.inj packed).symm
  · rw [if_neg inside]
    exact (Nat.testBit_lt_two_pow
      (small.trans_le (Nat.pow_le_pow_right (by decide) (Nat.le_of_not_lt inside)))).symm

theorem readField_byte (bytes : List UInt8) (index : Nat) :
    readField bytes (index * 8) 8 = (bytes.getD index 0).toNat := by
  apply Nat.eq_of_testBit_eq
  intro offset
  rw [testBit_readField]
  by_cases inside : offset < 8
  · have byte : (index * 8 + offset) / 8 = index := by omega
    have bit : (index * 8 + offset) % 8 = offset := by omega
    rw [if_pos inside, bitAt, byte, bit]
  have small := (bytes.getD index 0).toNat_lt
  rw [if_neg inside]
  exact (Nat.testBit_lt_two_pow
    (small.trans_le (Nat.pow_le_pow_right (by decide) (Nat.le_of_not_lt inside)))).symm

end BitStream

end GtnhPlatform
