import GtnhPlatform.Data.Text
import Mathlib.Data.List.Induction
import Mathlib.Tactic.Ring

namespace GtnhPlatform.Registry

open List

namespace ItemId

/-- What stands before and after the last colon. -/
def splitLast : List Char → Option (List Char × List Char)
  | [] => none
  | char :: rest =>
    match splitLast rest with
    | some (before, after) => some (char :: before, after)
    | none => if char = ':' then some ([], rest) else none

def pushDigit (value : UInt16) (char : Char) : UInt16 :=
  if '0' ≤ char ∧ char ≤ '9' then value * 10 + UInt16.ofNat (char.toNat - 48) else value

def pushBit (bits : UInt16 × Nat) (char : Char) : UInt16 × Nat :=
  if char = '0' then (bits.1 <<< 1 ||| 0, bits.2 + 1)
  else if char = '1' then (bits.1 <<< 1 ||| 1, bits.2 + 1)
  else bits

def pack (text : List Char) : UInt16 :=
  if text = [] then 0
  else
    match splitLast text with
    | none => text.foldl pushDigit 0
    | some (before, after) =>
      let bits := before.foldl pushBit (0, 0)
      if bits.2 > 15 then 0
      else
        let payload := after.foldl pushDigit 0
        let shift := 16 - bits.2
        UInt16.ofNat (bits.1.toNat <<< shift ||| payload.toNat)

inductive Category
  | base
  | ores
  | materials
  | machines
  | infra

def category (id : UInt16) : Category :=
  if id < pack "10:0".toList then .base
  else if id < pack "110:0".toList then .ores
  else if id < pack "1110:0".toList then .materials
  else if id < pack "1111:0".toList then .machines
  else .infra

end ItemId

def unsigned : List Char → List Char
  | '-' :: rest => rest
  | text => text

/-- `std::from_chars` of an `int`, with nothing left over. -/
def integer (text : List Char) : Option Int :=
  let magnitude := Nat.ofDigitChars 10 (unsigned text) 0
  let value : Int := if text.head? = some '-' then -magnitude else magnitude
  if unsigned text = [] ∨ ¬ (unsigned text).all Char.isDigit then none
  else if -2 ^ 31 ≤ value ∧ value < 2 ^ 31 then some value
  else none

def parseItemId (text : List Char) : Option UInt16 :=
  if text = [] then none
  else if text.any fun char => char ≠ ':' && (decide (char < '0') || decide (char > '9')) then none
  else
    match ItemId.splitLast text with
    | none =>
      match integer text with
      | none => none
      | some value => if value < 0 ∨ value > 65535 then none else some (UInt16.ofNat value.toNat)
    | some (before, after) =>
      if before = [] ∨ after = [] then none
      else if before.any fun char => char ≠ ':' && char ≠ '0' && char ≠ '1' then none
      else
        match integer after with
        | none => none
        | some payload =>
          if payload < 0 ∨ payload > 65535 then none
          else
            let id := ItemId.pack text
            if id ≠ 0 ∨ text = "0".toList ∨ text = "0:0:0".toList then some id else none

namespace ItemId

def bitsOf (before : List Char) : List Bool :=
  before.filterMap fun char =>
    if char = '0' then some false else if char = '1' then some true else none

def prefixBits (text : List Char) : List Bool :=
  match splitLast text with
  | none => []
  | some (before, _) => bitsOf before

def payload (text : List Char) : Nat :=
  match splitLast text with
  | none => 0
  | some (_, after) => Nat.ofDigitChars 10 after 0

def bitsValue (bits : List Bool) : Nat := bits.foldl (fun value bit => 2 * value + bit.toNat) 0

def namedCategory : List Bool → Option Category
  | false :: _ => some .base
  | true :: false :: _ => some .ores
  | true :: true :: false :: _ => some .materials
  | true :: true :: true :: false :: _ => some .machines
  | true :: true :: true :: true :: _ => some .infra
  | _ => none

/-- The prefix bits come first in the id, the payload fills the rest. -/
structure Decodes (bits : List Bool) (payload : Nat) (id : UInt16) : Prop where
  length : bits.length ≤ 16
  top : id.toNat / 2 ^ (16 - bits.length) = bitsValue bits
  rest : id.toNat % 2 ^ (16 - bits.length) = payload
  category : ∀ named, namedCategory bits = some named → category id = named

structure Shaped (before after : List Char) : Prop where
  someBefore : before ≠ []
  someAfter : after ≠ []
  bits : ∀ char ∈ before, char = ':' ∨ char = '0' ∨ char = '1'
  digits : ∀ char ∈ after, char.isDigit = true

def PayloadSpills (text : List Char) : Prop :=
  (∃ before after, splitLast text = some (before, after) ∧ Shaped before after) ∧
    (prefixBits text).length ≤ 15 ∧ 2 ^ (16 - (prefixBits text).length) ≤ payload text ∧
    payload text ≤ 65535

end ItemId

namespace ItemId

variable {text before after : List Char} {bits : List Bool} {id : UInt16}

theorem splitLast_eq_none : splitLast text = none ↔ ':' ∉ text := by
  induction text with
  | nil => exact iff_of_true rfl not_mem_nil
  | cons char rest ih =>
    rw [splitLast, mem_cons, not_or]
    cases later : splitLast rest with
    | some parts =>
      rw [later] at ih
      exact iff_of_false nofun fun absent => absurd (ih.mpr absent.2) nofun
    | none =>
      have absent := ih.mp later
      by_cases colon : char = ':'
      · rw [if_pos colon]
        exact iff_of_false nofun fun other => other.1 colon.symm
      · rw [if_neg colon]
        exact iff_of_true rfl ⟨Ne.symm colon, absent⟩

theorem splitLast_eq_some (split : splitLast text = some (before, after)) :
    text = before ++ ':' :: after ∧ ':' ∉ after := by
  induction text generalizing before with
  | nil => exact absurd split nofun
  | cons char rest ih =>
    rw [splitLast] at split
    cases later : splitLast rest with
    | some parts =>
      obtain ⟨front, back⟩ := parts
      rw [later] at split
      cases split
      obtain ⟨whole, absent⟩ := ih later
      exact ⟨by rw [whole]; rfl, absent⟩
    | none =>
      rw [later] at split
      simp only at split
      split at split
      · next colon =>
        cases split
        exact ⟨by rw [colon]; rfl, splitLast_eq_none.mp later⟩
      · exact absurd split nofun

theorem isDigit_iff (char : Char) : char.isDigit = true ↔ '0' ≤ char ∧ char ≤ '9' := by
  rw [Char.isDigit, Bool.and_eq_true, decide_eq_true_iff, decide_eq_true_iff]
  rfl

theorem pushDigit_fold {digits : List Char} (all : ∀ char ∈ digits, char.isDigit = true)
    {value : UInt16} {number : Nat} (same : value.toNat = number % 2 ^ 16) :
    (digits.foldl pushDigit value).toNat = Nat.ofDigitChars 10 digits number % 2 ^ 16 := by
  induction digits generalizing value number with
  | nil => exact same
  | cons char rest ih =>
    obtain ⟨digit, others⟩ := forall_mem_cons.mp all
    rw [foldl_cons, Nat.ofDigitChars_cons]
    refine ih others ?_
    rw [pushDigit, if_pos ((isDigit_iff char).mp digit), UInt16.toNat_add, UInt16.toNat_mul,
      UInt16.toNat_ofNat', same]
    show (number % 2 ^ 16 * 10 % 2 ^ 16 + (char.toNat - 48) % 2 ^ 16) % 2 ^ 16 =
      (10 * number + (char.toNat - 48)) % 2 ^ 16
    omega

theorem pushed_toNat {value : UInt16} (same : value.toNat = number % 2 ^ 16) (bit : Bool) :
    (value <<< 1 ||| UInt16.ofNat bit.toNat).toNat = (2 * number + bit.toNat) % 2 ^ 16 := by
  have small : bit.toNat < 2 ^ 1 := by cases bit <;> decide
  have shifted : (value <<< 1).toNat = (value.toNat % 2 ^ 15) <<< 1 := by
    rw [UInt16.toNat_shiftLeft]
    show value.toNat <<< 1 % 2 ^ 16 = _
    rw [Nat.shiftLeft_eq, Nat.shiftLeft_eq]
    omega
  have narrow : (UInt16.ofNat bit.toNat).toNat = bit.toNat := by
    rw [UInt16.toNat_ofNat']
    omega
  rw [UInt16.toNat_or, shifted, narrow, ← Nat.shiftLeft_add_eq_or_of_lt small, Nat.shiftLeft_eq,
    same]
  omega

theorem pushBit_fold (before : List Char) {value : UInt16} {number : Nat} (length : Nat)
    (same : value.toNat = number % 2 ^ 16) :
    (before.foldl pushBit (value, length)).1.toNat =
        (bitsOf before).foldl (fun value bit => 2 * value + bit.toNat) number % 2 ^ 16 ∧
      (before.foldl pushBit (value, length)).2 = length + (bitsOf before).length := by
  induction before generalizing value number length with
  | nil => exact ⟨same, rfl⟩
  | cons char rest ih =>
    rw [foldl_cons, pushBit, bitsOf, filterMap_cons]
    split
    · obtain ⟨bits, count⟩ := ih (length + 1) (pushed_toNat same false)
      refine ⟨bits, ?_⟩
      rw [length_cons]
      exact count.trans (Nat.add_right_comm _ _ _)
    · split
      · obtain ⟨bits, count⟩ := ih (length + 1) (pushed_toNat same true)
        refine ⟨bits, ?_⟩
        rw [length_cons]
        exact count.trans (Nat.add_right_comm _ _ _)
      · exact ih length same

theorem bitsValue_append (front rest : List Bool) :
    bitsValue (front ++ rest) = bitsValue front * 2 ^ rest.length + bitsValue rest := by
  induction rest using reverseRecOn with
  | nil => simp [bitsValue]
  | append_singleton rest bit ih =>
    have pushed : ∀ bits, bitsValue (bits ++ [bit]) = 2 * bitsValue bits + bit.toNat := by
      intro bits
      rw [bitsValue, foldl_append]
      rfl
    rw [← append_assoc, pushed, pushed, ih, length_append, length_singleton, Nat.pow_succ]
    ring

theorem bitsValue_lt (bits : List Bool) : bitsValue bits < 2 ^ bits.length := by
  induction bits using reverseRecOn with
  | nil => decide
  | append_singleton bits bit ih =>
    have last : bitsValue [bit] < 2 := by cases bit <;> decide
    rw [bitsValue_append, length_append, length_singleton, Nat.pow_succ]
    omega

variable (split : splitLast text = some (before, after))

include split

theorem pack_of_long (long : 15 < (bitsOf before).length) : pack text = 0 := by
  have count := (@pushBit_fold before 0 0 0 rfl).2
  rw [pack]
  split
  · rfl
  · rw [split]
    simp only
    rw [if_pos (by omega)]

theorem pack_toNat (shaped : Shaped before after)
    (short : (bitsOf before).length ≤ 15) (small : Nat.ofDigitChars 10 after 0 ≤ 65535) :
    (pack text).toNat = (bitsValue (bitsOf before) <<< (16 - (bitsOf before).length) |||
      Nat.ofDigitChars 10 after 0) % 2 ^ 16 := by
  obtain ⟨bits, count⟩ := @pushBit_fold before 0 0 0 rfl
  have payload := @pushDigit_fold after shaped.digits 0 0 rfl
  have narrow := bitsValue_lt (bitsOf before)
  have bound : 2 ^ (bitsOf before).length ≤ 2 ^ 15 := Nat.pow_le_pow_right (by decide) short
  have value : (before.foldl pushBit (0, 0)).1.toNat = bitsValue (bitsOf before) := by
    rw [bits]
    exact Nat.mod_eq_of_lt (Nat.lt_of_lt_of_le narrow (Nat.le_trans bound (by decide)))
  have digits : (after.foldl pushDigit 0).toNat = Nat.ofDigitChars 10 after 0 := by
    rw [payload]
    exact Nat.mod_eq_of_lt (Nat.lt_succ_of_le small)
  have nonempty : text ≠ [] := by
    rintro rfl
    exact absurd split nofun
  rw [Nat.zero_add] at count
  rw [pack, if_neg nonempty, split]
  simp only
  rw [if_neg (by omega), UInt16.toNat_ofNat', value, digits, count]

theorem pack_fits (shaped : Shaped before after) (short : (bitsOf before).length ≤ 15)
    (fits : Nat.ofDigitChars 10 after 0 < 2 ^ (16 - (bitsOf before).length)) :
    (pack text).toNat = bitsValue (bitsOf before) * 2 ^ (16 - (bitsOf before).length) +
      Nat.ofDigitChars 10 after 0 := by
  have narrow := bitsValue_lt (bitsOf before)
  have whole : 2 ^ (bitsOf before).length * 2 ^ (16 - (bitsOf before).length) = 2 ^ 16 := by
    rw [← Nat.pow_add]
    congr 1
    omega
  have room : (bitsValue (bitsOf before) + 1) * 2 ^ (16 - (bitsOf before).length) ≤ 2 ^ 16 := by
    rw [← whole]
    exact Nat.mul_le_mul_right _ narrow
  rw [Nat.add_mul, Nat.one_mul] at room
  rw [pack_toNat split shaped short (by omega), ← Nat.shiftLeft_add_eq_or_of_lt fits,
    Nat.shiftLeft_eq]
  exact Nat.mod_eq_of_lt (by omega)

omit split

theorem category_eq (id : UInt16) : category id =
    if id.toNat < 0x8000 then .base else if id.toNat < 0xC000 then .ores
    else if id.toNat < 0xE000 then .materials else if id.toNat < 0xF000 then .machines
    else .infra := by
  have ores : pack "10:0".toList = 0x8000 := by decide
  have materials : pack "110:0".toList = 0xC000 := by decide
  have machines : pack "1110:0".toList = 0xE000 := by decide
  have infra : pack "1111:0".toList = 0xF000 := by decide
  rw [category, ores, materials, machines, infra]
  rfl

theorem top_of_append {front rest : List Bool} (length : (front ++ rest).length ≤ 16)
    (top : number / 2 ^ (16 - (front ++ rest).length) = bitsValue (front ++ rest)) :
    number / 2 ^ (16 - front.length) = bitsValue front := by
  rw [length_append] at length top
  have split : 16 - front.length = (16 - (front.length + rest.length)) + rest.length := by omega
  have narrow := bitsValue_lt rest
  rw [split, Nat.pow_add, ← Nat.div_div_eq_div_mul, top, bitsValue_append, Nat.mul_comm,
    Nat.mul_add_div (Nat.two_pow_pos _), Nat.div_eq_of_lt narrow, Nat.add_zero]

theorem category_of_top (length : bits.length ≤ 16)
    (top : id.toNat / 2 ^ (16 - bits.length) = bitsValue bits)
    (names : namedCategory bits = some named) : category id = named := by
  have starts : ∀ front rest, bits = front ++ rest →
      id.toNat / 2 ^ (16 - front.length) = bitsValue front := by
    rintro front rest rfl
    exact top_of_append length top
  rw [category_eq]
  unfold namedCategory at names
  split at names
  · cases names
    have first : id.toNat / 2 ^ 15 = 0 := starts [false] _ rfl
    rw [if_pos (by omega)]
  · cases names
    have first : id.toNat / 2 ^ 14 = 2 := starts [true, false] _ rfl
    rw [if_neg (by omega), if_pos (by omega)]
  · cases names
    have first : id.toNat / 2 ^ 13 = 6 := starts [true, true, false] _ rfl
    rw [if_neg (by omega), if_neg (by omega), if_pos (by omega)]
  · cases names
    have first : id.toNat / 2 ^ 12 = 14 := starts [true, true, true, false] _ rfl
    rw [if_neg (by omega), if_neg (by omega), if_neg (by omega), if_pos (by omega)]
  · cases names
    have first : id.toNat / 2 ^ 12 = 15 := starts [true, true, true, true] _ rfl
    rw [if_neg (by omega), if_neg (by omega), if_neg (by omega), if_neg (by omega)]
  · exact absurd names nofun

end ItemId

open ItemId

variable {text before after : List Char} {id : UInt16}

theorem integer_of_digits (some_ : after ≠ []) (digits : ∀ char ∈ after, char.isDigit = true) :
    integer after =
      if Nat.ofDigitChars 10 after 0 < 2 ^ 31 then some (Nat.ofDigitChars 10 after 0 : Int)
      else none := by
  obtain ⟨first, rest, rfl⟩ := exists_cons_of_ne_nil some_
  have positive : first ≠ '-' := by
    rintro rfl
    exact absurd (digits '-' mem_cons_self) (by decide)
  have head : (first :: rest).head? ≠ some '-' := fun same => positive (Option.some.inj same)
  have whole : unsigned (first :: rest) = first :: rest := by
    unfold unsigned
    split
    · next shape => exact absurd (cons.inj shape).1 positive
    · rfl
  have all : ¬ (first :: rest = [] ∨ ¬ (first :: rest).all Char.isDigit = true) := by
    rw [not_or, not_not]
    exact ⟨some_, all_eq_true.mpr digits⟩
  unfold integer
  simp only [whole, if_neg head]
  rw [if_neg all]
  by_cases small : Nat.ofDigitChars 10 (first :: rest) 0 < 2 ^ 31
  · rw [if_pos small, if_pos (by omega)]
  · rw [if_neg small, if_neg (by omega)]

theorem digit_or_colon (text : List Char) :
    (text.any fun char => char ≠ ':' && (decide (char < '0') || decide (char > '9'))) = false ↔
      ∀ char ∈ text, char = ':' ∨ char.isDigit = true := by
  rw [any_eq_false]
  refine forall₂_congr fun char _ => ?_
  rw [isDigit_iff, ← Char.not_lt, ← Char.not_lt]
  simp only [ne_eq, decide_not, Bool.and_eq_true, Bool.not_eq_true', decide_eq_false_iff_not,
    Bool.or_eq_true, decide_eq_true_eq, not_and, not_or, gt_iff_lt]
  exact ⟨fun each => or_iff_not_imp_left.mpr each, fun each => or_iff_not_imp_left.mp each⟩

theorem binary_or_colon (text : List Char) :
    (text.any fun char => char ≠ ':' && char ≠ '0' && char ≠ '1') = false ↔
      ∀ char ∈ text, char = ':' ∨ char = '0' ∨ char = '1' := by
  rw [any_eq_false]
  refine forall₂_congr fun char _ => ?_
  simp only [ne_eq, decide_not, Bool.and_eq_true, Bool.not_eq_true', decide_eq_false_iff_not,
    not_and, not_not, and_imp]
  rw [or_iff_not_imp_left, or_iff_not_imp_left]

theorem parseItemId_eq_some_iff (split : splitLast text = some (before, after)) :
    parseItemId text = some id ↔
      Shaped before after ∧ Nat.ofDigitChars 10 after 0 ≤ 65535 ∧ id = pack text ∧
        (id ≠ 0 ∨ text = "0".toList ∨ text = "0:0:0".toList) := by
  obtain ⟨whole, lastColon⟩ := splitLast_eq_some split
  have nonempty : text ≠ [] := by
    rintro rfl
    exact absurd split nofun
  unfold parseItemId
  rw [if_neg nonempty, split]
  by_cases chars : (text.any fun char =>
      char ≠ ':' && (decide (char < '0') || decide (char > '9'))) = true
  · rw [if_pos chars]
    refine iff_of_false nofun fun taken => ?_
    have clean : ∀ char ∈ text, char = ':' ∨ char.isDigit = true := by
      intro char mem
      rw [whole, mem_append, mem_cons] at mem
      rcases mem with front | rfl | back
      · rcases taken.1.bits char front with rfl | rfl | rfl
        · exact .inl rfl
        · exact .inr (by decide)
        · exact .inr (by decide)
      · exact .inl rfl
      · exact .inr (taken.1.digits char back)
    exact Bool.false_ne_true (((digit_or_colon text).mpr clean).symm.trans chars)
  · rw [if_neg chars]
    have clean := (digit_or_colon text).mp (Bool.eq_false_iff.mpr chars)
    have digits : ∀ char ∈ after, char.isDigit = true := fun char mem =>
      (clean char (by rw [whole]; simp [mem])).resolve_left fun colon =>
        lastColon (colon ▸ mem)
    simp only
    by_cases parts : before = [] ∨ after = []
    · rw [if_pos parts]
      exact iff_of_false nofun fun taken => parts.elim taken.1.someBefore taken.1.someAfter
    rw [if_neg parts]
    rw [not_or] at parts
    by_cases bits : (before.any fun char => char ≠ ':' && char ≠ '0' && char ≠ '1') = true
    · rw [if_pos bits]
      exact iff_of_false nofun fun taken => Bool.false_ne_true
        (((binary_or_colon before).mpr taken.1.bits).symm.trans bits)
    rw [if_neg bits, integer_of_digits parts.2 digits]
    have shaped : Shaped before after :=
      ⟨parts.1, parts.2, (binary_or_colon before).mp (Bool.eq_false_iff.mpr bits), digits⟩
    rw [and_iff_right shaped]
    by_cases small : Nat.ofDigitChars 10 after 0 ≤ 65535
    · rw [if_pos (by omega), and_iff_right small]
      simp only
      rw [if_neg (by omega)]
      split
      · next taken =>
        rw [Option.some_inj, eq_comm]
        exact ⟨fun same => ⟨same, same ▸ taken⟩, fun found => found.1⟩
      rename_i refused
      refine iff_of_false nofun ?_
      rintro ⟨rfl, taken⟩
      exact refused taken
    · refine iff_of_false (fun taken => ?_) fun taken => small taken.1
      split at taken
      · exact absurd taken nofun
      rename_i payload found
      split at found
      · cases found
        rw [if_pos (by omega)] at taken
        exact absurd taken nofun
      · exact absurd found nofun

theorem parts_of_colon (colon : ':' ∈ text) : ∃ before after,
    splitLast text = some (before, after) := by
  cases split : splitLast text with
  | none => exact absurd colon (splitLast_eq_none.mp split)
  | some parts => exact ⟨parts.1, parts.2, rfl⟩

theorem pack_ne_zero (split : splitLast text = some (before, after)) (shaped : Shaped before after)
    (short : (bitsOf before).length ≤ 15) (some_ : 0 < Nat.ofDigitChars 10 after 0)
    (small : Nat.ofDigitChars 10 after 0 ≤ 65535) : pack text ≠ 0 := by
  intro zero
  have number := pack_toNat split shaped short small
  rw [zero, Nat.or_mod_two_pow] at number
  have none := (Nat.or_eq_zero_iff.mp number.symm).2
  rw [Nat.mod_eq_of_lt (Nat.lt_succ_of_le small)] at none
  omega

theorem decodes_of_fits (split : splitLast text = some (before, after))
    (shaped : Shaped before after) (short : (bitsOf before).length ≤ 15)
    (fits : Nat.ofDigitChars 10 after 0 < 2 ^ (16 - (bitsOf before).length)) :
    Decodes (bitsOf before) (Nat.ofDigitChars 10 after 0) (pack text) := by
  have number := pack_fits split shaped short fits
  have top : (pack text).toNat / 2 ^ (16 - (bitsOf before).length) =
      bitsValue (bitsOf before) := by
    rw [number, Nat.mul_comm, Nat.mul_add_div (Nat.two_pow_pos _), Nat.div_eq_of_lt fits,
      Nat.add_zero]
  refine ⟨by omega, top, ?_, fun named => category_of_top (by omega) top⟩
  rw [number, Nat.mul_comm, Nat.mul_add_mod, Nat.mod_eq_of_lt fits]

theorem parseItemId_decodes_iff (colon : ':' ∈ text) :
    (∀ id, parseItemId text = some id → Decodes (prefixBits text) (payload text) id) ↔
      ¬ PayloadSpills text := by
  obtain ⟨before, after, split⟩ := parts_of_colon colon
  have bits : prefixBits text = bitsOf before := by rw [prefixBits, split]
  have number : payload text = Nat.ofDigitChars 10 after 0 := by rw [payload, split]
  unfold PayloadSpills
  rw [bits, number]
  constructor
  · rintro decodes ⟨⟨front, back, same, shaped⟩, short, large, small⟩
    cases split.symm.trans same
    have room := Nat.two_pow_pos (16 - (bitsOf before).length)
    have nonzero := pack_ne_zero split shaped short (by omega) small
    have found := decodes (pack text)
      ((parseItemId_eq_some_iff split).mpr ⟨shaped, small, rfl, .inl nonzero⟩)
    have below := Nat.mod_lt (pack text).toNat room
    rw [found.rest] at below
    omega
  · rintro kept id taken
    obtain ⟨shaped, small, rfl, nonzero⟩ := (parseItemId_eq_some_iff split).mp taken
    by_cases short : (bitsOf before).length ≤ 15
    · refine decodes_of_fits split shaped short ?_
      by_contra large
      exact kept ⟨⟨before, after, split, shaped⟩, short, by omega, small⟩
    -- The packed id is zero, and the only zero texts have short prefixes.
    have zero := pack_of_long split (by omega)
    rcases nonzero with other | rfl | rfl
    · exact absurd zero other
    · have none : splitLast "0".toList = Option.none := by decide
      exact absurd (split.symm.trans none) nofun
    · cases split
      exact absurd (by decide) short

theorem parseItemId_decodes_iff_machines : ':' ∈ "1110:10:5".toList ∧
      ((∀ id, parseItemId "1110:10:5".toList = some id →
          Decodes (prefixBits "1110:10:5".toList) (payload "1110:10:5".toList) id) ↔
        ¬ PayloadSpills "1110:10:5".toList) :=
  ⟨by decide, parseItemId_decodes_iff (by decide)⟩

theorem parseItemId_spills : ¬ ∀ id, parseItemId "1110:5000".toList = some id →
    Decodes (prefixBits "1110:5000".toList) (payload "1110:5000".toList) id := by
  intro decodes
  have taken : parseItemId "1110:5000".toList = some 0xF388 := by decide
  have rest := (decodes 0xF388 taken).rest
  exact absurd rest (by decide)

end GtnhPlatform.Registry
