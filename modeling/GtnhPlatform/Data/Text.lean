import GtnhPlatform.Data.Word
import Mathlib.Data.List.TakeWhile

namespace GtnhPlatform

/-! Decimal numbers and delimited segments, as the stream library of C++ has them. -/

namespace Text

def decimal (number : Nat) : List Char := Nat.toDigits 10 number

/-- `std::isspace` in the default locale: a blank, or a tab to a carriage
return. -/
def isSpace (char : Char) : Bool :=
  char.toNat == 32 || (decide (9 ≤ char.toNat) && decide (char.toNat ≤ 13))

/-- Whether a minus sign stands first, and what follows the sign. -/
def signOf : List Char → Bool × List Char
  | '-' :: rest => (true, rest)
  | '+' :: rest => (false, rest)
  | text => (false, text)

/-- `std::stoull`: blanks, a sign and digits are read, and what follows is
ignored. `none` is a thrown exception, for no digits and for a number out of
range; a minus sign negates in the unsigned type. -/
def stoull (text : List Char) : Option Nat :=
  let (negative, unsigned) := signOf (text.dropWhile isSpace)
  let digits := unsigned.takeWhile Char.isDigit
  let value := Nat.ofDigitChars 10 digits 0
  if digits = [] then none
  else if value < 2 ^ 64 then some (if negative then wrapU64 (2 ^ 64 - value) else value)
  else none

/-- The successive results of `std::getline`, given what the current segment
already holds. A segment that nothing was read for is no result. -/
def getlines (delimiter : Char) (segment : List Char) : List Char → List (List Char)
  | [] => if segment = [] then [] else [segment]
  | char :: rest =>
    if char = delimiter then segment :: getlines delimiter [] rest
    else getlines delimiter (segment ++ [char]) rest

theorem notMem_of_mem_getlines {segment : List Char} (clean : delimiter ∉ segment)
    (mem : line ∈ getlines delimiter segment text) : delimiter ∉ line := by
  induction text generalizing segment with
  | nil =>
    rw [getlines] at mem
    split at mem
    · contradiction
    · obtain rfl := List.mem_singleton.mp mem
      exact clean
  | cons char rest ih =>
    rw [getlines] at mem
    split at mem
    · cases mem with
      | head => exact clean
      | tail _ later => exact ih List.not_mem_nil later
    rename_i other
    refine ih ?_ mem
    rw [List.mem_append, List.mem_singleton]
    rintro (earlier | rfl)
    · exact clean earlier
    · exact other rfl

end Text

end GtnhPlatform
