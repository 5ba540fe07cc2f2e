/-!
# Integers of a fixed width

The five integer types that settings, arguments and messages use, and how their
decimal texts are read: an optional sign, then one or more ASCII digits, with any
number of leading zeros.

Main results:

- Theorem `IntType.contains_iff`: containment is membership in the closed range.
- Theorem `readInteger_contains`: what is read lies in the range of the type.
-/

namespace MessageQueue
namespace Text

/-! ## Integer types -/

/-- The integer types in use, named by sign and width. -/
inductive IntType where
  | signed32
  | signed64
  | unsigned16
  | unsigned32
  | unsigned64
deriving DecidableEq, Repr

namespace IntType

/-- The least value of the type. -/
def lowest : IntType → Int
  | signed32 => -2147483648
  | signed64 => -9223372036854775808
  | unsigned16 => 0
  | unsigned32 => 0
  | unsigned64 => 0

/-- The greatest value of the type. -/
def highest : IntType → Int
  | signed32 => 2147483647
  | signed64 => 9223372036854775807
  | unsigned16 => 65535
  | unsigned32 => 4294967295
  | unsigned64 => 18446744073709551615

/-- Whether the type has values below zero, so that a text may start with a minus. -/
def isSigned : IntType → Bool
  | signed32 | signed64 => true
  | unsigned16 | unsigned32 | unsigned64 => false

/-- The short name that type errors use. -/
def name : IntType → String
  | signed32 => "i32"
  | signed64 => "i64"
  | unsigned16 => "u16"
  | unsigned32 => "u32"
  | unsigned64 => "u64"

/-- Whether a number is a value of the type. -/
def contains (t : IntType) (n : Int) : Bool :=
  t.lowest ≤ n && n ≤ t.highest

theorem contains_iff {t : IntType} {n : Int} :
    t.contains n = true ↔ t.lowest ≤ n ∧ n ≤ t.highest := by
  simp [contains]

/-- The value of the type that agrees with a number modulo the size of the type. -/
def wrap (t : IntType) (n : Int) : Int :=
  t.lowest + (n - t.lowest) % (t.highest - t.lowest + 1)

end IntType

/-! ## Reading -/

/-- Why a text is not an integer of a type. -/
inductive IntegerError where
  | empty
  | invalidDigit
  | tooLarge
  | tooSmall
deriving DecidableEq, Repr

/-- The wording of an integer error. -/
def IntegerError.message : IntegerError → String
  | empty => "cannot parse integer from empty string"
  | invalidDigit => "invalid digit found in string"
  | tooLarge => "number too large to fit in target type"
  | tooSmall => "number too small to fit in target type"

/-- The value of an ASCII digit. -/
def digitValue? (c : Char) : Option Nat :=
  if c.isDigit then some (c.toNat - 48) else none

theorem digitValue?_of_isDigit {c : Char} (h : c.isDigit = true) :
    digitValue? c = some (c.toNat - 48) := by
  rw [digitValue?, if_pos h]

/-- A number with one more digit at its right end, counted away from zero. -/
def appendDigit (negative : Bool) (acc : Int) (d : Nat) : Int :=
  if negative then acc * 10 - d else acc * 10 + d

/-- Adds digits to a number from the left; the first character that is no digit, or whose
digit leaves the range, decides the error. -/
def readDigits (t : IntType) (negative : Bool) : Int → List Char → Except IntegerError Int
  | acc, [] => .ok acc
  | acc, c :: rest =>
    match digitValue? c with
    | none => .error .invalidDigit
    | some d =>
      if t.contains (appendDigit negative acc d) then
        readDigits t negative (appendDigit negative acc d) rest
      else .error (if negative then .tooSmall else .tooLarge)

/-- Reads a whole text as an integer of a type. -/
def readInteger (t : IntType) : List Char → Except IntegerError Int
  | [] => .error .empty
  | [c] => readDigits t false 0 [c]
  | c :: rest =>
    if c = '+' then readDigits t false 0 rest
    else if c = '-' && t.isSigned then readDigits t true 0 rest
    else readDigits t false 0 (c :: rest)

theorem IntType.contains_zero (t : IntType) : t.contains 0 = true := by
  cases t <;> decide

theorem readDigits_contains {t : IntType} {negative : Bool} {cs : List Char} {acc n : Int}
    (hacc : t.contains acc = true) (h : readDigits t negative acc cs = .ok n) :
    t.contains n = true := by
  induction cs generalizing acc with
  | nil =>
    simp only [readDigits, Except.ok.injEq] at h
    exact h ▸ hacc
  | cons c rest ih =>
    simp only [readDigits] at h
    split at h
    · cases h
    · split at h
      · exact ih ‹_› h
      · cases h

/-- What is read is a value of the type. -/
theorem readInteger_contains {t : IntType} {cs : List Char} {n : Int}
    (h : readInteger t cs = .ok n) : t.contains n = true := by
  unfold readInteger at h
  split at h
  · cases h
  · exact readDigits_contains t.contains_zero h
  · repeat' split at h
    all_goals exact readDigits_contains t.contains_zero h

/-! ## Digits of a number -/

/-- The decimal digits of a number, without leading zeros. -/
def digits (n : Nat) : List Char :=
  Nat.toDigits 10 n

/-- The digits of a number, filled up with zeros to a least width. -/
def paddedDigits (width n : Nat) : List Char :=
  let ds := digits n
  List.replicate (width - ds.length) '0' ++ ds

end Text
end MessageQueue
