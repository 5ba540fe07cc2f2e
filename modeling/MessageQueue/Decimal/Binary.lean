/-!
# Binary numbers, exactly

A binary64 number taken apart into sign, mantissa and exponent, and its exact
rounding to a decimal grid.

Main results:

- Theorem `roundDiv_mul_le`: a rounded quotient is at most half a unit too large.
- Theorem `le_roundDiv_mul`: a rounded quotient is at most half a unit too small.
-/

namespace MessageQueue
namespace Decimal

/-! ## Taking apart -/

/-- A finite binary64 number: the mantissa times two to the exponent, with a sign. -/
structure Binary where
  negative : Bool
  mantissa : Nat
  exponent : Int
deriving DecidableEq, Repr

/-- The kinds of binary64 number. -/
inductive Kind where
  | nan
  | infinite (negative : Bool)
  | finite (value : Binary)
deriving DecidableEq, Repr

/-- The number that a 64-bit pattern stands for. -/
def Kind.ofBits (bits : UInt64) : Kind :=
  let negative := bits.toNat / Nat.pow 2 63 == 1
  let exponent : Nat := bits.toNat / Nat.pow 2 52 % 2048
  let fraction : Nat := bits.toNat % Nat.pow 2 52
  if exponent == 2047 then
    if fraction == 0 then .infinite negative else .nan
  else if exponent == 0 then .finite ⟨negative, fraction, -1074⟩
  else .finite ⟨negative, Nat.pow 2 52 + fraction, (exponent : Int) - 1075⟩

/-- The kind of a floating point number. -/
def Kind.ofFloat (x : Float) : Kind :=
  .ofBits x.toBits

namespace Binary

/-- The magnitude as a quotient has this numerator. -/
def numerator (b : Binary) : Nat :=
  b.mantissa * Nat.pow 2 b.exponent.toNat

/-- The magnitude as a quotient has this denominator, a power of two. -/
def denominator (b : Binary) : Nat :=
  Nat.pow 2 (-b.exponent).toNat

end Binary

/-! ## Rounding -/

/-- The integer nearest to a quotient; a half goes to the even neighbour. -/
def roundDiv (num den : Nat) : Nat :=
  if 2 * (num % den) < den then num / den
  else if den < 2 * (num % den) then num / den + 1
  else if num / den % 2 = 0 then num / den
  else num / den + 1

/-- A rounded quotient is at most half a unit too large. -/
theorem roundDiv_mul_le (num den : Nat) :
    2 * (roundDiv num den * den) ≤ 2 * num + den := by
  have h := Nat.div_add_mod num den
  have hc := Nat.mul_comm (num / den) den
  unfold roundDiv
  split
  · omega
  · split
    · rw [Nat.add_mul]; omega
    · split
      · omega
      · rw [Nat.add_mul]; omega

/-- A rounded quotient is at most half a unit too small. -/
theorem le_roundDiv_mul (num den : Nat) (hden : 0 < den) :
    2 * num ≤ 2 * (roundDiv num den * den) + den := by
  have h := Nat.div_add_mod num den
  have hc := Nat.mul_comm (num / den) den
  have hr := Nat.mod_lt num hden
  unfold roundDiv
  split
  · omega
  · split
    · rw [Nat.add_mul]; omega
    · split
      · omega
      · rw [Nat.add_mul]; omega

/-- The magnitude times ten to some power, rounded to the nearest integer. -/
def Binary.scaledRound (b : Binary) (places : Nat) : Nat :=
  roundDiv (b.numerator * Nat.pow 10 places) b.denominator

end Decimal
end MessageQueue
