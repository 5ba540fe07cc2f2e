/-!
# Decimals read through a 64-bit significand

A decimal text is read in two steps.  Its digits are gathered into an integer below
`2 ^ 64`; then that integer, as a binary64 number, is multiplied or divided by one
power of ten.  Digits that no longer fit only move the exponent when they stand before
the point, and are dropped when they stand after it.
-/

namespace MessageQueue
namespace Decimal

/-- The digits gathered so far, and the power of ten that they still miss. -/
structure Gathered where
  significand : Nat
  exponent : Int
deriving DecidableEq, Repr

/-- Whether one more digit keeps the significand below `2 ^ 64`. -/
def fits (significand digit : Nat) : Bool :=
  significand * 10 + digit < Nat.pow 2 64

/-- Gathers the digits before the point; from the first that does not fit, every digit is a
power of ten. -/
def gatherWhole (significand : Nat) : List Nat → Gathered
  | [] => ⟨significand, 0⟩
  | d :: ds =>
    if fits significand d then gatherWhole (significand * 10 + d) ds
    else ⟨significand, ds.length + 1⟩

/-- Gathers the digits after the point; from the first that does not fit, all are dropped. -/
def gatherFraction (g : Gathered) : List Nat → Gathered
  | [] => g
  | d :: ds =>
    if fits g.significand d then
      gatherFraction ⟨g.significand * 10 + d, g.exponent - 1⟩ ds
    else g

/-- Ten to a power up to 308, as a binary64 number. -/
def powerOfTen (n : Nat) : Float :=
  Float.ofScientific 1 false n

/-- Divides by ten to some power, in steps of at most `10 ^ 308`. -/
def scaleDown (x : Float) (n : Nat) : Float :=
  if n ≤ 308 then x / powerOfTen n
  else if x == 0 then x
  else scaleDown (x / powerOfTen 308) (n - 308)
termination_by n

/-- The binary64 number of gathered digits; `none` when it is too large for one. -/
def Gathered.toFloat? (g : Gathered) : Option Float :=
  let x := Float.ofNat g.significand
  if 0 ≤ g.exponent then
    if g.exponent ≤ 308 then
      let y := x * powerOfTen g.exponent.toNat
      if y.isInf then none else some y
    else if x == 0 then some x
    else none
  else some (scaleDown x g.exponent.natAbs)

end Decimal
end MessageQueue
