import MessageQueue.Decimal.Binary
import MessageQueue.Text.Integer

/-!
# Shortest decimal texts

The decimal with the fewest digits that reads back as a given binary64 number, the
nearest of those, and how its digits are laid out.  Only the two neighbours of the
number on the grid of each digit count have to be tried: if any point of that grid
reads back, one of the two does.
-/

namespace MessageQueue
namespace Decimal

/-! ## Choosing the digits -/

/-- A positive decimal: an integer times ten to a power. -/
structure Digits where
  value : Nat
  power : Int
deriving DecidableEq, Repr

/-- How many decimal digits an integer has. -/
def digitCount (n : Nat) : Nat :=
  (Text.digits n).length

/-- The power `p` of ten with `10 ^ (p - 1) ≤ num / den < 10 ^ p`. -/
def magnitude (num den : Nat) : Int :=
  if den ≤ num then digitCount (num / den)
  else 1 - digitCount ((den - 1) / num)

namespace Binary

/-- Whether the decimal `c · 10 ^ power` lies in the interval of the reals that round to a
positive number.  The interval is closed exactly when the mantissa is even; below a power of
two it is only half as wide. -/
def reads (b : Binary) (c : Nat) (power : Int) : Bool :=
  let candidate := 4 * c * Nat.pow 10 power.toNat * b.denominator
  let scale := Nat.pow 2 b.exponent.toNat * Nat.pow 10 (-power).toNat
  let below := if b.mantissa = Nat.pow 2 52 ∧ -1074 < b.exponent then 1 else 2
  let low := (4 * b.mantissa - below) * scale
  let high := (4 * b.mantissa + 2) * scale
  if b.mantissa % 2 = 0 then low ≤ candidate && candidate ≤ high
  else low < candidate && candidate < high

/-- The nearest decimal with `count` digits that reads back, if one does. -/
def withDigits? (b : Binary) (count : Nat) : Option Digits :=
  let power := magnitude b.numerator b.denominator - count
  let num := b.numerator * Nat.pow 10 (-power).toNat
  let den := b.denominator * Nat.pow 10 power.toNat
  let down := num / den
  let up := down + 1
  match b.reads down power, b.reads up power with
  | true, true => some ⟨roundDiv num den, power⟩
  | true, false => some ⟨down, power⟩
  | false, true => some ⟨up, power⟩
  | false, false => none

/-- The same decimal without zeros at its right end. -/
def strip : Nat → Digits → Digits
  | 0, d => d
  | fuel + 1, d => if d.value % 10 = 0 then strip fuel ⟨d.value / 10, d.power + 1⟩ else d

/-- The shortest decimal that reads back as a positive number; seventeen digits suffice. -/
def shortest (b : Binary) : Digits :=
  let d := ((List.range 17).findSome? fun i => b.withDigits? (i + 1)).getD
    ⟨b.numerator / b.denominator, 0⟩
  strip (digitCount d.value) d

end Binary

/-! ## Laying them out -/

/-- Which decimal exponents are written positionally. -/
structure Layout where
  positionalFrom : Int
  positionalBelow : Int
deriving DecidableEq, Repr

/-- Positional digits, with at least one on either side of the point. -/
def positional (ds : List Char) (power : Int) : List Char :=
  if 0 ≤ power then ds ++ List.replicate power.toNat '0' ++ ['.', '0']
  else
    let places := (-power).toNat
    if places < ds.length then ds.take (ds.length - places) ++ '.' :: ds.drop (ds.length - places)
    else '0' :: '.' :: List.replicate (places - ds.length) '0' ++ ds

/-- One digit, the others after a point, and the exponent with its sign. -/
def scientific (ds : List Char) (exponent : Int) : List Char :=
  let head := match ds with
    | [] => []
    | [d] => [d]
    | d :: rest => d :: '.' :: rest
  head ++ 'e' :: (if exponent < 0 then '-' else '+') :: Text.digits exponent.natAbs

/-- The shortest text of a floating point number in a layout. -/
def render (layout : Layout) (x : Float) : String :=
  match Kind.ofFloat x with
  | .nan => "NaN"
  | .infinite negative => if negative then "-inf" else "inf"
  | .finite b =>
    let body :=
      if b.mantissa = 0 then ['0', '.', '0']
      else
        let d := b.shortest
        let ds := Text.digits d.value
        let exponent := d.power + ds.length - 1
        if layout.positionalFrom ≤ exponent ∧ exponent < layout.positionalBelow then
          positional ds d.power
        else scientific ds exponent
    String.ofList (if b.negative then '-' :: body else body)

end Decimal
end MessageQueue
