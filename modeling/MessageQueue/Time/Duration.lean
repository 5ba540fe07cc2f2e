import MessageQueue.Decimal.Binary
import MessageQueue.Text.Integer

/-!
# Spans of time

A span is a whole number of nanoseconds, never negative.  It is shown in the largest
unit whose whole part is not zero, and it can be taken to floating point seconds and
back, the way back by rounding the exact binary value to the nearest nanosecond.

Main results:

- Theorem `ofParts_parts`: a span is its whole seconds and the nanoseconds left over.
-/

namespace MessageQueue
namespace Time

/-- A span of time. -/
structure Duration where
  nanoseconds : Nat
deriving DecidableEq, Repr, Inhabited

namespace Duration

/-! ## Units -/

/-- No time at all. -/
def zero : Duration := ⟨0⟩

/-- A span of whole seconds and nanoseconds. -/
def ofParts (seconds nanoseconds : Nat) : Duration := ⟨seconds * 1000000000 + nanoseconds⟩

/-- A span of whole seconds. -/
def ofSeconds (n : Nat) : Duration := ⟨n * 1000000000⟩

/-- A span of whole milliseconds. -/
def ofMilliseconds (n : Nat) : Duration := ⟨n * 1000000⟩

/-- The whole seconds of a span. -/
def wholeSeconds (d : Duration) : Nat := d.nanoseconds / 1000000000

/-- The nanoseconds that the whole seconds leave. -/
def subsecond (d : Duration) : Nat := d.nanoseconds % 1000000000

/-- The whole milliseconds of a span. -/
def wholeMilliseconds (d : Duration) : Nat := d.nanoseconds / 1000000

/-- The least count of milliseconds that covers a span. -/
def ceilMilliseconds (d : Duration) : Nat := (d.nanoseconds + 999999) / 1000000

instance : Add Duration := ⟨fun a b => ⟨a.nanoseconds + b.nanoseconds⟩⟩

/-- A span is its whole seconds and the nanoseconds left over. -/
theorem ofParts_parts (d : Duration) : ofParts d.wholeSeconds d.subsecond = d := by
  obtain ⟨n⟩ := d
  simp only [ofParts, wholeSeconds, subsecond, mk.injEq]
  omega

/-! ## Floating point seconds -/

/-- The span in seconds, as the whole seconds plus the rest divided by a billion. -/
def toSeconds (d : Duration) : Float :=
  Float.ofNat d.wholeSeconds + Float.ofNat d.subsecond / 1000000000.0

/-- The span nearest to a count of seconds; what is negative or no number counts as zero. -/
def ofSecondsRounded (x : Float) : Duration :=
  match Decimal.Kind.ofFloat x with
  | .finite b => if b.negative then zero else ⟨b.scaledRound 9⟩
  | .nan | .infinite _ => zero

/-! ## Text -/

/-- A whole part and a fraction of so many digits, without the zeros at its end. -/
def withFraction (places whole fraction : Nat) : List Char :=
  let ds := ((Text.paddedDigits places fraction).reverse.dropWhile (· == '0')).reverse
  if ds.isEmpty then Text.digits whole else Text.digits whole ++ '.' :: ds

/-- The span in the largest of seconds, milliseconds, microseconds and nanoseconds whose whole
part is not zero. -/
def shown (d : Duration) : String :=
  let n := d.nanoseconds
  if 1000000000 ≤ n then
    String.ofList (withFraction 9 d.wholeSeconds d.subsecond) ++ "s"
  else if 1000000 ≤ n then
    String.ofList (withFraction 6 (n / 1000000) (n % 1000000)) ++ "ms"
  else if 1000 ≤ n then
    String.ofList (withFraction 3 (n / 1000) (n % 1000)) ++ "µs"
  else String.ofList (Text.digits n) ++ "ns"

end Duration

end Time
end MessageQueue
