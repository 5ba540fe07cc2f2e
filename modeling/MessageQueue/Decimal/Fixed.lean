import MessageQueue.Decimal.Binary
import MessageQueue.Text.Integer

/-!
# Numbers with a fixed count of decimals

A binary64 number written with a given number of decimals: its exact value rounded
to the nearest such decimal, a half going to the even neighbour.
-/

namespace MessageQueue
namespace Decimal

/-- The digits of a scaled integer with a point before the last `places` of them. -/
def placePoint (places scaled : Nat) : List Char :=
  let whole := Text.digits (scaled / Nat.pow 10 places)
  if places = 0 then whole
  else whole ++ '.' :: Text.paddedDigits places (scaled % Nat.pow 10 places)

/-- The text of a number with a fixed count of decimals. -/
def fixed (places : Nat) (x : Float) : String :=
  match Kind.ofFloat x with
  | .nan => "NaN"
  | .infinite negative => if negative then "-inf" else "inf"
  | .finite b =>
    let body := placePoint places (b.scaledRound places)
    String.ofList (if b.negative then '-' :: body else body)

end Decimal
end MessageQueue
