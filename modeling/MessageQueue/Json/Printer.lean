import MessageQueue.Decimal.Shortest
import MessageQueue.Json.Value
import MessageQueue.Text.Integer

/-!
# Texts of JSON values

The compact text of a value: no white space, members in the order of the object, quotes,
backslashes and controls escaped, floating point numbers in their shortest form.

Main results:

- Theorem `escape_visible`: a character that needs no escape stands for itself.
-/

namespace MessageQueue
namespace Json

/-- Exponents from −5 to 15 are written positionally. -/
def numberLayout : Decimal.Layout := ⟨-5, 16⟩

/-- The text of a floating point number. -/
def floatText (x : Float) : String :=
  Decimal.render numberLayout x

/-- The text of an integer. -/
def integerText (n : Int) : List Char :=
  if n < 0 then '-' :: Text.digits n.natAbs else Text.digits n.natAbs

/-- The escaped form of one character of a string. -/
def escape (c : Char) : List Char :=
  if c = '"' then ['\\', '"']
  else if c = '\\' then ['\\', '\\']
  else if c = '\x08' then ['\\', 'b']
  else if c = '\x0c' then ['\\', 'f']
  else if c = '\n' then ['\\', 'n']
  else if c = '\r' then ['\\', 'r']
  else if c = '\t' then ['\\', 't']
  else if c.toNat < 0x20 then
    ['\\', 'u', '0', '0', Nat.digitChar (c.toNat / 16), Nat.digitChar (c.toNat % 16)]
  else [c]

theorem escape_visible {c : Char} (hlow : 0x20 ≤ c.toNat) (hquote : c ≠ '"')
    (hback : c ≠ '\\') : escape c = [c] := by
  have hb : c ≠ '\x08' := by rintro rfl; exact absurd hlow (by decide)
  have hf : c ≠ '\x0c' := by rintro rfl; exact absurd hlow (by decide)
  have hn : c ≠ '\n' := by rintro rfl; exact absurd hlow (by decide)
  have hr : c ≠ '\r' := by rintro rfl; exact absurd hlow (by decide)
  have ht : c ≠ '\t' := by rintro rfl; exact absurd hlow (by decide)
  rw [escape, if_neg hquote, if_neg hback, if_neg hb, if_neg hf, if_neg hn, if_neg hr,
    if_neg ht, if_neg (by omega)]

/-- The text of a string between quotes. -/
def stringText (s : String) : List Char :=
  '"' :: s.toList.flatMap escape ++ ['"']

/-- The text of a number. -/
def numberText : Number → List Char
  | .integer n => integerText n
  | .float x => (floatText x).toList

mutual

/-- The characters of a value. -/
def chars : Json → List Char
  | .null => ['n', 'u', 'l', 'l']
  | .bool true => ['t', 'r', 'u', 'e']
  | .bool false => ['f', 'a', 'l', 's', 'e']
  | .number n => numberText n
  | .string s => stringText s
  | .array vs => '[' :: itemChars vs
  | .object ms => '\x7b' :: memberChars ms

/-- The characters of the items of an array, with the closing bracket. -/
def itemChars : List Json → List Char
  | [] => [']']
  | [v] => chars v ++ [']']
  | v :: rest => chars v ++ ',' :: itemChars rest

/-- The characters of the members of an object, with the closing brace. -/
def memberChars : List (String × Json) → List Char
  | [] => ['\x7d']
  | [(k, v)] => stringText k ++ ':' :: chars v ++ ['\x7d']
  | (k, v) :: rest => stringText k ++ ':' :: chars v ++ ',' :: memberChars rest

end

/-- The compact text of a value. -/
def text (v : Json) : String :=
  String.ofList (chars v)

end Json
end MessageQueue
