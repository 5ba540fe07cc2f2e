import MessageQueue.Decimal.Scaled
import MessageQueue.Json.Value
import MessageQueue.Text.Integer

/-!
# Tokens of JSON texts

A text is cut into tokens before its structure is looked at.  Cutting is liberal where
the meaning of a token matters only to those who use it: a number that is too large and a
string with half of a surrogate pair are tokens without a value.  The first place where
no token starts ends the list with a `bad` token.

Main results:

- Theorem `assemble_map_char`: plain characters assemble to themselves.
-/

namespace MessageQueue
namespace Json

/-! ## Numbers -/

/-- The digits and signs of a number as they stand in the text. -/
structure Numeral where
  negative : Bool
  whole : List Nat
  fraction : Option (List Nat)
  exponent : Option Int
deriving DecidableEq, Repr

/-- A number with the sign of a numeral. -/
def Numeral.signed (n : Numeral) (x : Float) : Number :=
  .float (if n.negative then -x else x)

/-- The number of digits without fraction and exponent: an integer where it fits one, and a
floating point number otherwise and for minus zero. -/
def Numeral.whole? (n : Numeral) : Option Number :=
  let g := Decimal.gatherWhole 0 n.whole
  if g.exponent ≠ 0 then g.toFloat?.map n.signed
  else if ¬ n.negative then some (.integer g.significand)
  else if g.significand = 0 ∨ Nat.pow 2 63 < g.significand then
    some (n.signed (Float.ofNat g.significand))
  else some (.integer (-(g.significand : Int)))

/-- The number that a numeral stands for; `none` when it is too large. -/
def Numeral.number? (n : Numeral) : Option Number :=
  match n.fraction, n.exponent with
  | none, none => n.whole?
  | fraction, exponent =>
    let g := Decimal.gatherFraction (Decimal.gatherWhole 0 n.whole) (fraction.getD [])
    let scaled : Decimal.Gathered := ⟨g.significand, g.exponent + exponent.getD 0⟩
    scaled.toFloat?.map n.signed

/-- The values of the digits at the front. -/
def leadingDigits (cs : List Char) : List Nat :=
  (cs.takeWhile Char.isDigit).map fun c => c.toNat - 48

/-- What follows the digits at the front. -/
def afterDigits (cs : List Char) : List Char :=
  cs.dropWhile Char.isDigit

/-- A point and at least one digit, or nothing. -/
def scanFraction : List Char → Option (Option (List Nat) × List Char)
  | '.' :: cs =>
    if leadingDigits cs = [] then none else some (some (leadingDigits cs), afterDigits cs)
  | cs => some (none, cs)

/-- The integer that some digits stand for. -/
def ofDigits (ds : List Nat) : Nat :=
  ds.foldl (fun acc d => acc * 10 + d) 0

/-- The digits of an exponent, at least one. -/
def scanExponentDigits (negative : Bool) (cs : List Char) : Option (Option Int × List Char) :=
  if leadingDigits cs = [] then none
  else
    let n : Int := ofDigits (leadingDigits cs)
    some (some (if negative then -n else n), afterDigits cs)

/-- The letter of an exponent with an optional sign and digits, or nothing. -/
def scanExponent : List Char → Option (Option Int × List Char)
  | [] => some (none, [])
  | c :: cs =>
    if c = 'e' ∨ c = 'E' then
      match cs with
      | '-' :: rest => scanExponentDigits true rest
      | '+' :: rest => scanExponentDigits false rest
      | rest => scanExponentDigits false rest
    else some (none, c :: cs)

/-- A number after its minus sign.  A zero in front stands alone. -/
def scanNumeral (negative : Bool) (cs : List Char) : Option (Numeral × List Char) :=
  match leadingDigits cs with
  | [] => none
  | 0 :: _ :: _ => none
  | whole => do
    let (fraction, rest) ← scanFraction (afterDigits cs)
    let (exponent, rest) ← scanExponent rest
    return (⟨negative, whole, fraction, exponent⟩, rest)

/-! ## Strings -/

/-- A piece of a string: a character as it stands, or a unit of UTF-16 given by its number. -/
inductive Piece where
  | char (c : Char)
  | unit (n : Nat)
deriving DecidableEq, Repr

/-- The value of a hexadecimal digit. -/
def hexValue? (c : Char) : Option Nat :=
  if c.isDigit then some (c.toNat - 48)
  else if 'a' ≤ c ∧ c ≤ 'f' then some (c.toNat - 87)
  else if 'A' ≤ c ∧ c ≤ 'F' then some (c.toNat - 55)
  else none

/-- The number of four hexadecimal digits. -/
def hexUnit? (a b c d : Char) : Option Nat := do
  return (((← hexValue? a) * 16 + (← hexValue? b)) * 16 + (← hexValue? c)) * 16 + (← hexValue? d)

/-- The character that a letter after a backslash stands for. -/
def shortEscape? (c : Char) : Option Char :=
  if c = '"' ∨ c = '\\' ∨ c = '/' then some c
  else if c = 'b' then some '\x08'
  else if c = 'f' then some '\x0c'
  else if c = 'n' then some '\n'
  else if c = 'r' then some '\r'
  else if c = 't' then some '\t'
  else none

/-- The pieces up to the closing quote, and what follows it. -/
def scanPieces : List Char → Option (List Piece × List Char)
  | [] => none
  | ['\\'] => none
  | '\\' :: 'u' :: a :: b :: c :: d :: rest => do
    let n ← hexUnit? a b c d
    let (pieces, after) ← scanPieces rest
    return (.unit n :: pieces, after)
  | '\\' :: e :: rest => do
    let c ← shortEscape? e
    let (pieces, after) ← scanPieces rest
    return (.char c :: pieces, after)
  | c :: rest =>
    if c = '"' then some ([], rest)
    else if c.toNat < 0x20 then none
    else do
      let (pieces, after) ← scanPieces rest
      return (.char c :: pieces, after)

/-- A unit that begins a pair. -/
def isHighSurrogate (n : Nat) : Bool := 0xD800 ≤ n && n ≤ 0xDBFF

/-- A unit that ends a pair. -/
def isLowSurrogate (n : Nat) : Bool := 0xDC00 ≤ n && n ≤ 0xDFFF

/-- The text of some pieces; `none` when half of a pair stands alone. -/
def assemble : List Piece → Option (List Char)
  | [] => some []
  | .char c :: rest => (assemble rest).map (c :: ·)
  | .unit n :: .unit m :: rest =>
    if isHighSurrogate n then
      if isLowSurrogate m then
        (assemble rest).map (Char.ofNat ((n - 0xD800) * 1024 + (m - 0xDC00) + 0x10000) :: ·)
      else none
    else if isLowSurrogate n then none
    else (assemble (.unit m :: rest)).map (Char.ofNat n :: ·)
  | .unit n :: rest =>
    if isHighSurrogate n || isLowSurrogate n then none
    else (assemble rest).map (Char.ofNat n :: ·)

/-- Plain characters assemble to themselves. -/
theorem assemble_map_char (cs : List Char) : assemble (cs.map Piece.char) = some cs := by
  induction cs with
  | nil => rfl
  | cons c rest ih => simp [assemble, ih]

/-! ## Tokens -/

/-- A token of a JSON text. -/
inductive Token where
  | openArray
  | closeArray
  | openObject
  | closeObject
  | comma
  | colon
  | null
  | bool (b : Bool)
  | number (value : Option Number)
  | string (text : Option String)
  | bad
deriving DecidableEq

/-- The white space between tokens. -/
def isSpace (c : Char) : Bool :=
  c == ' ' || c == '\n' || c == '\t' || c == '\r'

/-- The token of one mark. -/
def mark? (c : Char) : Option Token :=
  if c = '[' then some .openArray
  else if c = ']' then some .closeArray
  else if c = '\x7b' then some .openObject
  else if c = '\x7d' then some .closeObject
  else if c = ',' then some .comma
  else if c = ':' then some .colon
  else none

/-- The token at the front of a text that does not start with white space. -/
def nextToken : List Char → Option (Token × List Char)
  | [] => none
  | 'n' :: 'u' :: 'l' :: 'l' :: rest => some (.null, rest)
  | 't' :: 'r' :: 'u' :: 'e' :: rest => some (.bool true, rest)
  | 'f' :: 'a' :: 'l' :: 's' :: 'e' :: rest => some (.bool false, rest)
  | c :: rest =>
    match mark? c with
    | some token => some (token, rest)
    | none =>
      if c = '"' then do
        let (pieces, after) ← scanPieces rest
        return (.string ((assemble pieces).map String.ofList), after)
      else if c = '-' then do
        let (numeral, after) ← scanNumeral true rest
        return (.number numeral.number?, after)
      else if c.isDigit then do
        let (numeral, after) ← scanNumeral false (c :: rest)
        return (.number numeral.number?, after)
      else none

/-- The tokens of a text, at most as many as the bound. -/
def tokensWithin : Nat → List Char → List Token
  | 0, _ => []
  | bound + 1, cs =>
    match cs.dropWhile isSpace with
    | [] => []
    | c :: rest =>
      match nextToken (c :: rest) with
      | none => [.bad]
      | some (token, after) => token :: tokensWithin bound after

/-- The tokens of a text; every token takes at least one character. -/
def tokens (cs : List Char) : List Token :=
  tokensWithin cs.length cs

end Json
end MessageQueue
