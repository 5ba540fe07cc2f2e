import MessageQueue.Text.Blank
import MessageQueue.Text.Integer
import MessageQueue.Time.Instant

/-!
# RFC 3339 texts of instants

Instants are written in universal time with the fewest of 0, 3, 6 or 9 decimals that
lose nothing.  The reader is more liberal than the writer: fields may lack leading
zeros, blanks may stand before a field, the letters may be small, the date may be
followed by a space, and any offset below a day is brought to universal time.

Main results:

- Theorem `fraction_eq_nil_iff`: no decimals are written exactly on whole seconds.
-/

namespace MessageQueue
namespace Time

/-! ## Writing -/

/-- A year with four digits; outside 0 to 9999 with a sign. -/
def yearText (year : Int) : List Char :=
  let ds := Text.paddedDigits 4 year.natAbs
  if 0 ≤ year ∧ year ≤ 9999 then ds
  else (if year < 0 then '-' else '+') :: ds

/-- The decimals of a second: none, or a point and 3, 6 or 9 digits. -/
def fractionText (nano : Nat) : List Char :=
  if nano = 0 then []
  else if nano % 1000000 = 0 then '.' :: Text.paddedDigits 3 (nano / 1000000)
  else if nano % 1000 = 0 then '.' :: Text.paddedDigits 6 (nano / 1000)
  else '.' :: Text.paddedDigits 9 nano

theorem fraction_eq_nil_iff {nano : Nat} : fractionText nano = [] ↔ nano = 0 := by
  unfold fractionText
  repeat' split
  all_goals simp_all

/-- The date and time of an instant, without an offset; a leap second is second 60. -/
def localText (t : Instant) : List Char :=
  let date := Date.ofDayNumber (t.second / 86400)
  let secondOfDay := (t.second % 86400).toNat
  let leap := t.inLeapSecond
  let second := secondOfDay % 60 + (if leap then 1 else 0)
  let nano := if leap then t.nano - 1000000000 else t.nano
  yearText date.year ++ '-' :: Text.paddedDigits 2 date.month ++
    '-' :: Text.paddedDigits 2 date.day ++ 'T' :: Text.paddedDigits 2 (secondOfDay / 3600) ++
    ':' :: Text.paddedDigits 2 (secondOfDay / 60 % 60) ++ ':' :: Text.paddedDigits 2 second ++
    fractionText nano

/-- The text of an instant with the offset written `Z`. -/
def zuluText (t : Instant) : String :=
  String.ofList (localText t ++ ['Z'])

/-- The text of an instant with the offset written in digits. -/
def offsetText (t : Instant) : String :=
  String.ofList (localText t ++ ['+', '0', '0', ':', '0', '0'])

/-! ## Reading fields -/

/-- Why a text is not the time of an instant. -/
inductive TimeError where
  | tooShort
  | invalid
  | outOfRange
  | tooLong
  | impossible
deriving DecidableEq, Repr

/-- The wording of a time error. -/
def TimeError.message : TimeError → String
  | tooShort => "premature end of input"
  | invalid => "input contains invalid characters"
  | outOfRange => "input is out of range"
  | tooLong => "trailing input"
  | impossible => "no possible date and time matching input"

/-- A step of the reader takes some characters off the front of a text. -/
abbrev Scan := StateT (List Char) (Except TimeError)

/-- Adds up to `most` digits to a number; one that leaves 63 bits is out of range. -/
def scanDigits : Nat → Nat → Scan Nat
  | 0, acc => fun cs => .ok (acc, cs)
  | most + 1, acc => fun cs =>
    match cs with
    | [] => .ok (acc, [])
    | c :: rest =>
      match Text.digitValue? c with
      | none => .ok (acc, c :: rest)
      | some d =>
        if acc * 10 + d < 9223372036854775808 then scanDigits most (acc * 10 + d) rest
        else .error .outOfRange

/-- Reads a number of one up to `most` digits. -/
def scanNumber (most : Nat) : Scan Nat
  | [] => .error .tooShort
  | c :: rest => if c.isDigit then scanDigits most 0 (c :: rest) else .error .invalid

/-- Passes over blanks. -/
def skipBlanks : Scan Unit
  | cs => .ok ((), Text.trimStart cs)

/-- Reads a field of one or two digits, after blanks, that has to lie in a range. -/
def scanField (lowest highest : Nat) : Scan Nat := do
  skipBlanks
  let n ← scanNumber 2
  if lowest ≤ n ∧ n ≤ highest then return n else throw .outOfRange

/-- Reads the digits of a year: four at most, or any count of them after a sign. -/
def scanSignedYear : Scan Int
  | '-' :: rest => (fun r => (-(r.1 : Int), r.2)) <$> scanNumber rest.length rest
  | '+' :: rest => (fun r => ((r.1 : Int), r.2)) <$> scanNumber rest.length rest
  | cs => (fun r => ((r.1 : Int), r.2)) <$> scanNumber 4 cs

/-- Reads a year of 32 bits, after blanks. -/
def scanYear : Scan Int := do
  skipBlanks
  let year ← scanSignedYear
  if Text.IntType.signed32.contains year then return year else throw .outOfRange

/-- Reads one character that satisfies a test. -/
def scanChar (test : Char → Bool) : Scan Char
  | [] => .error .tooShort
  | c :: rest => if test c then .ok (c, rest) else .error .invalid

/-- Reads a separator, which blanks may precede. -/
def scanSeparator (c : Char) : Scan Unit := do
  skipBlanks
  let _ ← scanChar (· == c)

/-- Reads the decimals of a second, if there are any; those after the ninth are dropped. -/
def scanFraction : Scan Nat
  | '.' :: cs =>
    (fun r => (r.1 * Nat.pow 10 (9 - (cs.length - r.2.length)), r.2.dropWhile Char.isDigit)) <$>
      scanNumber 9 cs
  | cs => .ok (0, cs)

/-! ## Reading the offset -/

/-- Reads two digits of which the first is at most `highest`. -/
def scanTwoDigits (highest : Nat) : Scan Nat
  | [] => .error .tooShort
  | [c] => if c.toNat < 128 then .error .tooShort else .error .invalid
  | a :: b :: rest =>
    match Text.digitValue? a, Text.digitValue? b with
    | some m, some n =>
      if m ≤ highest then .ok (m * 10 + n, rest) else .error .outOfRange
    | _, _ => .error .invalid

/-- Passes over what may stand between hours and minutes. -/
def skipColons : Scan Unit
  | cs => .ok ((), cs.dropWhile fun c => c == ':' || Text.isBlank c)

/-- Reads an offset of a sign, hours and minutes, in seconds. -/
def scanSignedOffset : Scan Int := do
  let sign ← scanChar fun c => c == '+' || c == '-' || c == '−'
  let hours ← scanTwoDigits 9
  skipColons
  let minutes ← scanTwoDigits 5
  let seconds : Int := hours * 3600 + minutes * 60
  return if sign = '+' then seconds else -seconds

/-- Reads the offset from universal time, in seconds: the letter `Z`, the word `UTC`, or a sign
with hours and minutes. -/
def scanOffset : Scan Int
  | [] => .error .tooShort
  | c :: rest =>
    if ((c :: rest).take 3).map Char.toUpper = ['U', 'T', 'C'] then .ok (0, rest.drop 2)
    else if c = 'Z' ∨ c = 'z' then .ok (0, rest)
    else scanSignedOffset (c :: rest)

/-! ## Reading instants -/

/-- The fields of a time text. -/
structure Fields where
  date : Date
  hour : Nat
  minute : Nat
  second : Nat
  nano : Nat
  offset : Int
deriving DecidableEq, Repr

/-- Reads the fields of a time from the left. -/
def scanFields : Scan Fields := do
  let year ← scanYear
  scanSeparator '-'
  let month ← scanField 1 12
  scanSeparator '-'
  let day ← scanField 1 31
  let _ ← scanChar fun c => c == 'T' || c == 't' || c == ' '
  let hour ← scanField 0 23
  scanSeparator ':'
  let minute ← scanField 0 59
  scanSeparator ':'
  let second ← scanField 0 60
  let nano ← scanFraction
  skipBlanks
  let offset ← scanOffset
  return ⟨⟨year, month, day⟩, hour, minute, second, nano, offset⟩

/-- The instant of the fields: the date has to exist and the offset has to be less than a day. -/
def Fields.toInstant (f : Fields) : Except TimeError Instant :=
  let leap := f.second == 60
  let second := if leap then 59 else f.second
  let nano := if leap then f.nano + 1000000000 else f.nano
  let secondOfDay : Int := f.hour * 3600 + f.minute * 60 + second
  let start := f.date.dayNumber * 86400
  if ¬ f.date.isValid ∨ start < firstSecond ∨ lastSecond < start then .error .outOfRange
  else if 86400 ≤ f.offset.natAbs then .error .outOfRange
  else
    match Instant.ofParts? (start + secondOfDay - f.offset) nano with
    | some t => .ok t
    | none => .error .impossible

/-- Reads a whole text as an instant; nothing but blanks may be left over. -/
def readInstant (s : String) : Except TimeError Instant :=
  match scanFields s.toList with
  | .error e => .error e
  | .ok (fields, rest) =>
    if Text.trimStart rest = [] then fields.toInstant else .error .tooLong

end Time
end MessageQueue
