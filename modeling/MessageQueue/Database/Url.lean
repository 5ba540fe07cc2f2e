import MessageQueue.Text.Integer
import MessageQueue.Text.Internet

/-!
# Connection URLs

The parts of a URL behind its scheme and two slashes: user and password before the last at
sign, host and port, path, and the pairs of the query.  The parts stay as they were written,
but for dots in the path, which are taken as steps, and for the host, which is checked and
shown in one form.  No step back leaves a drive, such as `C:`.
-/

namespace MessageQueue
namespace Database

/-! ## Errors -/

/-- Why a text is no URL. -/
inductive UrlError where
  | emptyHost
  | invalidPort
  | invalidLongAddress
  | invalidHostCharacter
deriving DecidableEq, Repr

/-- The wording of a URL error. -/
def UrlError.message : UrlError → String
  | emptyHost => "empty host"
  | invalidPort => "invalid port number"
  | invalidLongAddress => "invalid IPv6 address"
  | invalidHostCharacter => "invalid domain character"

/-! ## Parts -/

/-- The parts of a URL. -/
structure Url where
  user : List Char
  password : List Char
  host : Option (List Char)
  port : Option Nat
  path : List Char
  query : List Char
deriving DecidableEq, Repr

/-- The characters up to the first that passes a test, and the rest. -/
def splitWhere (test : Char → Bool) (cs : List Char) : List Char × List Char :=
  (cs.takeWhile (!test ·), cs.dropWhile (!test ·))

/-- Whether a character ends user, host and port. -/
def endsAuthority (c : Char) : Bool := c == '/' || c == '?' || c == '#'

/-- What stands before the last at sign, if there is one, and after it. -/
def splitUser (cs : List Char) : Option (List Char) × List Char :=
  match cs.reverse.span (· ≠ '@') with
  | (after, '@' :: before) => (some before.reverse, after.reverse)
  | _ => (none, cs)

/-! ## Host and port -/

namespace Host

/-- The characters that no host has. -/
def isForbidden (c : Char) : Bool :=
  ['\x00', '\t', '\n', '\r', ' ', '#', '/', ':', '<', '>', '?', '@', '[', '\\', ']', '^',
    '|'].contains c

/-- The host that a text is: a long address between brackets, or any text without forbidden
characters; none when the text is empty. -/
def read (cs : List Char) : Except UrlError (Option (List Char)) :=
  match cs with
  | [] => .ok none
  | '[' :: inner =>
    if inner.getLast? = some ']' then
      match Text.readLong inner.dropLast with
      | some groups => .ok (some ('[' :: Text.longText groups ++ [']']))
      | none => .error .invalidLongAddress
    else .error .invalidLongAddress
  | cs =>
    if cs.any isForbidden then .error .invalidHostCharacter
    else .ok (some (cs.flatMap Text.percentEncode))

end Host

/-- Where a host ends: at the first colon outside brackets. -/
def splitHost : (bracketed : Bool) → List Char → List Char × List Char
  | _, [] => ([], [])
  | bracketed, c :: rest =>
    if c = ':' && !bracketed then ([], c :: rest)
    else
      match splitHost (if c = '[' then true else if c = ']' then false else bracketed) rest with
      | (host, after) => (c :: host, after)

/-- Reads the digits of a port; a backslash ends them. -/
def readPort : (value : Nat) → (met : Bool) → List Char →
    Except UrlError (Option Nat × List Char)
  | value, met, [] => .ok (if met then some value else none, [])
  | value, met, c :: rest =>
    match Text.digitValue? c with
    | some d =>
      if value * 10 + d ≤ 65535 then readPort (value * 10 + d) true rest
      else .error .invalidPort
    | none =>
      if c = '\\' then .ok (if met then some value else none, c :: rest)
      else .error .invalidPort

/-! ## Paths -/

/-- Whether a segment of a path stays where it is, in any of its spellings. -/
def isDot (segment : List Char) : Bool :=
  [".", "%2e"].contains (String.ofList segment).toLower

/-- Whether a segment of a path goes back by one, in any of its spellings. -/
def isDoubleDot (segment : List Char) : Bool :=
  ["..", ".%2e", "%2e.", "%2e%2e"].contains (String.ofList segment).toLower

/-- Whether a segment of a path names a drive: a letter and a colon or a bar, and nothing
else before a backslash. -/
def isDrive : List Char → Bool
  | letter :: mark :: rest =>
    letter.isAlpha && (mark == ':' || mark == '|') && (rest.head?.all (· == '\\'))
  | _ => false

/-- The segments kept so far, in reverse, without the last of them, unless that is a drive. -/
def stepBack : List (List Char) → List (List Char)
  | [] => []
  | last :: before => if isDrive last then last :: before else before

/-- Takes segments one after the other, with those kept so far in reverse. -/
def walk : (kept : List (List Char)) → List (List Char) → List (List Char)
  | kept, [] => kept.reverse
  | kept, [segment] =>
    if isDoubleDot segment then ([] :: stepBack kept).reverse
    else if isDot segment then ([] :: kept).reverse
    else (segment :: kept).reverse
  | kept, segment :: rest =>
    if isDoubleDot segment then walk (stepBack kept) rest
    else if isDot segment then walk kept rest
    else walk (segment :: kept) rest

/-- The path with its dots taken as steps, without the slashes it starts with. -/
def normalPath (cs : List Char) : List Char :=
  let relative := match cs with
    | '/' :: rest => rest
    | _ => cs
  (['/'].intercalate (walk [] (Text.splitAt '/' relative))).dropWhile (· = '/')

/-! ## Whole URLs -/

/-- The text without tabs and line ends, and without blanks and controls at its end. -/
def withoutBlanks (cs : List Char) : List Char :=
  let trimmed := (cs.reverse.dropWhile fun c => c.toNat ≤ 0x20).reverse
  trimmed.filter fun c => c ≠ '\t' && c ≠ '\n' && c ≠ '\r'

/-- Reads what stands behind the scheme and two slashes. -/
def Url.read (cs : List Char) : Except UrlError Url := do
  let (authority, tail) := splitWhere endsAuthority cs
  let (login, place) := splitUser authority
  let (user, secret) := splitWhere (· == ':') (login.getD [])
  let password := secret.drop 1
  let known := user ≠ [] || password ≠ []
  if login = some [] && place = [] && tail ≠ [] then throw .emptyHost
  let (hostText, portText) := splitHost false place
  let host ← Host.read hostText
  if host = none && portText ≠ [] then throw .emptyHost
  let (port, more) ← readPort 0 false (portText.drop 1)
  if host = none && known then throw .emptyHost
  let (path, behind) := splitWhere (fun c => c == '?' || c == '#') (more ++ tail)
  let query := match behind with
    | '?' :: rest => (splitWhere (· == '#') rest).1
    | _ => []
  return ⟨user, password, host, port, normalPath path, query⟩

/-- A name and a value of a query, with their percent signs and pluses resolved. -/
def queryPair (piece : List Char) : String × String :=
  let (name, value) := splitWhere (· == '=') piece
  let resolve := fun cs : List Char =>
    Text.mendOctets (Text.percentDecode (cs.map fun c => if c = '+' then ' ' else c))
  (resolve name, resolve (value.drop 1))

/-- The pairs of a query in their order. -/
def queryPairs (query : List Char) : List (String × String) :=
  ((Text.splitAt '&' query).filter (· ≠ [])).map queryPair

end Database
end MessageQueue
