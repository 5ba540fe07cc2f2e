import MessageQueue.Json.Printer

/-!
# Data to be written as JSON

The values that a caller may hand in as a payload form a larger world than JSON: numbers
of any size, infinities, characters, bytes, maps with keys of any kind.  Most have a JSON
value; an integer that is too wide and a key that is no text have none.

Main results:

- Theorem `toJson_json`: a JSON value is written as itself.
-/

namespace MessageQueue
namespace Json

/-- Why a datum has no JSON value. -/
inductive WriteError where
  | keyNotString
  | numberOutOfRange
deriving DecidableEq, Repr

/-- The wording of a write error. -/
def WriteError.message : WriteError → String
  | keyNotString => "key must be a string"
  | numberOutOfRange => "number out of range"

/-- A value that a caller hands in. -/
inductive Datum where
  | json (v : Json)
  | unit
  | bool (b : Bool)
  | integer (n : Int)
  | double (x : Float)
  | single (x : Float32)
  | char (c : Char)
  | string (s : String)
  | bytes (bs : List UInt8)
  | sequence (items : List Datum)
  | mapping (entries : List (Datum × Datum))

namespace Datum

/-- The text of a datum as the name of a member. -/
def keyText : Datum → Except WriteError String
  | .string s => .ok s
  | .char c => .ok (String.singleton c)
  | .bool b => .ok (if b then "true" else "false")
  | .integer n => .ok (String.ofList (integerText n))
  | _ => .error .keyNotString

/-- A floating point number, or null in place of one that is not finite. -/
def ofFloat (x : Float) : Json :=
  if x.isFinite then .float x else .null

mutual

/-- The JSON value of a datum. -/
def toJson : Datum → Except WriteError Json
  | .json v => .ok v
  | .unit => .ok .null
  | .bool b => .ok (.bool b)
  | .integer n => if isWide n then .ok (.int n) else .error .numberOutOfRange
  | .double x => .ok (ofFloat x)
  | .single x => .ok (ofFloat x.toFloat)
  | .char c => .ok (.string (String.singleton c))
  | .string s => .ok (.string s)
  | .bytes bs => .ok (.array (bs.map fun b => .int b.toNat))
  | .sequence ds => (itemsToJson ds).map .array
  | .mapping es => (entriesToJson es).map ofMembers

/-- The JSON values of the items of a sequence. -/
def itemsToJson : List Datum → Except WriteError (List Json)
  | [] => .ok []
  | d :: rest => do
    let v ← toJson d
    let vs ← itemsToJson rest
    return v :: vs

/-- The members of a mapping; of a key and its value the key is written first. -/
def entriesToJson : List (Datum × Datum) → Except WriteError (List (String × Json))
  | [] => .ok []
  | (k, d) :: rest => do
    let name ← keyText k
    let v ← toJson d
    let ms ← entriesToJson rest
    return (name, v) :: ms

end

/-- A JSON value is written as itself. -/
@[simp]
theorem toJson_json (v : Json) : (Datum.json v).toJson = .ok v := rfl

end Datum
end Json
end MessageQueue
