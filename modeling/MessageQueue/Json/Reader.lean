import MessageQueue.Json.Draft
import MessageQueue.Json.Printer
import MessageQueue.Text.Quoted

/-!
# Reading typed values

A reader takes a draft to a value of some type or tells the first thing that does not
match.  Drafts come from texts, where nesting is limited and a fault shows when it is
reached, or from values, which have neither limit nor fault.  Records are read from objects
by the names of their fields and from arrays by the order of their fields.

Main results:

- Theorem `Reader.bool_ofJson` and its companions: what the basic readers make of values.
-/

namespace MessageQueue
namespace Json

/-! ## Errors -/

/-- What stands where something else was expected. -/
inductive Found where
  | null
  | bool (b : Bool)
  | number (n : Number)
  | string (s : String)
  | sequence
  | map
deriving DecidableEq

/-- How errors name what was found. -/
def Found.text : Found → String
  | null => "null"
  | bool true => "boolean `true`"
  | bool false => "boolean `false`"
  | number (.integer n) => "integer `" ++ String.ofList (integerText n) ++ "`"
  | number (.float x) => "floating point `" ++ floatText x ++ "`"
  | string s => "string " ++ Text.quote s
  | sequence => "sequence"
  | map => "map"

/-- Why a value does not match a type. -/
inductive Mismatch where
  | wrongType (found : Found) (expected : String)
  | outOfRange (found : Int) (expected : String)
  | missingField (name : String)
  | duplicateField (name : String)
  | wrongLength (found : Nat) (expected : String)
  | refused (reason : String)
deriving DecidableEq

/-- The wording of a mismatch. -/
def Mismatch.message : Mismatch → String
  | wrongType found expected => "invalid type: " ++ found.text ++ ", expected " ++ expected
  | outOfRange found expected =>
    "invalid value: " ++ (Found.number (.integer found)).text ++ ", expected " ++ expected
  | missingField name => "missing field `" ++ name ++ "`"
  | duplicateField name => "duplicate field `" ++ name ++ "`"
  | wrongLength found expected => s!"invalid length {found}, expected {expected}"
  | refused reason => reason

/-- Why reading fails: the text is no JSON, or its value does not match. -/
inductive ReadError where
  | malformed
  | mismatch (m : Mismatch)
deriving DecidableEq

/-- The wording of a read error. -/
def ReadError.message : ReadError → String
  | malformed => "malformed JSON"
  | mismatch m => m.message

/-! ## Readers -/

/-- Where a draft comes from: a text with so many levels of nesting left, or a value. -/
inductive Origin where
  | text (levels : Nat)
  | value
deriving DecidableEq, Repr

/-- The origin one level further in; the last level of a text cannot be entered. -/
def Origin.enter : Origin → Except ReadError Origin
  | text (levels + 2) => .ok (text (levels + 1))
  | text _ => .error .malformed
  | value => .ok value

/-- A way to read values of a type from drafts. -/
abbrev Reader (α : Type) := Origin → Draft → Except ReadError α

namespace Reader

/-- The error that a draft is not what was expected; a fault in the draft comes first. -/
def unexpected {α : Type} (expected : String) : Draft → Except ReadError α
  | .broken | .number none | .string none => .error .malformed
  | .null => .error (.mismatch (.wrongType .null expected))
  | .bool b => .error (.mismatch (.wrongType (.bool b) expected))
  | .number (some n) => .error (.mismatch (.wrongType (.number n) expected))
  | .string (some s) => .error (.mismatch (.wrongType (.string s) expected))
  | .array _ _ => .error (.mismatch (.wrongType .sequence expected))
  | .object _ _ => .error (.mismatch (.wrongType .map expected))

/-- Reads a boolean. -/
def bool : Reader Bool := fun _ d =>
  match d with
  | .bool b => .ok b
  | d => unexpected "a boolean" d

/-- Reads an integer of a type. -/
def integer (t : Text.IntType) : Reader Int := fun _ d =>
  match d with
  | .number (some (.integer n)) =>
    if t.contains n then .ok n else .error (.mismatch (.outOfRange n t.name))
  | d => unexpected t.name d

/-- Reads a string, which errors describe in some words. -/
def stringAs (expected : String) : Reader String := fun _ d =>
  match d with
  | .string (some s) => .ok s
  | d => unexpected expected d

/-- Reads a string. -/
def string : Reader String := stringAs "a string"

/-- Reads a value and takes it further, which may be refused. -/
def refine {α β : Type} (r : Reader α) (f : α → Except String β) : Reader β := fun o d =>
  match r o d with
  | .error e => .error e
  | .ok a =>
    match f a with
    | .error reason => .error (.mismatch (.refused reason))
    | .ok b => .ok b

/-- Reads null as no value. -/
def optional {α : Type} (r : Reader α) : Reader (Option α) := fun o d =>
  match d with
  | .null => .ok none
  | d => (r o d).map some

/-- Reads items one after the other. -/
def each {α : Type} (r : Reader α) (o : Origin) : List Draft → Except ReadError (List α)
  | [] => .ok []
  | d :: rest => do
    let a ← r o d
    let as ← each r o rest
    return a :: as

/-- Reads an array. -/
def list {α : Type} (r : Reader α) : Reader (List α) := fun o d =>
  match d with
  | .array ds closed => do
    let as ← each r (← o.enter) ds
    if closed then return as else throw .malformed
  | d => unexpected "a sequence" d

/-! ## Reading any value -/

mutual

/-- Reads any value. -/
def any : Reader Json := fun o d =>
  match d with
  | .broken | .number none | .string none => .error .malformed
  | .null => .ok .null
  | .bool b => .ok (.bool b)
  | .number (some n) => .ok (.number n)
  | .string (some s) => .ok (.string s)
  | .array ds closed =>
    match o.enter with
    | .error e => .error e
    | .ok inner =>
      match anyItems inner ds with
      | .error e => .error e
      | .ok vs => if closed then .ok (.array vs) else .error .malformed
  | .object ms closed =>
    match o.enter with
    | .error e => .error e
    | .ok inner =>
      match anyMembers inner ms with
      | .error e => .error e
      | .ok vs => if closed then .ok (Json.ofMembers vs) else .error .malformed
termination_by structural _ d => d

/-- Reads the items of an array of any values. -/
def anyItems : Origin → List Draft → Except ReadError (List Json)
  | _, [] => .ok []
  | o, d :: rest =>
    match any o d with
    | .error e => .error e
    | .ok v => (anyItems o rest).map (v :: ·)
termination_by structural _ ds => ds

/-- Reads the members of an object of any values. -/
def anyMembers : Origin → List (Option String × Draft) → Except ReadError (List (String × Json))
  | _, [] => .ok []
  | _, (none, _) :: _ => .error .malformed
  | o, (some k, d) :: rest =>
    match any o d with
    | .error e => .error e
    | .ok v => (anyMembers o rest).map ((k, v) :: ·)
termination_by structural _ ms => ms

end

/-! ## What the basic readers make of values -/

theorem bool_ofJson (o : Origin) (b : Bool) : bool o (Draft.ofJson (.bool b)) = .ok b := rfl

theorem integer_ofJson {t : Text.IntType} {n : Int} (h : t.contains n = true) (o : Origin) :
    integer t o (Draft.ofJson (.int n)) = .ok n := by
  simp [integer, Draft.ofJson, h]

theorem string_ofJson (o : Origin) (s : String) :
    string o (Draft.ofJson (.string s)) = .ok s := rfl

end Reader

/-! ## Records -/

/-- Whether a field may be left out, and the value that then stands for it.  A nullable field
may be missing from an object, a defaulted one also from the end of an array. -/
inductive Absence (α : Type) where
  | required
  | nullable (value : α)
  | defaulted (value : α)

/-- The fields of a record in the order of their declaration, by the type of the record and the
type of the fields met so far. -/
inductive Fields : Type → Type → Type 1 where
  | nil : Fields Unit Unit
  | cons {α β σ : Type} (name : String) (reader : Reader α) (absence : Absence α)
      (rest : Fields β σ) : Fields (α × β) (Option α × σ)

namespace Fields

/-- How many fields there are. -/
def count : {β σ : Type} → Fields β σ → Nat
  | _, _, nil => 0
  | _, _, cons _ _ _ rest => rest.count + 1

/-- No field was met yet. -/
def unset : {β σ : Type} → Fields β σ → σ
  | _, _, nil => ()
  | _, _, cons _ _ _ rest => (none, rest.unset)

/-- Reads the value of a named field; `none` when there is no such field. -/
def assign (name : String) (o : Origin) (d : Draft) :
    {β σ : Type} → Fields β σ → σ → Option (Except ReadError σ)
  | _, _, nil, _ => none
  | _, _, cons field reader _ rest, (slot, slots) =>
    if name = field then
      match slot with
      | some _ => some (.error (.mismatch (.duplicateField name)))
      | none => some ((reader o d).map fun a => (some a, slots))
    else (rest.assign name o d slots).map fun r => r.map fun filled => (slot, filled)

/-- The record of the fields that were met; the first missing one is reported. -/
def complete : {β σ : Type} → Fields β σ → σ → Except ReadError β
  | _, _, nil, _ => .ok ()
  | _, _, cons name _ absence rest, (slot, slots) =>
    match slot, absence with
    | some a, _ => (rest.complete slots).map (a, ·)
    | none, .required => .error (.mismatch (.missingField name))
    | none, .nullable a | none, .defaulted a => (rest.complete slots).map (a, ·)

/-- Reads the members of an object in their order; unknown ones only have to be whole. -/
def readMembers {β σ : Type} (fs : Fields β σ) (o : Origin) :
    List (Option String × Draft) → σ → Except ReadError σ
  | [], slots => .ok slots
  | (none, _) :: _, _ => .error .malformed
  | (some name, d) :: rest, slots =>
    match fs.assign name o d slots with
    | some (.error e) => .error e
    | some (.ok filled) => fs.readMembers o rest filled
    | none => if d.isWhole then fs.readMembers o rest slots else .error .malformed

/-- Reads the items of an array as the fields in their order; gives the items left over.  A
missing item is told by its position. -/
def readItems (o : Origin) (closed : Bool) (expected : String) :
    {β σ : Type} → Nat → Fields β σ → List Draft → Except ReadError (β × List Draft)
  | _, _, _, nil, ds => .ok ((), ds)
  | _, _, position, cons _ reader absence rest, ds =>
    match ds, absence with
    | d :: more, _ =>
      match reader o d with
      | .error e => .error e
      | .ok a =>
        (readItems o closed expected (position + 1) rest more).map fun r => ((a, r.1), r.2)
    | [], .defaulted a =>
      if closed then
        (readItems o closed expected (position + 1) rest []).map fun r => ((a, r.1), r.2)
      else .error .malformed
    | [], _ =>
      .error (if closed then .mismatch (.wrongLength position expected) else .malformed)

/-- Reads a record with a name. -/
def read {β σ : Type} (name : String) (fs : Fields β σ) : Reader β := fun o d =>
  match d with
  | .object ms closed => do
    let slots ← fs.readMembers (← o.enter) ms fs.unset
    if closed then fs.complete slots else throw .malformed
  | .array ds closed => do
    let size := fs.count
    let expected := s!"struct {name} with {size} elements"
    let (record, extra) ← readItems (← o.enter) closed expected 0 fs ds
    match extra, closed, o with
    | [], true, _ => return record
    | _ :: _, true, .value =>
      throw (.mismatch (.wrongLength ds.length "fewer elements in array"))
    | _, _, _ => throw .malformed
  | d => Reader.unexpected ("struct " ++ name) d

end Fields

/-! ## Whole texts and values -/

/-- How deep a text may nest arrays and objects, and one more. -/
def nestingLimit : Nat := 128

/-- Reads a whole text. -/
def readText {α : Type} (r : Reader α) (s : String) : Except ReadError α :=
  match Draft.ofTokens (tokens s.toList) with
  | (d, after) =>
    match r (.text nestingLimit) d with
    | .error e => .error e
    | .ok a => if after = some [] then .ok a else .error .malformed

/-- Reads a value. -/
def readValue {α : Type} (r : Reader α) (v : Json) : Except ReadError α :=
  r .value (Draft.ofJson v)

/-- The value of a whole text. -/
def ofText? (s : String) : Option Json :=
  (readText Reader.any s).toOption

end Json
end MessageQueue
