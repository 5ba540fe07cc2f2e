import MessageQueue.Database.Error
import MessageQueue.Json.Reader
import MessageQueue.Time.Rfc3339

/-!
# Rows

An answer of the server has named and typed columns and rows of cells.  A client takes cells
by column, checks the type of each that is not null, and reports the first that does not fit.
-/

namespace MessageQueue
namespace Database

/-! ## Answers -/

/-- The types of columns. -/
inductive SqlType where
  | text
  | int2
  | int4
  | int8
  | bool
  | json
  | jsonb
  | timestamptz
deriving DecidableEq, Repr

/-- The name of a type. -/
def SqlType.name : SqlType → String
  | text => "TEXT"
  | int2 => "INT2"
  | int4 => "INT4"
  | int8 => "INT8"
  | bool => "BOOL"
  | json => "JSON"
  | jsonb => "JSONB"
  | timestamptz => "TIMESTAMPTZ"

/-- A cell of a row. -/
inductive Cell where
  | null
  | text (s : String)
  | int (n : Int)
  | bool (b : Bool)
  | json (v : Json)
  | instant (t : Time.Instant)
deriving DecidableEq

/-- Columns and rows of cells. -/
structure Rows where
  columns : List (String × SqlType)
  data : List (List Cell)
deriving DecidableEq

/-- The answer to a statement: rows, or the count of the rows that were written. -/
inductive Outcome where
  | rows (r : Rows)
  | affected (n : Nat)
deriving DecidableEq

namespace Outcome

/-- The columns of an answer. -/
def columns : Outcome → List (String × SqlType)
  | rows r => r.columns
  | affected _ => []

/-- The rows of an answer. -/
def data : Outcome → List (List Cell)
  | rows r => r.data
  | affected _ => []

/-- How many rows a statement was about. -/
def count : Outcome → Nat
  | rows r => r.data.length
  | affected n => n

end Outcome

/-! ## Reading cells -/

/-- How a column is read: the name of what is read and of the type it has on the server, the types
that fit, and what is made of a cell. -/
structure ColumnReader (α : Type) where
  shown : String
  expected : SqlType
  fits : SqlType → Bool
  ofNull : Except String α
  ofCell : Cell → Except String α

namespace ColumnReader

/-- What is said of null where a value must be. -/
def unexpectedNull : String := "unexpected null; try decoding as an `Option`"

/-- What is said of a cell that is not of the type of its column. -/
def malformedCell : String := "malformed cell"

/-- A reader of cells of exactly one type, of which null is none. -/
def ofType {α : Type} (shown : String) (t : SqlType) (read : Cell → Option α) :
    ColumnReader α where
  shown
  expected := t
  fits := (· = t)
  ofNull := .error unexpectedNull
  ofCell := fun c => (read c).elim (.error malformedCell) .ok

/-- Reads integers of 64 bits. -/
def int8 : ColumnReader Int :=
  ofType "i64" .int8 fun c => match c with | .int n => some n | _ => none

/-- Reads integers of 32 bits. -/
def int4 : ColumnReader Int :=
  ofType "i32" .int4 fun c => match c with | .int n => some n | _ => none

/-- Reads booleans. -/
def bool : ColumnReader Bool :=
  ofType "bool" .bool fun c => match c with | .bool b => some b | _ => none

/-- Reads texts. -/
def text : ColumnReader String :=
  ofType "String" .text fun c => match c with | .text s => some s | _ => none

/-- Reads instants. -/
def instant : ColumnReader Time.Instant :=
  ofType "DateTime<Utc>" .timestamptz fun c => match c with | .instant t => some t | _ => none

/-- Reads JSON of either kind, from its text. -/
def json {α : Type} (r : Json.Reader α) : ColumnReader α where
  shown := "Json"
  expected := .jsonb
  fits := fun t => t = .json || t = .jsonb
  ofNull := .error unexpectedNull
  ofCell := fun c =>
    match c with
    | .json v => (Json.readText r (Json.text v)).mapError Json.ReadError.message
    | _ => .error malformedCell

/-- Reads null as no value. -/
def nullable {α : Type} (r : ColumnReader α) : ColumnReader (Option α) where
  shown := "core::option::Option<" ++ r.shown ++ ">"
  expected := r.expected
  fits := r.fits
  ofNull := .ok none
  ofCell := fun c => (r.ofCell c).map some

/-- What is said of a column of another type. -/
def mismatch {α : Type} (r : ColumnReader α) (t : SqlType) : String :=
  "mismatched types; Rust type `" ++ r.shown ++ "` (as SQL type `" ++ r.expected.name ++
    "`) is not compatible with SQL type `" ++ t.name ++ "`"

/-- Reads a cell of a column of some type, which errors call by its label. -/
def read {α : Type} (r : ColumnReader α) (label : String) (t : SqlType) (c : Cell) :
    Except DriverError α :=
  let result :=
    if c = .null then r.ofNull
    else if r.fits t then r.ofCell c
    else .error (r.mismatch t)
  result.mapError (.columnDecode label)

end ColumnReader

/-! ## Reading rows -/

/-- A row with the columns it belongs to. -/
structure Row where
  columns : List (String × SqlType)
  cells : List Cell
deriving DecidableEq

namespace Row

/-- Reads the column of a name. -/
def get {α : Type} (row : Row) (name : String) (r : ColumnReader α) : Except DriverError α :=
  match (row.columns.zip row.cells).find? fun e => e.1.1 = name with
  | none => .error (.columnNotFound name)
  | some ((_, t), c) => r.read (Text.quote name) t c

/-- Reads the first column. -/
def first {α : Type} (row : Row) (r : ColumnReader α) : Except DriverError α :=
  match row.columns.zip row.cells with
  | [] => .error (.columnOutOfBounds 0 0)
  | ((_, t), c) :: _ => r.read "0" t c

end Row

namespace Outcome

/-- Reads all rows; the first that cannot be read fails. -/
def all {α : Type} (o : Outcome) (read : Row → Except DriverError α) :
    Except DriverError (List α) :=
  o.data.mapM fun cells => read ⟨o.columns, cells⟩

/-- Reads the first row, if there is one. -/
def optional {α : Type} (o : Outcome) (read : Row → Except DriverError α) :
    Except DriverError (Option α) :=
  match o.data with
  | [] => .ok none
  | cells :: _ => (read ⟨o.columns, cells⟩).map some

/-- Reads the first row, which must be there. -/
def one {α : Type} (o : Outcome) (read : Row → Except DriverError α) : Except DriverError α :=
  match o.data with
  | [] => .error .rowNotFound
  | cells :: _ => read ⟨o.columns, cells⟩

end Outcome
end Database
end MessageQueue
