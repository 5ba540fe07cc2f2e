import MessageQueue.Json.Value

/-!
# Statements

What a client sends to the server: a text with numbered places and the values for them,
typed as the server sees them, or the start or end of a transaction.
-/

namespace MessageQueue
namespace Database

/-- A value that is bound to a place of a statement. -/
inductive Param where
  | text (s : String)
  | int4 (n : Int)
  | int8 (n : Int)
  | bool (b : Bool)
  | jsonb (v : Json)
  | textArray (items : List String)
  | jsonbArray (items : List (Option Json))
deriving DecidableEq

/-- A text with its values. -/
structure Statement where
  sql : String
  params : List Param
deriving DecidableEq

/-- The place for the value at a position, counted from one. -/
def placeholder (position : Nat) : String := s!"${position}"

/-- What a client asks the server to do. -/
inductive Action where
  | run (s : Statement)
  | begin
  | commit
deriving DecidableEq

end Database
end MessageQueue
