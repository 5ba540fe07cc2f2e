/-!
# Log events

What the parts of the system tell about their work while it goes on: an event has a
level, a message and named fields.
-/

namespace MessageQueue

/-- How important an event is. -/
inductive Level where
  | debug
  | info
  | warn
  | error
deriving DecidableEq, Repr

/-- The name of a level. -/
def Level.name : Level → String
  | debug => "debug"
  | info => "info"
  | warn => "warn"
  | error => "error"

/-- The value of a field. -/
inductive FieldValue where
  | text (s : String)
  | integer (n : Int)
  | flag (b : Bool)
deriving DecidableEq, Repr

/-- An event of the log. -/
structure Event where
  level : Level
  message : String
  fields : List (String × FieldValue)
deriving DecidableEq, Repr

namespace Event

/-- An event for those who look for faults. -/
def debug (message : String) (fields : List (String × FieldValue)) : Event :=
  ⟨.debug, message, fields⟩

/-- An event of the normal course. -/
def info (message : String) (fields : List (String × FieldValue)) : Event :=
  ⟨.info, message, fields⟩

/-- An event that needs attention. -/
def warn (message : String) (fields : List (String × FieldValue)) : Event :=
  ⟨.warn, message, fields⟩

end Event
end MessageQueue
