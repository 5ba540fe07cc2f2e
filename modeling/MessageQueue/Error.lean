import MessageQueue.Json.Datum
import MessageQueue.Json.Reader

/-!
# Errors of queue operations

What can go wrong with an operation on a queue, how each error is worded, and which ones
a later attempt can mend.

Main results:

- Theorem `isTransient_iff`: only lost or refused connections are transient.
-/

namespace MessageQueue

/-- Why a payload cannot be taken to JSON or back. -/
inductive PayloadError where
  | unreadable (e : Json.ReadError)
  | unwritable (e : Json.WriteError)
deriving DecidableEq

/-- The wording of a payload error. -/
def PayloadError.message : PayloadError → String
  | unreadable e => e.message
  | unwritable e => e.message

/-- An error that an operation reports. -/
inductive QueueError where
  | connection (reason : String)
  | queueExists (queue : String)
  | queueNotFound (queue : String)
  | messageNotFound (queue : String) (id : Int)
  | notSupported (what : String)
  | validation (reason : String)
  | serialization (cause : PayloadError)
  | database (reason : String)
  | config (reason : String)
deriving DecidableEq

namespace QueueError

/-- The wording of an error. -/
def message : QueueError → String
  | connection reason => "Connection error: " ++ reason
  | queueExists queue => "Queue already exists: " ++ queue
  | queueNotFound queue => "Queue not found: " ++ queue
  | messageNotFound queue id => s!"Message {id} not found in queue {queue}"
  | notSupported what => "Not supported: " ++ what
  | validation reason => "Validation error: " ++ reason
  | serialization cause => "Serialization error: " ++ cause.message
  | database reason => "Database error: " ++ reason
  | config reason => "Configuration error: " ++ reason

/-- Whether another attempt may succeed. -/
def isTransient : QueueError → Bool
  | connection _ => true
  | _ => false

/-- Only lost or refused connections are transient. -/
theorem isTransient_iff {e : QueueError} :
    e.isTransient = true ↔ ∃ reason, e = connection reason := by
  cases e <;> simp [isTransient]

end QueueError

/-- How an operation fails: it reports an error, or a time or a count leaves its range and the
program stops. -/
inductive Failure where
  | reported (e : QueueError)
  | overflow
deriving DecidableEq

end MessageQueue
