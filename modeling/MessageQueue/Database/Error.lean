import MessageQueue.Error
import MessageQueue.Queue.Name

/-!
# Errors of the server and the way to it

What can come between a statement and its answer, and the error of a queue operation that
each becomes.  The server tells errors by codes of five characters; three of them speak of
the table of a queue that exists already or does not.

Main results:

- Theorem `toQueueError_isTransient`: exactly the faults of the way to the server are
  transient.
-/

namespace MessageQueue
namespace Database

/-- Why a statement has no answer. -/
inductive DriverError where
  | server (code : Option String) (text : String)
  | io (reason : String)
  | tls (reason : String)
  | poolTimedOut
  | poolClosed
  | workerCrashed
  | configuration (reason : String)
  | columnDecode (column reason : String)
  | decode (reason : String)
  | encode (reason : String)
  | rowNotFound
  | columnNotFound (name : String)
  | typeNotFound (name : String)
  | columnOutOfBounds (index length : Nat)
  | protocol (reason : String)
  | invalidArgument (reason : String)
  | anyDriver (reason : String)
  | beginFailed
deriving DecidableEq, Repr

namespace DriverError

/-- The wording of an error. -/
def message : DriverError → String
  | server _ text => "error returned from database: " ++ text
  | io reason => "error communicating with database: " ++ reason
  | tls reason => "error occurred while attempting to establish a TLS connection: " ++ reason
  | poolTimedOut => "pool timed out while waiting for an open connection"
  | poolClosed => "attempted to acquire a connection on a closed pool"
  | workerCrashed => "attempted to communicate with a crashed background worker"
  | configuration reason => "error with configuration: " ++ reason
  | columnDecode column reason =>
    "error occurred while decoding column " ++ column ++ ": " ++ reason
  | decode reason => "error occurred while decoding: " ++ reason
  | encode reason => "error occurred while encoding a value: " ++ reason
  | rowNotFound => "no rows returned by a query that expected to return at least one row"
  | columnNotFound name => "no column found for name: " ++ name
  | typeNotFound name => "type named " ++ name ++ " not found"
  | columnOutOfBounds index length =>
    s!"column index out of bounds: the len is {length}, but the index is {index}"
  | protocol reason => "encountered unexpected or invalid data: " ++ reason
  | invalidArgument reason => reason
  | anyDriver reason => "error in Any driver mapping: " ++ reason
  | beginFailed => "got unexpected connection status after attempting to begin transaction"

/-- Whether the fault lies on the way to the server. -/
def isTransport : DriverError → Bool
  | io _ | tls _ | poolTimedOut | poolClosed | workerCrashed => true
  | _ => false

/-- What stands for the queue of a statement that has none. -/
def unknownQueue : String := "<unknown>"

/-- The error for what the server tells about the statement of a queue, or of none. -/
def ofServer (queue : Option QueueName) (code : Option String) (text : String) : QueueError :=
  let name := (queue.map QueueName.text).getD unknownQueue
  match code with
  | some "42P07" | some "23505" => .queueExists name
  | some "42P01" => .queueNotFound name
  | some code => .database ("[" ++ code ++ "] " ++ text)
  | none => .database text

/-- The error of the operation on a queue, or on none, whose statement has no answer. -/
def toQueueError (queue : Option QueueName) : DriverError → QueueError
  | server code text => ofServer queue code text
  | e@(io _) | e@(tls _) | e@poolTimedOut | e@poolClosed | e@workerCrashed =>
    .connection e.message
  | e@(configuration _) => .config e.message
  | e@(columnDecode _ _) | e@(decode _) => .database ("Row decode failed: " ++ e.message)
  | e => .database e.message

theorem ofServer_isTransient (queue : Option QueueName) (code : Option String) (text : String) :
    (ofServer queue code text).isTransient = false := by
  unfold ofServer
  split <;> rfl

/-- Exactly the faults of the way to the server are transient. -/
theorem toQueueError_isTransient (queue : Option QueueName) (e : DriverError) :
    (e.toQueueError queue).isTransient = e.isTransport := by
  cases e <;> first | exact ofServer_isTransient _ _ _ | rfl

end DriverError
end Database
end MessageQueue
