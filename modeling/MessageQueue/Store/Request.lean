import MessageQueue.Error
import MessageQueue.Message
import MessageQueue.Queue.Name
import MessageQueue.Session

/-!
# Requests to a store

The eleven things that a store of queues can be asked, and the type of the answer to each.
Payloads are JSON values at this point; a store answers every request at once and never
asks twice.
-/

namespace MessageQueue

/-- A request to a store of queues. -/
inductive Request where
  | create (queue : QueueName)
  | createPartitioned (queue : QueueName) (partitionInterval retentionInterval : Int)
  | send (queue : QueueName) (payload : Json)
  | read (queue : QueueName) (vt limit : Int)
  | pop (queue : QueueName)
  | setVisibility (queue : QueueName) (id vt : Int)
  | delete (queue : QueueName) (id : Int)
  | archive (queue : QueueName) (id : Int)
  | drop (queue : QueueName)
  | list
  | metrics (queue : QueueName)
deriving DecidableEq

namespace Request

/-- The type of the answer to a request. -/
abbrev Reply : Request → Type
  | create _ | createPartitioned _ _ _ => Unit
  | send _ _ => Int
  | read _ _ _ => List (Message Json)
  | pop _ | setVisibility _ _ _ => Option (Message Json)
  | delete _ _ | archive _ _ | drop _ => Bool
  | list => List QueueMeta
  | metrics _ => QueueMetrics

/-- The queue that a request is about. -/
def queue? : Request → Option QueueName
  | create q | createPartitioned q _ _ | send q _ | read q _ _ | pop q | setVisibility q _ _
  | delete q _ | archive q _ | drop q | metrics q => some q
  | list => none

/-- The name of the queue that a request creates. -/
def creates? : Request → Option QueueName
  | .create name | .createPartitioned name _ _ => some name
  | _ => none

end Request

/-- A store answers every request in a session. -/
abbrev Store (σ : Type) : Type :=
  (r : Request) → Session σ Failure r.Reply

end MessageQueue
