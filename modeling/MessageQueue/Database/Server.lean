import MessageQueue.Database.Row
import MessageQueue.Database.Statement
import MessageQueue.Session

/-!
# Servers

A server answers actions one after the other.  A scripted server has its answers written
down in advance and keeps a record of the statements; it may also be out of reach, or closed
to further statements, and then records nothing.
-/

namespace MessageQueue
namespace Database

/-- A server with some state. -/
abbrev Server (σ : Type) : Type := Action → σ → Except DriverError Outcome × σ

/-- An answer in a script. -/
inductive Answer where
  | outcome (o : Outcome)
  | refused (code text : String)
  | dropped
deriving DecidableEq

/-- A reply of a script; one that is meant for the start or the end of a transaction waits for
it. -/
structure Reply where
  onlyFor : Option Action
  answer : Answer
deriving DecidableEq

/-- The way to a server. -/
inductive Link where
  | reachable
  | unreachable
  | closed
deriving DecidableEq, Repr

/-- A server with its answers written down in advance, and a record of what it was asked. -/
structure Script where
  replies : List Reply
  link : Link
  record : Array Action
deriving DecidableEq

namespace Script

/-- A script of which nothing was used. -/
def ofReplies (replies : List Reply) (link : Link) : Script := ⟨replies, link, #[]⟩

/-- What an answer in a script amounts to. -/
def conclude : Answer → Except DriverError Outcome
  | .outcome o => .ok o
  | .refused code text => .error (.server (some code) text)
  | .dropped => .error (.io "connection lost")

/-- What is answered when the script is used up. -/
def exhausted : Except DriverError Outcome :=
  .error (.server (some "XX000") "script exhausted")

/-- The answer to an action and the replies left.  The start and the end of a transaction succeed
unless the next reply is meant for them. -/
def answer (a : Action) : List Reply → Except DriverError Outcome × List Reply
  | [] => (match a with | .run _ => exhausted | _ => .ok (.affected 0), [])
  | reply :: rest =>
    match a with
    | .run _ => (conclude reply.answer, rest)
    | _ =>
      if reply.onlyFor = some a then (conclude reply.answer, rest)
      else (.ok (.affected 0), reply :: rest)

/-- What is told of a server that cannot be reached. -/
def unreachable : DriverError := .io "host unreachable"

/-- Performs an action. -/
def perform (a : Action) (s : Script) : Except DriverError Outcome × Script :=
  match s.link with
  | .closed => (.error .poolClosed, s)
  | .unreachable => (.error unreachable, s)
  | .reachable =>
    match answer a s.replies with
    | (r, replies) => (r, { s with replies, record := s.record.push a })

/-- Whether there is a way to the server. -/
def reach (s : Script) : Except DriverError Unit :=
  match s.link with
  | .closed => .error .poolClosed
  | .unreachable => .error unreachable
  | .reachable => .ok ()

/-- Closes the way to the server. -/
def close (s : Script) : Script := { s with link := .closed }

/-- The scripted server as a server. -/
def server : Server Script := perform

end Script

/-! ## Calls -/

section Calls

variable {σ α : Type}

/-- An action on behalf of a queue, or of none, and what its answer is read as. -/
def perform (server : Server σ) (queue : Option QueueName) (a : Action)
    (read : Outcome → Except DriverError α) : Session σ QueueError α :=
  Session.onStore fun s =>
    match server a s with
    | (r, s') => ((r.bind read).mapError (DriverError.toQueueError queue), s')

/-- A statement whose answer is read. -/
def fetch (server : Server σ) (queue : Option QueueName) (statement : Statement)
    (read : Outcome → Except DriverError α) : Session σ QueueError α :=
  perform server queue (.run statement) read

/-- A statement that gives the count of its rows. -/
def execute (server : Server σ) (queue : Option QueueName) (statement : Statement) :
    Session σ QueueError Nat :=
  fetch server queue statement fun o => .ok o.count

end Calls
end Database
end MessageQueue
