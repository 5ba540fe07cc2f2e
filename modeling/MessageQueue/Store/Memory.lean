import MessageQueue.Store.Queue
import MessageQueue.Store.Request

/-!
# A store in memory

All queues by their names, a clock that moves only when told to, a switch that cuts the
store off, and a count of the calls.  While it is cut off every call fails in the same way
and changes nothing but the count.

Main results:

- Theorem `calls_perform`: every request counts once, whatever comes of it.
- Theorem `perform_offline`: the answer of a store that is cut off.
-/

namespace MessageQueue
namespace Store

open Time (Instant)

/-- A store in memory. -/
structure Memory where
  queues : SortedMap String Queue
  now : Instant
  offline : Bool
  calls : Nat
deriving DecidableEq

namespace Memory

/-! ## Controls -/

/-- A store without queues at an instant. -/
def new (now : Instant) : Memory := ⟨.empty, now, false, 0⟩

/-- Moves the clock by a signed count of nanoseconds; `none` when it would leave its range. -/
def advance (m : Memory) (nanoseconds : Int) : Option Memory :=
  (m.now.addNanoseconds? nanoseconds).map fun now => { m with now }

/-- Cuts the store off, or ends that. -/
def setOffline (m : Memory) (offline : Bool) : Memory := { m with offline }

/-- The ids of the archived messages of a queue in ascending order. -/
def archivedIds (m : Memory) (queue : String) : List Int :=
  match m.queues.get? queue with
  | none => []
  | some q => q.archived.keys

/-! ## Requests -/

/-- What every call fails with while the store is cut off. -/
def offlineError : QueueError := .connection "connection refused (mock offline)"

/-- The answer to a request and the queues after it. -/
abbrev Outcome (α : Type) := Except Failure α × SortedMap String Queue

/-- Creates an empty queue, unless the name is taken. -/
def createQueue (queues : SortedMap String Queue) (now : Instant) (name : QueueName) :
    Outcome Unit :=
  if queues.contains name.text then (.error (.reported (.queueExists name.text)), queues)
  else (.ok (), queues.insert name.text (.new now))

/-- A step of one queue, which must be there. -/
def onQueue {α : Type} (queues : SortedMap String Queue) (name : QueueName)
    (step : Queue → Except Failure α × Queue) : Outcome α :=
  match queues.adjust name.text step with
  | (none, queues) => (.error (.reported (.queueNotFound name.text)), queues)
  | (some r, queues) => (r, queues)

/-- A step that always answers. -/
def succeed {α : Type} : α × Queue → Except Failure α × Queue
  | (a, q) => (.ok a, q)

/-- What a request does to the queues while the store is reachable. -/
def answer (queues : SortedMap String Queue) (now : Instant) : (r : Request) → Outcome r.Reply
  | .create name => createQueue queues now name
  | .createPartitioned name _ _ => createQueue queues now name
  | .send name payload => onQueue queues name fun q => succeed (q.send now payload)
  | .read name vt limit => onQueue queues name fun q => q.read now vt limit
  | .pop name => onQueue queues name fun q => succeed (q.pop now)
  | .setVisibility name id vt => onQueue queues name fun q => q.setVisibility now id vt
  | .delete name id => onQueue queues name fun q => succeed (q.delete id)
  | .archive name id => onQueue queues name fun q => succeed (q.archive id)
  | .drop name => (.ok (queues.contains name.text), queues.erase name.text)
  | .list => (.ok (queues.entries.map fun e => ⟨e.1, e.2.createdAt⟩), queues)
  | .metrics name => onQueue queues name fun q => (.ok (q.metrics name.text now), q)

/-- Answers a request and counts the call. -/
def perform (r : Request) : Memory → Except Failure r.Reply × Memory
  | ⟨queues, now, offline, calls⟩ =>
    if offline then (.error (.reported offlineError), ⟨queues, now, offline, calls + 1⟩)
    else
      match answer queues now r with
      | (reply, queues) => (reply, ⟨queues, now, offline, calls + 1⟩)

/-- The store in memory as a store. -/
def store : Store Memory := fun r => Session.onStore (perform r)

/-- Every request counts once, whatever comes of it. -/
theorem calls_perform (r : Request) (m : Memory) :
    (perform r m).2.calls = m.calls + 1 := by
  obtain ⟨queues, now, offline, calls⟩ := m
  unfold perform
  split
  split <;> simp_all

/-- A store that is cut off only counts. -/
theorem perform_offline (r : Request) {m : Memory} (h : m.offline = true) :
    perform r m = (.error (.reported offlineError), { m with calls := m.calls + 1 }) := by
  obtain ⟨queues, now, offline, calls⟩ := m
  simp_all [perform]

end Memory
end Store
end MessageQueue
