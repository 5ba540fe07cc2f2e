import MessageQueue.Json.Reader
import MessageQueue.Time.Rfc3339

/-!
# Reports on queues

What a store tells about its queues: when each was created, how many messages it holds and
how old the newest and the oldest of them are.
-/

namespace MessageQueue

/-- How errors describe the text of an instant. -/
def instantDescription : String := "an RFC 3339 formatted date and time string"

/-- Reads an instant from its text. -/
def instantReader : Json.Reader Time.Instant :=
  (Json.Reader.stringAs instantDescription).refine fun s =>
    (Time.readInstant s).mapError Time.TimeError.message

/-- An instant is written as its text. -/
def instantJson (t : Time.Instant) : Json := .string (Time.zuluText t)

/-- Null, or an integer. -/
def optionalIntegerJson : Option Int → Json
  | none => .null
  | some n => .int n

/-! ## Listing -/

/-- A queue in a listing. -/
structure QueueMeta where
  queueName : String
  createdAt : Time.Instant
deriving DecidableEq

namespace QueueMeta

/-- A listed queue is written as an object. -/
def toJson (m : QueueMeta) : Json :=
  .object [("queue_name", .string m.queueName), ("created_at", instantJson m.createdAt)]

/-- A listed queue is read from an object or array. -/
def reader : Json.Reader QueueMeta :=
  let fields := Json.Fields.cons "queue_name" Json.Reader.string .required <|
    .cons "created_at" instantReader .required .nil
  (fields.read "QueueMeta").refine fun (name, created, _) => .ok ⟨name, created⟩

end QueueMeta

/-! ## Metrics -/

/-- Counts and ages of the messages of a queue at one instant. -/
structure QueueMetrics where
  queueName : String
  queueLength : Int
  newestAge : Option Int
  oldestAge : Option Int
deriving DecidableEq, Repr

namespace QueueMetrics

/-- Metrics are written as an object. -/
def toJson (m : QueueMetrics) : Json :=
  .object [("queue_name", .string m.queueName), ("queue_length", .int m.queueLength),
    ("newest_msg_age_sec", optionalIntegerJson m.newestAge),
    ("oldest_msg_age_sec", optionalIntegerJson m.oldestAge)]

/-- Metrics are read from an object or array; the ages may be missing from an object. -/
def reader : Json.Reader QueueMetrics :=
  let age := Json.Reader.optional (Json.Reader.integer .signed32)
  let fields := Json.Fields.cons "queue_name" Json.Reader.string .required <|
    .cons "queue_length" (Json.Reader.integer .signed64) .required <|
    .cons "newest_msg_age_sec" age (.nullable none) <|
    .cons "oldest_msg_age_sec" age (.nullable none) .nil
  (fields.read "QueueMetrics").refine fun (name, length, newest, oldest, _) =>
    .ok ⟨name, length, newest, oldest⟩

end QueueMetrics
end MessageQueue
