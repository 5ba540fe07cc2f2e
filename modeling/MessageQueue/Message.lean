import MessageQueue.Queue.Report

/-!
# Messages

A message as a reader gets it: its payload in an envelope of an id, the count of earlier
deliveries, the instant it was sent, and the instant at which it becomes visible to
others again.

Main results:

- Theorem `isInvisibleAt_iff`: a message is hidden before the instant in its envelope.
- Theorem `decode_any`: every JSON payload decodes as itself.
-/

namespace MessageQueue

/-- A payload of some type in its envelope. -/
structure Message (α : Type) where
  id : Int
  readCount : Int
  enqueuedAt : Time.Instant
  visibleAt : Time.Instant
  payload : α
deriving DecidableEq

namespace Message

variable {α β : Type}

/-- The same envelope around another payload. -/
def map (f : α → β) (m : Message α) : Message β :=
  { m with payload := f m.payload }

/-- Whether other readers do not see the message at an instant. -/
def isInvisibleAt (m : Message α) (now : Time.Instant) : Bool :=
  now < m.visibleAt

theorem isInvisibleAt_iff {m : Message α} {now : Time.Instant} :
    m.isInvisibleAt now = true ↔ now < m.visibleAt := by
  simp [isInvisibleAt]

/-! ## JSON -/

/-- A message is written as an object, its payload in a given way. -/
def toJson (write : α → Json) (m : Message α) : Json :=
  .object [("msg_id", .int m.id), ("read_ct", .int m.readCount),
    ("enqueued_at", instantJson m.enqueuedAt), ("vt", instantJson m.visibleAt),
    ("message", write m.payload)]

/-- A message is read from an object or array, its payload in a given way. -/
def reader (payload : Json.Reader α) : Json.Reader (Message α) :=
  let fields := Json.Fields.cons "msg_id" (Json.Reader.integer .signed64) .required <|
    .cons "read_ct" (Json.Reader.integer .signed32) .required <|
    .cons "enqueued_at" instantReader .required <|
    .cons "vt" instantReader .required <|
    .cons "message" payload .required .nil
  (fields.read "Message").refine fun (id, count, enqueued, visible, payload, _) =>
    .ok ⟨id, count, enqueued, visible, payload⟩

/-! ## Decoding payloads -/

/-- A way to take a JSON payload to a type. -/
abbrev Decoder (α : Type) := Json → Except Json.ReadError α

/-- Payloads stay what they are. -/
def anyPayload : Decoder Json := .ok

/-- Decodes payloads with a reader. -/
def payloadOf (r : Json.Reader α) : Decoder α :=
  Json.readValue r

/-- The message with its payload decoded. -/
def decode (d : Decoder α) (m : Message Json) : Except Json.ReadError (Message α) :=
  (d m.payload).map fun a => { m with payload := a }

/-- Every JSON payload decodes as itself. -/
@[simp]
theorem decode_any (m : Message Json) : m.decode anyPayload = .ok m := rfl

end Message
end MessageQueue
