import MessageQueue.Queue.Options
import MessageQueue.Store.Request

/-!
# The queue client

The client checks what it is given, makes one request to the store, and decodes what comes
back.  It never repeats a request.  What it refuses never reaches the store.

Main results:

- Theorem `checkVisibility_eq_ok_iff`: exactly the visibility timeouts that are not
  negative pass.
-/

namespace MessageQueue

/-- A client of a store, with the visibility timeout of reads that give none. -/
structure Client (σ : Type) where
  store : Store σ
  defaultVisibility : Int

/-- Seconds that a read hides a message, unless told otherwise. -/
def defaultVisibility : Int := 30

/-- Messages that a read takes, unless told otherwise. -/
def defaultReadLimit : Int := 1

namespace Client

variable {σ α : Type}

/-! ## Checks -/

/-- The name that a text is. -/
def checkName (queue : String) : Except QueueError QueueName :=
  (QueueName.ofString queue).mapError fun e => .validation e.message

/-- Refuses a negative visibility timeout. -/
def checkVisibility (vt : Int) : Except QueueError Unit :=
  if vt < 0 then .error (.validation s!"Visibility timeout must be non-negative: {vt}")
  else .ok ()

/-- Refuses a read limit below one. -/
def checkLimit (limit : Int) : Except QueueError Unit :=
  if limit < 1 then .error (.validation s!"Read limit must be at least 1: {limit}")
  else .ok ()

/-- Refuses options whose intervals are not positive. -/
def checkOptions (options : QueueOptions) : Except QueueError Unit :=
  options.check.mapError fun e => .validation e.message

/-- The JSON value of a payload. -/
def checkPayload (payload : Json.Datum) : Except QueueError Json :=
  payload.toJson.mapError fun e => .serialization (.unwritable e)

/-- Refuses every delay. -/
def checkDelay (seconds : Nat) : Except QueueError Unit :=
  if 0 < seconds then
    .error (.notSupported s!"send with delay ({seconds}s) is not implemented by pgmq")
  else .ok ()

theorem checkVisibility_eq_ok_iff {vt : Int} : checkVisibility vt = .ok () ↔ 0 ≤ vt := by
  unfold checkVisibility
  split
  · simp; omega
  · simp; omega

/-- A check as a step of a session. -/
def require (r : Except QueueError α) : Session σ Failure α :=
  .ofExcept (r.mapError .reported)

/-- An error as the end of a session. -/
def fail (e : QueueError) : Session σ Failure α :=
  .ofExcept (.error (.reported e))

/-! ## Decoding -/

/-- Decodes the payloads of a batch; the first that does not decode fails the batch. -/
def decodeAll (d : Message.Decoder α) : List (Message Json) →
    Except Json.ReadError (List (Message α))
  | [] => .ok []
  | m :: rest => do
    let a ← m.decode d
    let as ← decodeAll d rest
    return a :: as

/-- A decoded value as a step of a session. -/
def requireDecoded (r : Except Json.ReadError α) : Session σ Failure α :=
  require (r.mapError fun e => .serialization (.unreadable e))

/-! ## Operations -/

/-- Creates a queue with options; the intervals are checked only when they are used. -/
def createWith (c : Client σ) (queue : String) (options : QueueOptions) :
    Session σ Failure Unit := do
  let name ← require (checkName queue)
  if options.partitioned then
    require (checkOptions options)
    c.store (.createPartitioned name options.partitionInterval options.retentionInterval)
  else
    c.store (.create name)
  Session.emit (.info "Queue created"
    [("queue", .text name.text), ("partitioned", .flag options.partitioned)])

/-- Creates a plain queue. -/
def create (c : Client σ) (queue : String) : Session σ Failure Unit :=
  c.createWith queue .plain

/-- Creates a queue in partitions of so many messages. -/
def createPartitioned (c : Client σ) (queue : String) (interval : Int) :
    Session σ Failure Unit :=
  c.createWith queue (.ofPartitions interval)

/-- Sends a payload and gives the id of its message. -/
def send (c : Client σ) (queue : String) (payload : Json.Datum) : Session σ Failure Int := do
  let name ← require (checkName queue)
  let value ← require (checkPayload payload)
  let id ← c.store (.send name value)
  Session.emit (.debug "Message sent" [("queue", .text name.text), ("msg_id", .integer id)])
  return id

/-- Sends a payload after a delay, of which only none at all is possible. -/
def sendDelayed (c : Client σ) (queue : String) (payload : Json.Datum) (seconds : Nat) :
    Session σ Failure Int := do
  require (checkDelay seconds)
  c.send queue payload

/-- Reads up to `limit` visible messages and hides each for a time. -/
def readBatch (c : Client σ) (d : Message.Decoder α) (queue : String) (vt : Option Int)
    (limit : Int) : Session σ Failure (List (Message α)) := do
  let name ← require (checkName queue)
  let vt := vt.getD c.defaultVisibility
  require (checkVisibility vt)
  require (checkLimit limit)
  let rows ← c.store (.read name vt limit)
  Session.emit (.debug "Read batch" [("queue", .text name.text), ("vt", .integer vt),
    ("limit", .integer limit), ("returned", .integer rows.length)])
  requireDecoded (decodeAll d rows)

/-- Reads one visible message, if there is one. -/
def read (c : Client σ) (d : Message.Decoder α) (queue : String) (vt : Option Int) :
    Session σ Failure (Option (Message α)) := do
  let batch ← c.readBatch d queue vt defaultReadLimit
  return batch.getLast?

/-- Reads one visible message and deletes it. -/
def pop (c : Client σ) (d : Message.Decoder α) (queue : String) :
    Session σ Failure (Option (Message α)) := do
  let name ← require (checkName queue)
  match ← c.store (.pop name) with
  | none => return none
  | some row => some <$> requireDecoded (row.decode d)

/-- Hides a message for a time from now. -/
def setVisibility (c : Client σ) (d : Message.Decoder α) (queue : String) (id vt : Int) :
    Session σ Failure (Message α) := do
  let name ← require (checkName queue)
  require (checkVisibility vt)
  match ← c.store (.setVisibility name id vt) with
  | none => fail (.messageNotFound name.text id)
  | some row => requireDecoded (row.decode d)

/-- Moves a message to the archive. -/
def archive (c : Client σ) (queue : String) (id : Int) : Session σ Failure Unit := do
  let name ← require (checkName queue)
  if ← c.store (.archive name id) then
    Session.emit (.debug "Message archived"
      [("queue", .text name.text), ("msg_id", .integer id)])
  else fail (.messageNotFound name.text id)

/-- Removes a message for good. -/
def delete (c : Client σ) (queue : String) (id : Int) : Session σ Failure Unit := do
  let name ← require (checkName queue)
  if ← c.store (.delete name id) then
    Session.emit (.debug "Message deleted"
      [("queue", .text name.text), ("msg_id", .integer id)])
  else fail (.messageNotFound name.text id)

/-- Drops a queue with all its messages. -/
def drop (c : Client σ) (queue : String) : Session σ Failure Unit := do
  let name ← require (checkName queue)
  if ← c.store (.drop name) then
    Session.emit (.info "Queue dropped" [("queue", .text name.text)])
  else fail (.queueNotFound name.text)

/-- Lists all queues. -/
def list (c : Client σ) : Session σ Failure (List QueueMeta) :=
  c.store .list

/-- Tells the length of a queue and the ages of its messages. -/
def metrics (c : Client σ) (queue : String) : Session σ Failure QueueMetrics := do
  let name ← require (checkName queue)
  c.store (.metrics name)

end Client
end MessageQueue
