import MessageQueue.Database.Server
import MessageQueue.Store.Request

/-!
# A store behind a server

Every request is one statement.  Its text depends only on the kind of the request; all that
it is about is bound to the places of the text.  What comes back is read, logged, and
concluded: a queue that existed already was not created.
-/

namespace MessageQueue
namespace Database

/-! ## Statements -/

/-- The kinds of requests. -/
inductive RequestKind where
  | create
  | createPartitioned
  | send
  | read
  | pop
  | setVisibility
  | delete
  | archive
  | drop
  | list
  | metrics
deriving DecidableEq, Repr

/-- The kind of a request. -/
def kindOf : Request → RequestKind
  | .create _ => .create
  | .createPartitioned _ _ _ => .createPartitioned
  | .send _ _ => .send
  | .read _ _ _ => .read
  | .pop _ => .pop
  | .setVisibility _ _ _ => .setVisibility
  | .delete _ _ => .delete
  | .archive _ _ => .archive
  | .drop _ => .drop
  | .list => .list
  | .metrics _ => .metrics

/-- The columns of a message. -/
def messageColumns : String := "SELECT msg_id, read_ct, enqueued_at, vt, message FROM "

/-- The text that looks a queue up and creates it only if it is not there. -/
def creating (call : String) : String :=
  "SELECT CASE WHEN to_regclass('pgmq_' || $1::text) IS NOT NULL THEN true " ++
    "ELSE (SELECT false FROM " ++ call ++ ") END AS existed"

/-- The text of the statement for a kind of request. -/
def RequestKind.sql : RequestKind → String
  | create => creating "pgmq_create($1::text)"
  | createPartitioned => creating "pgmq_create_partitioned($1::text, $2::text, $3::text)"
  | send => "SELECT pgmq_send($1::text, $2::jsonb) AS msg_id"
  | read => messageColumns ++ "pgmq_read($1::text, $2, $3)"
  | pop => messageColumns ++ "pgmq_pop($1::text)"
  | setVisibility => messageColumns ++ "pgmq_set_vt($1::text, $2, $3)"
  | delete => "SELECT pgmq_delete($1::text, $2) AS deleted"
  | archive => "SELECT pgmq_archive($1::text, $2) AS archived"
  | drop => "SELECT pgmq_drop_queue($1::text) AS dropped"
  | list => "SELECT queue_name, created_at FROM pgmq_list_queues()"
  | metrics =>
    "SELECT queue_name, queue_length, newest_msg_age_sec, oldest_msg_age_sec " ++
      "FROM pgmq_metrics($1::text)"

/-- The decimal text of an integer. -/
def decimal (n : Int) : Param := .text (String.ofList (Json.integerText n))

/-- What a request binds to the places of its text. -/
def paramsOf : Request → List Param
  | .create q | .pop q | .drop q | .metrics q => [.text q.text]
  | .createPartitioned q partition retention =>
    [.text q.text, decimal partition, decimal retention]
  | .send q payload => [.text q.text, .jsonb payload]
  | .read q vt limit => [.text q.text, .int4 vt, .int4 limit]
  | .setVisibility q id vt => [.text q.text, .int8 id, .int4 vt]
  | .delete q id | .archive q id => [.text q.text, .int8 id]
  | .list => []

/-- The statement of a request. -/
def statementOf (r : Request) : Statement := ⟨(kindOf r).sql, paramsOf r⟩

/-! ## Answers -/

/-- What is read from the answer to a request: for a new queue whether it existed, otherwise the
reply. -/
abbrev Found : Request → Type
  | .create _ | .createPartitioned _ _ _ => Bool
  | r => r.Reply

/-- Reads a message. -/
def messageRow (row : Row) : Except DriverError (Message Json) := do
  let id ← row.get "msg_id" .int8
  let count ← row.get "read_ct" .int4
  let enqueued ← row.get "enqueued_at" .instant
  let visible ← row.get "vt" .instant
  let payload ← row.get "message" (.json Json.Reader.any)
  return ⟨id, count, enqueued, visible, payload⟩

/-- Reads a listed queue. -/
def listingRow (row : Row) : Except DriverError QueueMeta := do
  let name ← row.get "queue_name" .text
  let created ← row.get "created_at" .instant
  return ⟨name, created⟩

/-- Reads metrics. -/
def metricsRow (row : Row) : Except DriverError QueueMetrics := do
  let name ← row.get "queue_name" .text
  let length ← row.get "queue_length" .int8
  let newest ← row.get "newest_msg_age_sec" (.nullable .int4)
  let oldest ← row.get "oldest_msg_age_sec" (.nullable .int4)
  return ⟨name, length, newest, oldest⟩

/-- Reads a boolean of which null is false. -/
def flag (o : Outcome) : Except DriverError Bool :=
  (o.one fun row => row.first (.nullable .bool)).map (·.getD false)

/-- Reads the answer to a request. -/
def findIn : (r : Request) → Outcome → Except DriverError (Found r)
  | .create _, o | .createPartitioned _ _ _, o => flag o
  | .send _ _, o => o.one fun row => row.first .int8
  | .read _ _ _, o => o.all messageRow
  | .pop _, o | .setVisibility _ _ _, o => o.optional messageRow
  | .delete _ _, o | .archive _ _, o | .drop _, o => flag o
  | .list, o => o.all listingRow
  | .metrics _, o => o.one metricsRow

/-- What is logged with the answer to a request. -/
def eventOf : (r : Request) → Found r → Option Event
  | .create q, existed =>
    some (.debug "pgmq_create" [("queue", .text q.text), ("existed", .flag existed)])
  | .createPartitioned q partition retention, existed =>
    some (.debug "pgmq_create_partitioned" [("queue", .text q.text),
      ("partition_interval", .integer partition), ("retention_interval", .integer retention),
      ("existed", .flag existed)])
  | .send q _, id =>
    some (.debug "pgmq_send" [("queue", .text q.text), ("msg_id", .integer id)])
  | .read q vt limit, rows =>
    some (.debug "pgmq_read" [("queue", .text q.text), ("vt", .integer vt),
      ("limit", .integer limit), ("returned", .integer (List.length rows : Nat))])
  | .setVisibility q id vt, row =>
    some (.debug "pgmq_set_vt" [("queue", .text q.text), ("msg_id", .integer id),
      ("vt", .integer vt), ("found", .flag (Option.isSome row))])
  | .delete q id, deleted =>
    some (.debug "pgmq_delete" [("queue", .text q.text), ("msg_id", .integer id),
      ("deleted", .flag deleted)])
  | .archive q id, archived =>
    some (.debug "pgmq_archive" [("queue", .text q.text), ("msg_id", .integer id),
      ("archived", .flag archived)])
  | .pop _, _ | .drop _, _ | .list, _ | .metrics _, _ => none

/-- A queue that existed was not created. -/
def created (q : QueueName) (existed : Bool) : Except QueueError Unit :=
  if existed then .error (.queueExists q.text) else .ok ()

/-- The reply that the answer to a request amounts to. -/
def replyOf : (r : Request) → Found r → Except QueueError r.Reply
  | .create q, existed | .createPartitioned q _ _, existed => created q existed
  | .send _ _, id => .ok id
  | .read _ _ _, rows => .ok rows
  | .pop _, row | .setVisibility _ _ _, row => .ok row
  | .delete _ _, done | .archive _ _, done | .drop _, done => .ok done
  | .list, rows => .ok rows
  | .metrics _, row => .ok row

/-! ## The store -/

/-- The store behind a server. -/
def store {σ : Type} (server : Server σ) : Store σ := fun r =>
  Session.mapError .reported do
    let found ← fetch server r.queue? (statementOf r) (findIn r)
    match eventOf r found with
    | some e => Session.emit e
    | none => pure ()
    Session.ofExcept (replyOf r found)

end Database
end MessageQueue
