import MessageQueue.Database.Store
import MessageQueue.Proofs.Json.RoundTrip
import MessageQueue.Proofs.Session
import MessageQueue.Proofs.Store.Payloads

/-!
# Replies as rows

A server shows the reply to a request as an answer to the statement of the request: messages,
listed queues and metrics are rows, ids and flags are single cells, and that a queue is taken or
missing is told by a flag or by a code.  The store behind the server concludes the reply from
the answer again, with one condition: a payload goes through its text, and has to come back from
it.

Main results:

- Theorem `run_store`: the store concludes its reply from the answer to one statement.
- Theorem `concluded_shown_iff`: a reply is concluded from the rows that show it exactly when
  all payloads in it come back from their texts.
- Theorem `concluded_of_shows`: so is every reply whose payloads come back.
-/

namespace MessageQueue
namespace Database

/-! ## Rows that show replies -/

/-- The columns of messages. -/
def messageTypes : List (String × SqlType) :=
  [("msg_id", .int8), ("read_ct", .int4), ("enqueued_at", .timestamptz), ("vt", .timestamptz),
    ("message", .jsonb)]

/-- The cells of a message. -/
def messageCells (m : Message Json) : List Cell :=
  [.int m.id, .int m.readCount, .instant m.enqueuedAt, .instant m.visibleAt, .json m.payload]

/-- The columns of listed queues. -/
def listingTypes : List (String × SqlType) := [("queue_name", .text), ("created_at", .timestamptz)]

/-- The cells of a listed queue. -/
def listingCells (q : QueueMeta) : List Cell := [.text q.queueName, .instant q.createdAt]

/-- The columns of metrics. -/
def metricsTypes : List (String × SqlType) :=
  [("queue_name", .text), ("queue_length", .int8), ("newest_msg_age_sec", .int4),
    ("oldest_msg_age_sec", .int4)]

/-- The cell of an age, null if there is none. -/
def ageCell (age : Option Int) : Cell := age.elim .null .int

/-- The cells of metrics. -/
def metricsCells (m : QueueMetrics) : List Cell :=
  [.text m.queueName, .int m.queueLength, ageCell m.newestAge, ageCell m.oldestAge]

/-- One row of one cell. -/
def single (label : String) (t : SqlType) (c : Cell) : Outcome := .rows ⟨[(label, t)], [[c]]⟩

/-- The answer that shows the reply to a request. -/
def shown : (r : Request) → r.Reply → Outcome
  | .create _, _ | .createPartitioned _ _ _, _ => single "existed" .bool (.bool false)
  | .send _ _, id => single "msg_id" .int8 (.int id)
  | .read _ _ _, ms => .rows ⟨messageTypes, ms.map messageCells⟩
  | .pop _, m? | .setVisibility _ _ _, m? =>
    .rows ⟨messageTypes, (Option.toList m?).map messageCells⟩
  | .delete _ _, done => single "deleted" .bool (.bool done)
  | .archive _ _, done => single "archived" .bool (.bool done)
  | .drop _, done => single "dropped" .bool (.bool done)
  | .list, queues => .rows ⟨listingTypes, queues.map listingCells⟩
  | .metrics _, m => .rows ⟨metricsTypes, [metricsCells m]⟩

/-- An answer of a server shows what a request came to: the reply, that the queue is taken, or that
there is no such queue.  The server words its errors as it likes. -/
inductive Shows : (r : Request) → Except QueueError r.Reply → Except DriverError Outcome →
    Prop where
  | reply (r : Request) (a : r.Reply) : Shows r (.ok a) (.ok (shown r a))
  | existed {r : Request} {name : QueueName} (h : r.creates? = some name) :
      Shows r (.error (.queueExists name.text)) (.ok (single "existed" .bool (.bool true)))
  | taken {r : Request} {name : QueueName} (h : r.creates? = some name) {code : String}
      (hcode : code = "42P07" ∨ code = "23505") (text : String) :
      Shows r (.error (.queueExists name.text)) (.error (.server (some code) text))
  | missing {r : Request} {name : QueueName} (h : r.queue? = some name) (text : String) :
      Shows r (.error (.queueNotFound name.text)) (.error (.server (some "42P01") text))

/-! ## Reading rows -/

section Reading

variable {α : Type} {columns : List (String × SqlType)} {cells : α → List Cell}
  {read : Row → Except DriverError α}

/-- A list is read from its rows exactly when each of its items is. -/
theorem all_rows_eq_ok_iff (as : List α) :
    (Outcome.rows ⟨columns, as.map cells⟩).all read = .ok as ↔
      ∀ a ∈ as, read ⟨columns, cells a⟩ = .ok a := by
  unfold Outcome.all
  simp only [Outcome.data, Outcome.columns]
  induction as with
  | nil => simp [pure, Except.pure]
  | cons a rest ih =>
      rw [List.map_cons, List.mapM_cons, List.forall_mem_cons, ← ih]
      cases read ⟨columns, cells a⟩ with
      | error e => simp [bind, Except.bind]
      | ok b =>
          cases (rest.map cells).mapM fun cells => read ⟨columns, cells⟩ <;>
            simp [bind, Except.bind, pure, Except.pure]

/-- So is an item that may be missing. -/
theorem optional_rows_eq_ok_iff (a? : Option α) :
    (Outcome.rows ⟨columns, a?.toList.map cells⟩).optional read = .ok a? ↔
      ∀ a ∈ a?.toList, read ⟨columns, cells a⟩ = .ok a := by
  cases a? with
  | none => simp [Outcome.optional, Outcome.data]
  | some a =>
      simp only [Outcome.optional, Outcome.data, Outcome.columns, Option.toList_some,
        List.map_cons, List.forall_mem_singleton]
      cases read ⟨columns, cells a⟩ <;> simp [Except.map]

end Reading

/-- A message is read from its cells exactly when its payload comes back from its text. -/
theorem messageRow_eq_ok_iff (m : Message Json) :
    messageRow ⟨messageTypes, messageCells m⟩ = .ok m ↔
      Json.readText Json.Reader.any (Json.text m.payload) = .ok m.payload := by
  have hpayload : (Row.mk messageTypes (messageCells m)).get "message" (.json Json.Reader.any) =
      ((Json.readText Json.Reader.any (Json.text m.payload)).mapError
        Json.ReadError.message).mapError (.columnDecode (Text.quote "message")) := by
    simp [Row.get, messageTypes, messageCells, ColumnReader.read, ColumnReader.json]
  have hrow : messageRow ⟨messageTypes, messageCells m⟩ =
      ((Row.mk messageTypes (messageCells m)).get "message" (.json Json.Reader.any)).map
        fun payload => ⟨m.id, m.readCount, m.enqueuedAt, m.visibleAt, payload⟩ := rfl
  rw [hrow, hpayload]
  rcases m with ⟨id, count, enqueued, visible, payload⟩
  cases Json.readText Json.Reader.any (Json.text payload) <;> simp [Except.map]

/-- A listed queue is read from its cells. -/
theorem listingRow_listingCells (q : QueueMeta) :
    listingRow ⟨listingTypes, listingCells q⟩ = .ok q := rfl

/-- Metrics are read from their cells. -/
theorem metricsRow_metricsCells (m : QueueMetrics) :
    metricsRow ⟨metricsTypes, metricsCells m⟩ = .ok m := by
  rcases m with ⟨name, length, _ | newest, _ | oldest⟩ <;> rfl

/-! ## Concluding replies -/

/-- What the store concludes from the answer to the statement of a request. -/
def concluded (r : Request) (answer : Except DriverError Outcome) : Except QueueError r.Reply :=
  ((answer.bind (findIn r)).mapError (DriverError.toQueueError r.queue?)).bind (replyOf r)

/-- The store concludes its reply from the answer to one statement, and leaves the server as it is
after that. -/
theorem run_store {σ : Type} (server : Server σ) (r : Request) (w : World σ) :
    (store server r w).1 =
        (concluded r (server (.run (statementOf r)) w.store).1).mapError .reported ∧
      (store server r w).2.store = (server (.run (statementOf r)) w.store).2 := by
  let w' : World σ := { w with store := (server (.run (statementOf r)) w.store).2 }
  have hfetch : fetch server r.queue? (statementOf r) (findIn r) w =
      (((server (.run (statementOf r)) w.store).1.bind (findIn r)).mapError
        (DriverError.toQueueError r.queue?), w') := rfl
  rw [store, Session.run_mapError, concluded]
  cases hfound : ((server (.run (statementOf r)) w.store).1.bind (findIn r)).mapError
    (DriverError.toQueueError r.queue?) with
  | error e =>
      rw [hfound] at hfetch
      rw [Session.run_bind_of_error _ hfetch]
      exact ⟨rfl, rfl⟩
  | ok found =>
      rw [hfound] at hfetch
      rw [Session.run_bind_of_ok _ hfetch]
      cases eventOf r found <;> exact ⟨rfl, rfl⟩

/-- A reply that is what was read is concluded exactly when it was read. -/
theorem mapError_bind_ok_eq_ok_iff {ε ε' α : Type} {f : ε → ε'} {x : Except ε α} {a : α} :
    (x.mapError f).bind .ok = .ok a ↔ x = .ok a := by
  cases x <;> simp [Except.bind]

/-- A reply is concluded from the rows that show it exactly when all payloads in it come back from
their texts. -/
theorem concluded_shown_iff (r : Request) (a : r.Reply) :
    concluded r (.ok (shown r a)) = .ok a ↔
      ∀ msg ∈ r.handedOut a,
        Json.readText Json.Reader.any (Json.text msg.payload) = .ok msg.payload := by
  cases r with
  | read name vt limit =>
      have hrows := @all_rows_eq_ok_iff _ messageTypes messageCells messageRow a
      simp only [messageRow_eq_ok_iff] at hrows
      exact mapError_bind_ok_eq_ok_iff.trans hrows
  | pop name | setVisibility name id vt =>
      have hrow := @optional_rows_eq_ok_iff _ messageTypes messageCells messageRow a
      simp only [messageRow_eq_ok_iff] at hrow
      exact mapError_bind_ok_eq_ok_iff.trans hrow
  | list =>
      have hrows : (shown .list a).all listingRow = .ok a :=
        (all_rows_eq_ok_iff a).2 fun q _ => listingRow_listingCells q
      exact iff_of_true (mapError_bind_ok_eq_ok_iff.2 hrows) (by simp [Request.handedOut])
  | metrics name =>
      have hrow : (shown (.metrics name) a).one metricsRow = .ok a := metricsRow_metricsCells a
      exact iff_of_true (mapError_bind_ok_eq_ok_iff.2 hrow) (by simp [Request.handedOut])
  | create | createPartitioned | send | delete | archive | drop =>
      exact iff_of_true rfl (by simp [Request.handedOut])

/-- What an answer shows is concluded from it, if all payloads come back from their texts. -/
theorem concluded_of_shows {r : Request} {reply : Except QueueError r.Reply}
    {answer : Except DriverError Outcome} (h : Shows r reply answer)
    (hpayloads : ∀ a, reply = .ok a → ∀ msg ∈ r.handedOut a,
      Json.readText Json.Reader.any (Json.text msg.payload) = .ok msg.payload) :
    concluded r answer = reply := by
  cases h with
  | reply a => exact (concluded_shown_iff r a).2 (hpayloads a rfl)
  | existed hcreates =>
      cases r <;> cases hcreates <;> rfl
  | taken hcreates hcode text =>
      cases r <;> cases hcreates <;> rcases hcode with rfl | rfl <;> rfl
  | missing hqueue text =>
      rw [concluded, hqueue]
      rfl

end Database
end MessageQueue
