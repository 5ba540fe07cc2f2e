import MessageQueue.Error
import MessageQueue.Message
import MessageQueue.SortedMap

/-!
# Queues in memory

A queue holds its live and its archived messages by their ids, and the id that the next
message gets.  A live message is visible from the instant stored with it; reading a message
moves that instant and counts the delivery, after the count before it was reported.  The count
has 32 bits, and a delivery beyond them ends the read in its middle.

Main results:

- Theorem `deliver_keys`: a read neither adds nor removes ids.
- Theorem `delete_eq`: a message can be deleted exactly when it is live.
-/

namespace MessageQueue
namespace Store

open Time (Instant)

/-- A message in a queue, without its id. -/
structure StoredMessage where
  readCount : Int
  enqueuedAt : Instant
  visibleAt : Instant
  payload : Json
deriving DecidableEq

namespace StoredMessage

/-- The message as readers get it. -/
def toMessage (id : Int) (m : StoredMessage) : Message Json :=
  ⟨id, m.readCount, m.enqueuedAt, m.visibleAt, m.payload⟩

/-- The message hidden until an instant. -/
def hiddenUntil (m : StoredMessage) (t : Instant) : StoredMessage :=
  { m with visibleAt := t }

/-- The message with one more delivery counted, if the count stays within 32 bits. -/
def counted? (m : StoredMessage) : Option StoredMessage :=
  if m.readCount < Text.IntType.signed32.highest then
    some { m with readCount := m.readCount + 1 }
  else none

end StoredMessage

/-- A queue. -/
structure Queue where
  createdAt : Instant
  nextId : Int
  live : SortedMap Int StoredMessage
  archived : SortedMap Int StoredMessage
deriving DecidableEq

/-! ## Delivering -/

/-- Delivers the first visible messages, at most `limit`, and hides them until a given instant.  It
ends without messages at one whose deliveries cannot be counted, which is hidden already. -/
def deliver (now hidden : Instant) :
    Nat → List (Int × StoredMessage) → Option (List (Message Json)) × List (Int × StoredMessage)
  | 0, entries => (some [], entries)
  | _ + 1, [] => (some [], [])
  | limit + 1, (id, m) :: rest =>
    if now < m.visibleAt then
      match deliver now hidden (limit + 1) rest with
      | (ms?, after) => (ms?, (id, m) :: after)
    else
      match (m.hiddenUntil hidden).counted? with
      | none => (none, (id, m.hiddenUntil hidden) :: rest)
      | some counted =>
        match deliver now hidden limit rest with
        | (ms?, after) =>
          (ms?.map ((m.hiddenUntil hidden).toMessage id :: ·), (id, counted) :: after)

/-- A read neither adds nor removes ids. -/
theorem deliver_keys (now hidden : Instant) (limit : Nat)
    (entries : List (Int × StoredMessage)) :
    (deliver now hidden limit entries).2.map Prod.fst = entries.map Prod.fst := by
  fun_induction deliver now hidden limit entries <;> simp_all

theorem deliver_sorted (now hidden : Instant) (limit : Nat)
    {entries : List (Int × StoredMessage)} (h : SortedKeys entries) :
    SortedKeys (deliver now hidden limit entries).2 := by
  have hkeys : ∀ es : List (Int × StoredMessage),
      SortedKeys es ↔ (es.map Prod.fst).Pairwise (· < ·) := by
    intro es
    simp [SortedKeys, List.pairwise_map]
  rw [hkeys] at h ⊢
  rw [deliver_keys]
  exact h

namespace Queue

/-! ## Operations -/

/-- A queue without messages. -/
def new (now : Instant) : Queue := ⟨now, 1, .empty, .empty⟩

/-- Adds a message, visible at once, under the next id. -/
def send (q : Queue) (now : Instant) (payload : Json) : Int × Queue :=
  match q with
  | ⟨created, nextId, live, archived⟩ =>
    (nextId, ⟨created, nextId + 1, live.insert nextId ⟨0, now, now, payload⟩, archived⟩)

/-- Delivers the first visible messages in the order of their ids and hides each until a given
instant, as long as their deliveries can be counted. -/
def deliverUntil (q : Queue) (now hidden : Instant) (limit : Nat) :
    Option (List (Message Json)) × Queue :=
  match q with
  | ⟨createdAt, nextId, ⟨live, sorted⟩, archived⟩ =>
    match deliver now hidden limit live, deliver_sorted now hidden limit sorted with
    | (ms?, after), sorted => (ms?, ⟨createdAt, nextId, ⟨after, sorted⟩, archived⟩)

/-- Delivers the first visible messages and hides each for `vt` seconds; when that instant does
not exist nothing is delivered. -/
def read (q : Queue) (now : Instant) (vt limit : Int) :
    Except Failure (List (Message Json)) × Queue :=
  match now.addSeconds? vt with
  | none => (.error .overflow, q)
  | some hidden =>
    match q.deliverUntil now hidden limit.toNat with
    | (none, q) => (.error .overflow, q)
    | (some ms, q) => (.ok ms, q)

/-- Takes out the first visible message. -/
def pop (q : Queue) (now : Instant) : Option (Message Json) × Queue :=
  match q.live.entries.find? fun e => decide (e.2.visibleAt ≤ now) with
  | none => (none, q)
  | some (id, m) => (some (m.toMessage id), { q with live := q.live.erase id })

/-- Hides a live message for `vt` seconds from now; nothing changes when that instant does not
exist. -/
def setVisibility (q : Queue) (now : Instant) (id vt : Int) :
    Except Failure (Option (Message Json)) × Queue :=
  match q.live.get? id with
  | none => (.ok none, q)
  | some m =>
    match now.addSeconds? vt with
    | none => (.error .overflow, q)
    | some hidden =>
      (.ok (some ((m.hiddenUntil hidden).toMessage id)),
        { q with live := q.live.insert id (m.hiddenUntil hidden) })

/-- Removes a live message for good. -/
def delete (q : Queue) (id : Int) : Bool × Queue :=
  match q.live.get? id with
  | none => (false, q)
  | some _ => (true, { q with live := q.live.erase id })

/-- Moves a live message to the archive. -/
def archive (q : Queue) (id : Int) : Bool × Queue :=
  match q.live.get? id with
  | none => (false, q)
  | some m => (true, { q with
      live := q.live.erase id
      archived := q.archived.insert id m })

/-- A message can be deleted exactly when it is live. -/
theorem delete_eq (q : Queue) (id : Int) : (q.delete id).1 = q.live.contains id := by
  simp only [delete, SortedMap.contains]
  split <;> simp_all

/-! ## Metrics -/

/-- The later of two instants. -/
def later (a b : Instant) : Instant := if a < b then b else a

/-- The earlier of two instants. -/
def earlier (a b : Instant) : Instant := if b < a then b else a

/-- The result of combining all instants of a list, if there are any. -/
def combine (f : Instant → Instant → Instant) : List Instant → Option Instant
  | [] => none
  | t :: rest => some (rest.foldl f t)

/-- The age of an instant in whole seconds, kept in 32 bits. -/
def age (now t : Instant) : Int :=
  Text.IntType.signed32.wrap (now.secondsSince t)

/-- The length of the queue and the ages of its newest and oldest live messages. -/
def metrics (q : Queue) (name : String) (now : Instant) : QueueMetrics :=
  let sent := q.live.values.map StoredMessage.enqueuedAt
  ⟨name, q.live.size, (combine later sent).map (age now), (combine earlier sent).map (age now)⟩

end Queue
end Store
end MessageQueue
