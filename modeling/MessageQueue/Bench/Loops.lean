import MessageQueue.Bench.Summary
import MessageQueue.Client

/-!
# Loops over a queue

Three ways to put a queue to work: write, read and delete a count of messages; send a count
of messages at a fixed pace; take messages as they come for a fixed time.  Each gives the
timings of its round trips in their order.  The two that know their count beforehand first make
room for the timings, and fail before anything else where no list is long enough.

Main results:

- Theorem `benchOptions_check_zero`: a benchmark of no messages that leaves the retention open is
  refused.
- Theorem `run_reserve`: making room succeeds up to the longest list and changes nothing.
- Theorem `oneMore_of_not_lt`: empty reads in a row are counted up to 32 bits.
-/

namespace MessageQueue
namespace Bench

open Time (Duration)

/-- How a loop fails: a call of the store fails, a queue holds fewer messages than were written,
no list has room for the timings, or the rounds granted to a consumer are used up. -/
inductive LoopFailure where
  | failed (f : Failure)
  | drained (queue : String) (reads total : Nat)
  | noRoom (timings : Nat)
  | unfinished
deriving DecidableEq

/-- The wording of a failure that no call reported. -/
def LoopFailure.message : LoopFailure → String
  | failed (.reported e) => e.message
  | failed .overflow => "time or count out of range"
  | drained queue reads total => s!"Queue {queue} drained after {reads} of {total} reads"
  | noRoom timings => s!"no room for {timings} timings"
  | unfinished => "rounds used up"

/-- Work on a queue that may fail as a loop does. -/
abbrev Loop (σ : Type) := Session σ LoopFailure

/-! ## Preparing a queue -/

section Loops

variable {σ α : Type}

/-- A call of the store as part of a loop. -/
def call (s : Session σ Failure α) : Loop σ α := s.mapError .failed

/-- Creates a queue; one that exists already will do. -/
def ensureQueue (c : Client σ) (queue : String) (options : QueueOptions) :
    Session σ Failure Unit := do
  match ← Session.attempt (c.createWith queue options) with
  | .ok () => return ()
  | .error (.reported (.queueExists _)) =>
    Session.emit (.warn "Queue already exists, reusing it" [("queue", .text queue)])
  | .error f => Session.ofExcept (.error f)

/-- The options of the queue of a benchmark: as many messages are kept as are written, unless told
otherwise. -/
def benchOptions (partitionInterval : Int) (retention : Option Int) (count : Nat) :
    QueueOptions :=
  (QueueOptions.ofPartitions partitionInterval).withRetention
    (retention.getD (Text.IntType.signed64.wrap count))

/-- A benchmark of no messages that leaves the retention open is refused. -/
theorem benchOptions_check_zero {partitionInterval : Int} (h : 0 < partitionInterval) :
    (benchOptions partitionInterval none 0).check = .error (.retentionInterval 0) := by
  have hwrap : Text.IntType.signed64.wrap 0 = 0 := by decide
  simp [benchOptions, QueueOptions.check, QueueOptions.ofPartitions, QueueOptions.withRetention,
    hwrap, Int.not_le.2 h]

/-! ## Room for timings -/

/-- The length of the longest list of timings: each takes 32 bytes of less than `2^63`. -/
def maxTimings : Nat := Nat.pow 2 58 - 1

/-- Makes room for a count of timings. -/
def reserve (timings : Nat) : Loop σ Unit :=
  Session.ofExcept (if timings ≤ maxTimings then .ok () else .error (.noRoom timings))

/-- Making room succeeds up to the longest list and changes nothing. -/
@[simp]
theorem run_reserve (timings : Nat) (w : World σ) :
    (reserve timings : Loop σ Unit) w =
      (if timings ≤ maxTimings then .ok () else .error (.noRoom timings), w) := rfl

/-! ## Steps -/

/-- What every message of a loop says. -/
def payload : Json := .object [("hello", .string "world")]

/-- Messages between two reports of progress. -/
def progressInterval : Nat := 10000

/-- The time on the clock of the session. -/
def clock : Loop σ Duration := do
  return .ofMilliseconds (← Session.elapsed)

/-- The span between two times on the clock. -/
def between (start stop : Duration) : Duration := ⟨stop.nanoseconds - start.nanoseconds⟩

/-- Sends a message. -/
def sendOne (c : Client σ) (queue : String) : Loop σ Int :=
  call (c.send queue (.json payload))

/-- Sends a message and takes the time. -/
def timedSend (c : Client σ) (queue : String) : Loop σ Timing := do
  let start ← clock
  let id ← sendOne c queue
  return ⟨.write, between start (← clock), id⟩

/-- Reads a message, if there is one, and takes the time. -/
def timedRead (c : Client σ) (queue : String) (vt : Int) : Loop σ (Option Timing) := do
  let start ← clock
  let message ← call (c.read Message.anyPayload queue (some vt))
  let stop ← clock
  return message.map fun m => ⟨.read, between start stop, m.id⟩

/-- Archives a message and takes the time. -/
def timedArchive (c : Client σ) (queue : String) (id : Int) : Loop σ Timing := do
  let start ← clock
  call (c.archive queue id)
  return ⟨.archive, between start (← clock), id⟩

/-- Deletes a message and takes the time. -/
def timedDelete (c : Client σ) (queue : String) (id : Int) : Loop σ Timing := do
  let start ← clock
  call (c.delete queue id)
  return ⟨.delete, between start (← clock), id⟩

/-! ## Benchmark -/

/-- Writes messages after those already written. -/
def writeMessages (c : Client σ) (queue : String) :
    (left written : Nat) → Loop σ (List Timing)
  | 0, _ => return []
  | left + 1, written => do
    let timing ← timedSend c queue
    if (written + 1) % progressInterval = 0 then
      Session.emit (.info "Write progress" [("written", .integer (written + 1))])
    return timing :: (← writeMessages c queue left (written + 1))

/-- Reads and archives messages after those already read. -/
def readMessages (c : Client σ) (queue : String) (vt : Int) (total : Nat) :
    (left reads : Nat) → Loop σ (List Timing)
  | 0, _ => return []
  | left + 1, reads => do
    match ← timedRead c queue vt with
    | none => throw (.drained queue reads total)
    | some timing =>
      let archived ← timedArchive c queue timing.id
      return timing :: archived :: (← readMessages c queue vt total left (reads + 1))

/-- Sends messages without taking the time. -/
def sendMessages (c : Client σ) (queue : String) : (left : Nat) → Loop σ (List Int)
  | 0 => return []
  | left + 1 => do
    let id ← sendOne c queue
    return id :: (← sendMessages c queue left)

/-- Deletes messages. -/
def deleteMessages (c : Client σ) (queue : String) : List Int → Loop σ (List Timing)
  | [] => return []
  | id :: rest => do
    let timing ← timedDelete c queue id
    return timing :: (← deleteMessages c queue rest)

/-- Writes a count of messages, reads and archives as many, and writes and deletes as many. -/
def runBench (c : Client σ) (queue : String) (count : Nat) (vt : Int) :
    Loop σ (List Timing) := do
  reserve (4 * count)
  Session.emit (.info "Writing messages"
    [("queue", .text queue), ("num_messages", .integer count)])
  let written ← writeMessages c queue count 0
  Session.emit (.info "Reading and archiving messages" [("queue", .text queue)])
  let read ← readMessages c queue vt count count 0
  Session.emit (.info "Benchmarking message deletion" [("queue", .text queue)])
  let ids ← sendMessages c queue count
  let deleted ← deleteMessages c queue ids
  return written ++ read ++ deleted

/-! ## Producer -/

/-- Sends messages after those already sent, with a pause before each but the first. -/
def produceMessages (c : Client σ) (queue : String) (total : Nat) (interval : Duration) :
    (left sent : Nat) → Loop σ (List Timing)
  | 0, _ => return []
  | left + 1, sent => do
    let timing ← timedSend c queue
    if sent % progressInterval = 0 then
      Session.emit (.info "Produce progress"
        [("sent", .integer sent), ("total", .integer total)])
    if 0 < left then Session.wait interval
    return timing :: (← produceMessages c queue total interval left (sent + 1))

/-- Sends a count of messages with a fixed pause between them. -/
def produce (c : Client σ) (queue : String) (count : Nat) (interval : Duration) :
    Loop σ (List Timing) := do
  reserve count
  let timings ← produceMessages c queue count interval count 0
  Session.emit (.info "Producer finished" [("queue", .text queue), ("sent", .integer count)])
  return timings

/-! ## Consumer -/

/-- Empty reads in a row before they are reported. -/
def quietReads : Nat := 2

/-- One more empty read in a row, as long as 32 bits hold their count. -/
def oneMore (empties : Nat) : Loop σ Nat :=
  Session.ofExcept
    (if empties < Text.IntType.unsigned32.highest then .ok (empties + 1)
      else .error (.failed .overflow))

theorem oneMore_of_lt {empties : Nat} (h : empties < 4294967295) :
    (oneMore empties : Loop σ Nat) = pure (empties + 1) := by
  have hcount : (empties : Int) < Text.IntType.unsigned32.highest := by
    simp only [Text.IntType.highest]
    omega
  rw [oneMore, if_pos hcount]
  rfl

/-- Empty reads in a row are counted up to 32 bits. -/
theorem oneMore_of_not_lt {empties : Nat} (h : ¬empties < 4294967295) :
    (oneMore empties : Loop σ Nat) = throw (.failed .overflow) := by
  have hcount : ¬(empties : Int) < Text.IntType.unsigned32.highest := by
    simp only [Text.IntType.highest]
    omega
  rw [oneMore, if_neg hcount]
  rfl

/-- Takes messages until the clock reaches the deadline, given so many rounds; `empties` reads in
a row found nothing. -/
def consumeMessages (c : Client σ) (queue : String) (deadline : Nat) (poll : Duration)
    (vt : Int) : (rounds empties : Nat) → Loop σ (List Timing)
  | rounds, empties => do
    if deadline ≤ (← Session.elapsed) then return []
    match rounds with
    | 0 => throw .unfinished
    | rounds + 1 =>
      match ← timedRead c queue vt with
      | none =>
        let empties ← oneMore empties
        if quietReads < empties then
          Session.emit (.info "No messages for consecutive reads"
            [("queue", .text queue), ("empty_reads", .integer empties)])
        Session.wait poll
        consumeMessages c queue deadline poll vt rounds empties
      | some timing =>
        let deleted ← timedDelete c queue timing.id
        return timing :: deleted :: (← consumeMessages c queue deadline poll vt rounds 0)

/-- Takes messages for a span of time, however long, and deletes each; after an empty read it
pauses.  Every round is a read. -/
def consume (c : Client σ) (queue : String) (runFor poll : Duration) (vt : Int)
    (rounds : Nat) : Loop σ (List Timing) := do
  let start ← Session.elapsed
  let timings ← consumeMessages c queue (start + runFor.ceilMilliseconds) poll vt rounds 0
  Session.emit (.info "Consumer finished"
    [("queue", .text queue), ("consumed", .integer (timings.length / 2 : Nat))])
  return timings

end Loops

end Bench
end MessageQueue
