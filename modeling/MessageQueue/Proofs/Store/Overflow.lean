import MessageQueue.Proofs.Store.Record
import MessageQueue.Proofs.Time.Ends

/-!
# Arithmetic that can fail

A store counts the ids of a queue in 64 bits and the deliveries of a message in 32, hides messages
until instants that may not exist, and takes the span between two instants.  Nothing else that it
computes can fail.  The counters are those of the history of the store: as long as no queue was sent
too many messages and no message is delivered too often, they fit.  Spans always fit.  What is
left are the instants until which reads and changes of visibility hide: a read looks for its
instant before it looks at any message, a change of visibility only once it has found its message.

Main results:

- Theorem `overflow_cases`: only a timeout leads out of the range of instants, and only a delivery
  out of the range of counts.
- Theorem `LivedThrough.countersFit`: the counters fit while the history keeps to the limits.
- Theorem `panics_iff`: within the limits a request fails exactly for lack of an instant.
- Theorem `panicsAtEnds`: when reads, changes of visibility and metrics fail, at any clock.
-/

namespace MessageQueue

/-- The visibility timeout that a request comes with. -/
def Request.timeout? : Request → Option Int
  | .read _ vt _ | .setVisibility _ _ vt => some vt
  | _ => none

/-- The visibility timeout of a request, if it has one, is a number of 32 bits. -/
def Request.Typed (r : Request) : Prop :=
  ∀ vt ∈ r.timeout?, Text.IntType.signed32.contains vt = true

namespace Store

open Text (IntType)
open Time (Instant)
open Time.Instant (FitsSpan OutOfRange)

/-! ## Counters -/

/-- The next id of a queue has 64 bits and the counts of its live messages have 32. -/
structure Queue.CountersFit (q : Queue) : Prop where
  nextId : IntType.signed64.contains q.nextId = true
  readCount : ∀ id stored, q.live.get? id = some stored →
    IntType.signed32.contains stored.readCount = true

/-- At no point of a history had a queue, since it was created, been sent 2⁶³ − 1 messages or
delivered one of them 2³¹ times. -/
def WithinLimits (history : List Call) : Prop :=
  ∀ before, before <+: history → ∀ name calls, incarnation name before = some calls →
    (calls.flatMap Call.sent).length < 2 ^ 63 - 1 ∧
      ∀ id, (record id calls).delivered.length < 2 ^ 31

/-- After a history within the limits, a call that neither sends nor delivers keeps within them. -/
theorem WithinLimits.concat {history : List Call} (h : WithinLimits history) {c : Call}
    (hsent : c.sent = []) (hdelivered : c.delivered = []) : WithinLimits (history ++ [c]) := by
  intro before hbefore name calls hcalls
  rcases List.prefix_concat_iff.1 hbefore with rfl | hbefore
  · rw [incarnation_concat, continued] at hcalls
    have hhistory := h history (List.prefix_refl _) name
    split at hcalls
    · cases hcalls
      exact ⟨by decide, fun id => by simp [record]⟩
    · split at hcalls
      · cases hcalls
      · split at hcalls
        · -- the incarnation has grown by the call, which counts for nothing
          rcases Option.map_eq_some_iff.1 hcalls with ⟨earlier, hearlier, rfl⟩
          rcases hhistory earlier hearlier with ⟨hsends, hdeliveries⟩
          have hnone : ∀ id, (record id [c]).delivered = [] := by
            intro id
            simp [record, hdelivered]
          refine ⟨by simpa [hsent] using hsends, fun id => ?_⟩
          rw [record_append, Record.append, hnone, List.append_nil]
          exact hdeliveries id
        · exact hhistory calls hcalls
  · exact h before hbefore name calls hcalls

namespace Memory

/-- The queues of a store are those with an incarnation in a history, and each has lived through
its incarnation. -/
def LivedThrough (history : List Call) (m : Memory) : Prop :=
  ∀ n, Option.Rel Lifetime (incarnation n history) (m.queues.get? n)

variable {history : List Call} {m : Memory}

/-- A reply that is told continues the history that a store has lived through. -/
theorem LivedThrough.perform (h : m.LivedThrough history) {r : Request}
    {reply : Except QueueError r.Reply} (htold : told? (perform r m).1 = some reply) :
    LivedThrough (history ++ [⟨⟨r, reply⟩, m.now⟩]) (perform r m).2 := by
  intro n
  rw [incarnation_concat]
  exact continued_perform (h n) htold

/-- The counters of a store fit while its history keeps to the limits. -/
theorem LivedThrough.countersFit (h : m.LivedThrough history) (hlimits : WithinLimits history)
    {n : String} {q : Queue} (hq : m.queues.get? n = some q) : q.CountersFit := by
  have hrel := h n
  rw [hq] at hrel
  have hwithin := hlimits history (List.prefix_refl _) n
  generalize incarnation n history = life at hrel hwithin
  cases hrel with
  | @some calls _ hlife =>
      rcases hwithin calls rfl with ⟨hsends, hdeliveries⟩
      constructor
      · rcases hlife.sent_ids with ⟨count, hids, hnext⟩
        have hcount : (calls.flatMap Call.sent).length = count := by
          simpa using congrArg List.length hids
        rw [IntType.contains_iff, hnext]
        simp only [IntType.lowest, IntType.highest]
        omega
      · intro id stored hlive
        have hcounted := (hlife.describes hlive).delivered
        have hbound := hdeliveries id
        rw [IntType.contains_iff, hcounted]
        simp only [IntType.lowest, IntType.highest]
        omega

end Memory

/-! ## Instants -/

namespace Queue

/-- A read that finds no instant until which to hide changes nothing. -/
theorem read_of_addSeconds?_eq_none {q : Queue} {now : Instant} {vt : Int}
    (h : now.addSeconds? vt = none) (limit : Int) :
    q.read now vt limit = (.error .overflow, q) := by
  simp only [read, h]

/-- A change of visibility fails exactly when its message is live and there is no instant until
which to hide it. -/
theorem setVisibility_eq_overflow_iff {q q' : Queue} {now : Instant} {id vt : Int} :
    q.setVisibility now id vt = (.error .overflow, q') ↔
      q.live.contains id = true ∧ now.addSeconds? vt = none ∧ q' = q := by
  unfold setVisibility
  rw [SortedMap.contains]
  cases q.live.get? id with
  | none => simp
  | some stored => cases now.addSeconds? vt <;> simp [eq_comm]

end Queue

namespace Memory

variable {m : Memory} {history : List Call}

/-- The messages that a request is to deliver. -/
def due (m : Memory) : Request → List (Int × StoredMessage)
  | .read name _ limit =>
    match m.queues.get? name.text with
    | none => []
    | some q => if m.offline then [] else q.selected m.now limit.toNat
  | _ => []

theorem due_read {name : QueueName} {q : Queue} (honline : m.offline = false)
    (hq : m.queues.get? name.text = some q) (vt limit : Int) :
    m.due (.read name vt limit) = q.selected m.now limit.toNat := by
  simp [due, hq, honline]

/-- A request that panics has come to a queue that does. -/
theorem exists_step_of_overflow {r : Request} (h : (perform r m).1 = .error .overflow) :
    ∃ name step q, m.offline = false ∧ queueStep? m.now r = some (name, step) ∧
      m.queues.get? name.text = some q ∧ (step q).1 = .error .overflow := by
  rcases m with ⟨queues, now, offline, count⟩
  cases offline with
  | true => cases h
  | false =>
      have hanswer : (answer queues now r).1 = .error .overflow := h
      cases hstep : queueStep? now r with
      | some p =>
          rcases p with ⟨name, step⟩
          rw [answer_eq_onQueue hstep, onQueue_fst] at hanswer
          cases hq : queues.get? name.text with
          | none =>
              rw [hq] at hanswer
              cases hanswer
          | some q =>
              rw [hq] at hanswer
              exact ⟨name, step, q, rfl, rfl, hq, hanswer⟩
      | none =>
          cases r with
          | create name | createPartitioned name _ _ =>
              rw [answer, createQueue] at hanswer
              split at hanswer <;> cases hanswer
          | drop | list => cases hanswer
          | send | read | pop | setVisibility | delete | archive | metrics => cases hstep

/-- Only the timeout of a read or of a change of visibility leads out of the range of instants, and
only a message to deliver out of the range of counts. -/
theorem overflow_cases {r : Request} (h : (perform r m).1 = .error .overflow) :
    (∃ vt, r.timeout? = some vt ∧ m.now.addSeconds? vt = none) ∨ ∃ e ∈ m.due r, e.2.Spent := by
  rcases exists_step_of_overflow h with ⟨name, step, q, honline, hstep, hq, hfails⟩
  cases r with
  | read _ vt limit =>
      cases hstep
      rcases Queue.read_fst_eq_overflow_iff.1 hfails with hnone | hspent
      · exact .inl ⟨vt, rfl, hnone⟩
      · rw [due_read honline hq]
        simpa [Queue.Deliverable] using Or.inr hspent
  | setVisibility _ id vt =>
      cases hstep
      exact .inl ⟨vt, rfl, (Queue.setVisibility_eq_overflow_iff.1 (Prod.ext hfails rfl)).2.1⟩
  | send | pop | delete | archive | metrics =>
      cases hstep
      cases hfails
  | create | createPartitioned | drop | list => cases hstep

/-- Inside the range of instants a typed request does not panic that delivers no spent message. -/
theorem perform_ne_overflow (h : m.now.Inside) {r : Request} (hr : r.Typed)
    (hdue : ∀ e ∈ m.due r, ¬e.2.Spent) : (perform r m).1 ≠ .error .overflow := by
  intro hoverflow
  rcases overflow_cases hoverflow with ⟨vt, hvt, hnone⟩ | ⟨e, he, hspent⟩
  · have hsome := h.isSome_addSeconds? (hr vt hvt)
    rw [hnone] at hsome
    cases hsome
  · exact hdue e he hspent

/-! ## Requests -/

/-- Arithmetic fails during a request: an instant does not exist or a delivery cannot be counted,
the next id leaves its type, or the age of a message is no span. -/
inductive Panics (m : Memory) (r : Request) : Prop where
  | stopped (h : (perform r m).1 = .error .overflow)
  | counter {n : String} {q : Queue} (hq : (perform r m).2.queues.get? n = some q)
      (h : ¬ q.CountersFit)
  | span {name : QueueName} {q : Queue} {id : Int} {stored : StoredMessage}
      (hr : r = .metrics name) (hq : m.queues.get? name.text = some q)
      (hlive : q.live.get? id = some stored)
      (h : ¬ FitsSpan (m.now.nanosecondsSince stored.enqueuedAt))

/-- A request delivers no message for the 2³¹st time. -/
def DeliversWithin (history : List Call) (m : Memory) (r : Request) : Prop :=
  ∀ name ∈ r.queue?, ∀ calls, incarnation name.text history = some calls →
    ∀ e ∈ m.due r, (record e.1 calls).delivered.length + 1 < 2 ^ 31

/-- A request, whatever is replied, keeps a history within the limits, and delivers no message too
often. -/
structure KeepsLimits (history : List Call) (m : Memory) (r : Request) : Prop where
  replied : ∀ reply, told? (perform r m).1 = some reply →
    WithinLimits (history ++ [⟨⟨r, reply⟩, m.now⟩])
  delivers : DeliversWithin history m r

/-- A message was counted as delivered as often as its history tells, so that one that is not
delivered too often is not spent. -/
theorem LivedThrough.not_spent (hlife : m.LivedThrough history) {r : Request}
    (h : DeliversWithin history m r) : ∀ e ∈ m.due r, ¬e.2.Spent := by
  cases r with
  | read name vt limit =>
      intro e he
      have hbound := h name rfl
      cases hq : m.queues.get? name.text with
      | none => simp [due, hq] at he
      | some q =>
          have hmem : e ∈ q.selected m.now limit.toNat := by
            cases hoffline : m.offline with
            | false => rwa [due_read hoffline hq] at he
            | true => simp [due, hq, hoffline] at he
          have hrel := hlife name.text
          rw [hq] at hrel
          generalize incarnation name.text history = life at hrel hbound
          cases hrel with
          | @some calls _ hlived =>
              have hcounted := (hlived.describes (Queue.live_of_mem_selected hmem).1).delivered
              have hless := hbound calls rfl e he
              rw [StoredMessage.Spent, hcounted]
              omega
  | create | createPartitioned | send | pop | setVisibility | delete | archive | drop | list
  | metrics => exact fun e he => absurd he (List.not_mem_nil)

theorem exists_told {α : Type} {r : Except Failure α} (h : r ≠ .error .overflow) :
    ∃ reply, told? r = some reply := by
  rcases r with (e | _) | a
  · exact ⟨.error e, rfl⟩
  · exact absurd rfl h
  · exact ⟨.ok a, rfl⟩

/-- Within the limits nothing fails in a request that finds its instant. -/
theorem not_panics (hlife : m.LivedThrough history) {r : Request}
    (hlimits : KeepsLimits history m r) (h : (perform r m).1 ≠ .error .overflow) :
    ¬ m.Panics r := by
  rintro (hstopped | ⟨hq, hcounter⟩ | ⟨-, -, -, hspan⟩)
  · exact h hstopped
  · rcases exists_told h with ⟨reply, htold⟩
    exact hcounter ((hlife.perform htold).countersFit (hlimits.replied reply htold) hq)
  · exact hspan (Instant.fitsSpan_nanosecondsSince _ _)

/-- Within the limits a request fails exactly when an instant does not exist. -/
theorem panics_iff (hlife : m.LivedThrough history) {r : Request}
    (hlimits : KeepsLimits history m r) :
    m.Panics r ↔ (perform r m).1 = .error .overflow := by
  constructor
  · intro hpanics
    by_contra hnot
    exact not_panics hlife hlimits hnot hpanics
  · exact .stopped

/-- After a history within the limits, a request that neither sends nor reads keeps within them. -/
theorem keepsLimits_of_neither (h : WithinLimits history) {r : Request}
    (hsent : ∀ reply, Call.sent ⟨⟨r, reply⟩, m.now⟩ = [])
    (hdelivered : ∀ reply, Call.delivered ⟨⟨r, reply⟩, m.now⟩ = []) (hdue : m.due r = []) :
    KeepsLimits history m r where
  replied reply _ := h.concat (hsent reply) (hdelivered reply)
  delivers _ _ _ _ e he := by
    rw [hdue] at he
    cases he

/-! ## At any clock -/

/-- When the requests of a queue fail at the ends of time, the store having lived through a
history. -/
structure PanicsAtEnds (history : List Call) (m : Memory) (name : QueueName) (q : Queue) :
    Prop where
  /-- A read fails exactly when the instant until which it would hide is out of range, whether or
  not there is anything to deliver. -/
  read : ∀ t vt limit, KeepsLimits history (m.onlineAt t) (.read name vt limit) →
    ((m.onlineAt t).Panics (.read name vt limit) ↔ OutOfRange (t.landing vt))
  /-- It then fails before any message was changed. -/
  unchanged : ∀ t vt limit, OutOfRange (t.landing vt) →
    (perform (.read name vt limit) (m.onlineAt t)).2.queues = m.queues
  /-- A change of visibility fails exactly when its message is live and the instant until which it
  would hide is out of range. -/
  setVisibility : WithinLimits history → ∀ t id vt,
    (m.onlineAt t).Panics (.setVisibility name id vt) ↔
      q.live.contains id = true ∧ OutOfRange (t.landing vt)
  /-- Metrics never fail. -/
  metrics : WithinLimits history → ∀ t, ¬ (m.onlineAt t).Panics (.metrics name)

/-- Reads, changes of visibility and metrics fail at the ends of time alone. -/
theorem panicsAtEnds (hlife : m.LivedThrough history) {name : QueueName} {q : Queue}
    (hq : m.queues.get? name.text = some q) : PanicsAtEnds history m name q := by
  have hlife' : ∀ t, (m.onlineAt t).LivedThrough history := fun _ => hlife
  constructor
  · intro t vt limit hlimits
    rw [panics_iff (hlife' t) hlimits, perform_onlineAt rfl hq,
      ← Instant.addSeconds?_eq_none_iff_landing]
    refine Queue.read_fst_eq_overflow_iff.trans (or_iff_left fun hspent => hspent ?_)
    have hnot := (hlife' t).not_spent hlimits.delivers
    rwa [due_read (m := m.onlineAt t) rfl hq] at hnot
  · intro t vt limit hout
    rw [← Instant.addSeconds?_eq_none_iff_landing] at hout
    have hsame : (q.read t vt limit).2 = q :=
      congrArg Prod.snd (Queue.read_of_addSeconds?_eq_none hout limit)
    rw [perform_eq_of_queueStep? (m := m.onlineAt t) rfl rfl hq]
    calc m.queues.insert name.text (q.read t vt limit).2
        = m.queues.insert name.text q := by rw [hsame]
      _ = m.queues := SortedMap.insert_of_get? hq
  · intro hlimits t id vt
    have hkeeps : KeepsLimits history (m.onlineAt t) (.setVisibility name id vt) :=
      keepsLimits_of_neither hlimits (fun _ => rfl) (fun _ => rfl) rfl
    rw [panics_iff (hlife' t) hkeeps, perform_onlineAt rfl hq,
      ← Instant.addSeconds?_eq_none_iff_landing]
    constructor
    · intro h
      have hfails := Queue.setVisibility_eq_overflow_iff.1 (Prod.ext h rfl)
      exact ⟨hfails.1, hfails.2.1⟩
    · rintro ⟨hlive, hnone⟩
      rw [Queue.setVisibility_eq_overflow_iff.2 ⟨hlive, hnone, rfl⟩]
  · intro hlimits t
    have hkeeps : KeepsLimits history (m.onlineAt t) (.metrics name) :=
      keepsLimits_of_neither hlimits (fun _ => rfl) (fun _ => rfl) rfl
    rw [panics_iff (hlife' t) hkeeps, perform_onlineAt rfl hq]
    simp

/-- In the last second even a read of nothing from an empty queue fails. -/
example :
    (perform (.read jobs 1 0) ((perform (.create jobs) (new .epoch)).2.onlineAt
      ⟨Time.lastSecond, 0, by decide, by decide, by decide⟩)).1 = .error .overflow := by
  decide

end Memory
end Store
end MessageQueue
