import MessageQueue.Proofs.Store.Record

/-!
# Contents of delivered messages

What a queue hands out is what was sent to it.  Whichever call hands a message out, the
message carries the payload and the instant of the one send that answered its id since the
queue was created, and the number of times it was read before.

Main results:

- Theorem `Lifetime.delivered_counts`: the reads of a message in a row count from zero.
- Theorem `handsOutAsSent_of_history`: in every history all messages are handed out as sent.
-/

namespace MessageQueue
namespace Store

open Time (Instant)

/-- The reads of a message in a row count from zero on. -/
theorem Lifetime.delivered_counts {calls : List Call} {q : Queue} (h : Lifetime calls q)
    (id : Int) :
    (record id calls).delivered.map Message.readCount =
      (List.range (record id calls).delivered.length).map fun k : Nat => (k : Int) := by
  induction h with
  | created now => rfl
  | @step calls q q' c before hstep ih =>
      rw [record_append, Record.append]
      cases hstep.fate id with
      | delivered name vt limit m t _ _ _ hbefore _ _ _ htold =>
          have hcount : (handOut t (id, m)).readCount = (record id calls).delivered.length :=
            (before.describes hbefore).delivered
          rw [htold]
          simp [ih, hcount, List.range_succ]
      | spared _ _ _ htold | sent _ _ _ _ _ htold | hidden _ _ _ _ _ _ _ _ _ _ htold
      | popped _ _ _ _ _ _ _ _ htold | deleted _ _ _ _ _ _ _ htold
      | archived _ _ _ _ _ _ _ htold =>
          rw [htold]
          simp [ih]

/-- A message that a step of a queue hands out is as the calls before tell. -/
theorem Lifetime.hands_out {calls : List Call} {q q' : Queue} {c : Call} {msg : Message Json}
    (h : Lifetime calls q) (hstep : q.Step c q') (hmsg : msg ∈ c.hidden ++ c.popped) :
    (record msg.id calls).sent = [⟨msg.id, msg.enqueuedAt, msg.payload⟩] ∧
      msg.readCount = (record msg.id calls).delivered.length := by
  have hstored : ∃ m, q.live.get? msg.id = some m ∧ msg.enqueuedAt = m.enqueuedAt ∧
      msg.payload = m.payload ∧ msg.readCount = m.readCount := by
    rcases List.mem_append.1 hmsg with hhidden | hpopped
    · rcases hstep.mem_hidden hhidden with ⟨m, t, hlive, hmsg⟩
      exact ⟨m, hlive, by rw [hmsg]; exact ⟨rfl, rfl, rfl⟩⟩
    · rcases hstep.mem_popped hpopped with ⟨m, hlive, -, hmsg⟩
      exact ⟨m, hlive, by rw [hmsg]; exact ⟨rfl, rfl, rfl⟩⟩
  rcases hstored with ⟨m, hlive, henqueued, hpayload, hcount⟩
  have htold := h.describes hlive
  rw [henqueued, hpayload, hcount]
  exact ⟨htold.sent, htold.delivered⟩

/-- A call of a store that hands out a message is a step of a queue that is there. -/
theorem Memory.exists_step_of_hands_out {m m' : Memory} {c : Call} {msg : Message Json}
    (hmove : m.move (.request c.request) = some ([c.toExchange], m'))
    (hnow : c.now = m.now) (hmsg : msg ∈ c.hidden ++ c.popped) :
    ∃ name q q', c.request.queue? = some name ∧ m.queues.get? name.text = some q ∧
      q.Step c q' := by
  rcases c with ⟨⟨r, reply⟩, now⟩
  subst hnow
  rcases move_request_iff.1 hmove with ⟨htold, -⟩
  cases reply with
  | error e => cases r <;> simp [Call.hidden, Call.popped] at hmsg
  | ok reply =>
      cases hstep : queueStep? m.now r with
      | none =>
          cases r with
          | create | createPartitioned | drop | list => simp [Call.hidden, Call.popped] at hmsg
          | send | read | pop | setVisibility | delete | archive | metrics => cases hstep
      | some p =>
          rcases p with ⟨name, step⟩
          rcases exists_of_perform_eq_ok hstep (told?_eq_some_ok_iff.1 htold) with ⟨q, hq, hok⟩
          exact ⟨name, q, (step q).2, queue?_of_queueStep? hstep, hq, step_of_queueStep? hstep hok⟩

/-- All messages of a history are handed out as they were sent. -/
structure HandsOutAsSent (history : List Call) : Prop where
  /-- A message carries the payload and the instant of the one send of its id since the queue was
  created, and the number of times that it was read before. -/
  content : ∀ before c after, history = before ++ c :: after →
    ∀ msg ∈ c.hidden ++ c.popped, ∃ name calls, c.request.queue? = some name ∧
      incarnation name.text before = some calls ∧
      (record msg.id calls).sent = [⟨msg.id, msg.enqueuedAt, msg.payload⟩] ∧
      msg.readCount = ((record msg.id calls).delivered.length : Int)
  /-- The reads of a message in a row count from zero on. -/
  counts : ∀ name calls, incarnation name history = some calls → ∀ id,
    (record id calls).delivered.map Message.readCount =
      (List.range (record id calls).delivered.length).map fun k : Nat => (k : Int)

/-- In every history of a store all messages are handed out as they were sent. -/
theorem handsOutAsSent_of_history {start : Instant} {moves : List Move} {history : List Call}
    {m : Memory} (hrun : (Memory.new start).history moves = some (history, m)) :
    HandsOutAsSent history := by
  constructor
  · rintro before c after rfl msg hmsg
    rcases Memory.history_cut hrun with ⟨earlier, m₀, m₁, hearlier, hnow, hmove⟩
    rcases Memory.exists_step_of_hands_out hmove hnow hmsg with ⟨name, q, q', hname, hq, hstep⟩
    rcases Memory.exists_lifetime hearlier hq with ⟨calls, hcalls, hlife⟩
    exact ⟨name, calls, hname, hcalls, hlife.hands_out hstep hmsg⟩
  · intro name calls hcalls id
    have hrel := Memory.lifetime_of_history hrun name
    rw [hcalls] at hrel
    cases hq : m.queues.get? name with
    | none => simp [hq] at hrel
    | some q =>
        rw [hq, Option.rel_some_some] at hrel
        exact hrel.delivered_counts id

/-- The sample run hands out its messages as they were sent. -/
theorem handsOutAsSent_sampleMoves :
    ∃ history m, (Memory.new .epoch).history sampleMoves = some (history, m) ∧
      HandsOutAsSent history := by
  rcases exists_queue_sampleMoves with ⟨history, m, q, hrun, -⟩
  exact ⟨history, m, hrun, handsOutAsSent_of_history hrun⟩

end Store
end MessageQueue
