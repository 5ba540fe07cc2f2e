import MessageQueue.Proofs.Store.Record

/-!
# Payloads in a store

The payloads that a store holds, and hands out, are payloads that were sent to it.  So a property
of all payloads that are sent is one of all payloads in the store at any later time.

Main results:

- Theorem `Queue.Step.payloadsIn`: a step of a queue brings in no payload but a sent one.
- Theorem `PayloadsIn.perform`: neither does any request to a store.
- Theorem `PayloadsIn.handedOut`: what a store hands out is what it held.
-/

namespace MessageQueue

/-- The payload that a request sends. -/
def Request.payload? : Request → Option Json
  | .send _ payload => some payload
  | _ => none

/-- The messages that a reply hands out. -/
def Request.handedOut : (r : Request) → r.Reply → List (Message Json)
  | .read _ _ _, ms => ms
  | .pop _, msg? | .setVisibility _ _ _, msg? => Option.toList msg?
  | _, _ => []

namespace Store

variable {P : Json → Prop}

/-! ## Payloads in a queue -/

/-- Every live message of a queue has a payload with some property. -/
def Queue.PayloadsIn (P : Json → Prop) (q : Queue) : Prop :=
  ∀ id m, q.live.get? id = some m → P m.payload

namespace Queue.Step

variable {q q' : Queue} {c : Call}

/-- The payload that a call sent is the one of its request. -/
theorem payload?_of_mem_sent {s : Sending} (h : s ∈ c.sent) :
    c.request.payload? = some s.payload := by
  rcases c with ⟨⟨r, reply⟩, now⟩
  cases r with
  | send name payload =>
      cases reply with
      | ok id =>
          rw [Call.sent, List.mem_singleton] at h
          rw [h]
          rfl
      | error e => cases h
  | _ => cases h

/-- A step of a queue brings in no payload but the one that is sent. -/
theorem payloadsIn (h : q.Step c q') (hq : q.PayloadsIn P)
    (hsent : ∀ v, c.request.payload? = some v → P v) : q'.PayloadsIn P := by
  intro id m hm
  cases h.fate id with
  | spared hlive => exact hq id m (hlive ▸ hm)
  | sent payload _ hlive _ _ htold =>
      cases hlive.symm.trans hm
      have hmem : (⟨id, c.now, payload⟩ : Sending) ∈ (record id [c]).sent := by
        rw [htold]
        exact List.mem_singleton_self _
      have hsentHere : (⟨id, c.now, payload⟩ : Sending) ∈ c.sent := by
        simpa [record] using hmem
      exact hsent payload (payload?_of_mem_sent hsentHere)
  | delivered _ _ _ m' t _ _ _ hbefore hlive =>
      cases hlive.symm.trans hm
      exact hq id m' hbefore
  | hidden _ _ m' t _ _ hbefore hlive =>
      cases hlive.symm.trans hm
      exact hq id m' hbefore
  | popped _ _ _ _ _ hlive | deleted _ _ _ _ hlive | archived _ _ _ _ hlive =>
      cases hlive.symm.trans hm

/-- What a step of a queue hands out is what the queue held. -/
theorem payload_of_mem_handedOut {r : Request} {reply : r.Reply} {now : Time.Instant}
    (h : q.Step ⟨⟨r, .ok reply⟩, now⟩ q') (hq : q.PayloadsIn P) {msg : Message Json}
    (hmsg : msg ∈ r.handedOut reply) : P msg.payload := by
  cases r with
  | read | setVisibility =>
      obtain ⟨m, t, hlive, heq⟩ := h.mem_hidden hmsg
      rw [heq]
      exact hq _ m hlive
  | pop name =>
      obtain ⟨m, hlive, -, heq⟩ := h.mem_popped hmsg
      rw [heq]
      exact hq _ m hlive
  | _ => cases hmsg

end Queue.Step

/-! ## Payloads in a store -/

namespace Memory

/-- Every live message of a store has a payload with some property. -/
def PayloadsIn (P : Json → Prop) (m : Memory) : Prop :=
  ∀ n q, m.queues.get? n = some q → q.PayloadsIn P

theorem payloadsIn_new (now : Time.Instant) : (new now).PayloadsIn P := by
  intro n q hq
  cases hq

/-- A queue in a store after a request was there before, is new, or has made the step of the
request. -/
theorem queue_of_perform {m : Memory} {r : Request} {reply : Except QueueError r.Reply}
    (htold : told? (perform r m).1 = some reply) {n : String} {q' : Queue}
    (hq' : (perform r m).2.queues.get? n = some q') :
    m.queues.get? n = some q' ∨ q' = .new m.now ∨
      ∃ q, m.queues.get? n = some q ∧ q.Step ⟨⟨r, reply⟩, m.now⟩ q' := by
  rcases m with ⟨queues, now, offline, count⟩
  cases offline with
  | true => exact .inl hq'
  | false =>
      simp only [perform, Bool.false_eq_true, if_false] at htold hq' ⊢
      cases hstep : queueStep? now r with
      | some p =>
          rcases p with ⟨name, step⟩
          rw [answer_eq_onQueue hstep, get?_onQueue] at hq'
          split at hq'
          case isFalse => exact .inl hq'
          rename_i hn
          subst hn
          obtain ⟨q, hq, rfl⟩ := Option.map_eq_some_iff.1 hq'
          rw [answer_eq_onQueue hstep, onQueue_fst, hq] at htold
          refine .inr (.inr ⟨q, hq, ?_⟩)
          cases reply with
          | error e =>
              exact absurd (told?_eq_some_error_iff.1 htold) (queueStep_ne_reported hstep q e)
          | ok a => exact step_of_queueStep? hstep (told?_eq_some_ok_iff.1 htold)
      | none =>
          cases r with
          | create name | createPartitioned name =>
              rw [answer, createQueue] at hq'
              split at hq'
              · exact .inl hq'
              · rw [SortedMap.get?_insert] at hq'
                split at hq'
                · exact .inr (.inl (Option.some.inj hq').symm)
                · exact .inl hq'
          | drop name =>
              rw [answer, SortedMap.get?_erase] at hq'
              split at hq'
              · cases hq'
              · exact .inl hq'
          | list => exact .inl hq'
          | send | read | pop | setVisibility | delete | archive | metrics => cases hstep

/-- A request brings no payload into a store but the one that it sends. -/
theorem PayloadsIn.perform {m : Memory} (hm : m.PayloadsIn P) {r : Request}
    (hsent : ∀ v, r.payload? = some v → P v) {reply : Except QueueError r.Reply}
    (htold : told? (Memory.perform r m).1 = some reply) :
    (Memory.perform r m).2.PayloadsIn P := by
  intro n q' hq'
  rcases queue_of_perform htold hq' with hkept | rfl | ⟨q, hq, hstep⟩
  · exact hm n q' hkept
  · intro id msg hmsg
    cases hmsg
  · exact hstep.payloadsIn (hm n q hq) hsent

/-- What a store hands out is what it held. -/
theorem PayloadsIn.handedOut {m : Memory} (hm : m.PayloadsIn P) {r : Request} {reply : r.Reply}
    (hok : (Memory.perform r m).1 = .ok reply) {msg : Message Json}
    (hmsg : msg ∈ r.handedOut reply) : P msg.payload := by
  cases hstep : queueStep? m.now r with
  | some p =>
      rcases p with ⟨name, step⟩
      obtain ⟨q, hq, hreply⟩ := exists_of_perform_eq_ok hstep hok
      exact (step_of_queueStep? hstep hreply).payload_of_mem_handedOut (hm _ q hq) hmsg
  | none =>
      cases r with
      | create | createPartitioned | drop | list => cases hmsg
      | send | read | pop | setVisibility | delete | archive | metrics => cases hstep

end Memory
end Store
end MessageQueue
