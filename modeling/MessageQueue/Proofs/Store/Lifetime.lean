import MessageQueue.Proofs.Store.History
import MessageQueue.Proofs.Store.Operations

/-!
# Lifetimes of queues

A queue that is in a store has come about from an empty queue by the calls of its present
incarnation, one step for each call.  What holds of a new queue and is kept by every step
therefore holds of every queue of every store that a run leads to.

Main results:

- Theorem `lifetime_of_history`: the queues of a store are exactly those with a present
  incarnation, and each has lived through it.
- Theorem `Lifetime.cut`: a lifetime may be cut at any of its calls.
-/

namespace MessageQueue
namespace Store

open Time (Instant)

/-! ## Steps of one queue -/

/-- What a call about a queue does to the queue. -/
inductive Queue.Step : Queue → Call → Queue → Prop where
  | refused (q : Queue) (r : Request) (e : QueueError) (now : Instant) :
      Step q ⟨⟨r, .error e⟩, now⟩ q
  | send (q : Queue) (name : QueueName) (payload : Json) (now : Instant) :
      Step q ⟨⟨.send name payload, .ok (q.send now payload).1⟩, now⟩ (q.send now payload).2
  | read {q q' : Queue} {vt limit : Int} {ms : List (Message Json)} {now : Instant}
      (name : QueueName) (h : q.read now vt limit = (.ok ms, q')) :
      Step q ⟨⟨.read name vt limit, .ok ms⟩, now⟩ q'
  | pop (q : Queue) (name : QueueName) (now : Instant) :
      Step q ⟨⟨.pop name, .ok (q.pop now).1⟩, now⟩ (q.pop now).2
  | setVisibility {q q' : Queue} {id vt : Int} {msg? : Option (Message Json)} {now : Instant}
      (name : QueueName) (h : q.setVisibility now id vt = (.ok msg?, q')) :
      Step q ⟨⟨.setVisibility name id vt, .ok msg?⟩, now⟩ q'
  | delete (q : Queue) (name : QueueName) (id : Int) (now : Instant) :
      Step q ⟨⟨.delete name id, .ok (q.delete id).1⟩, now⟩ (q.delete id).2
  | archive (q : Queue) (name : QueueName) (id : Int) (now : Instant) :
      Step q ⟨⟨.archive name id, .ok (q.archive id).1⟩, now⟩ (q.archive id).2
  | metrics (q : Queue) (name : QueueName) (now : Instant) :
      Step q ⟨⟨.metrics name, .ok (q.metrics name.text now)⟩, now⟩ q

/-- A queue that was created empty and has gone through some calls since. -/
inductive Lifetime : List Call → Queue → Prop where
  | created (now : Instant) : Lifetime [] (.new now)
  | step {calls : List Call} {q q' : Queue} {c : Call} (before : Lifetime calls q)
      (h : q.Step c q') : Lifetime (calls ++ [c]) q'

/-- A lifetime may be cut at any of its calls. -/
theorem Lifetime.cut {before after : List Call} {c : Call} {q : Queue}
    (h : Lifetime (before ++ c :: after) q) :
    ∃ q₀ q₁, Lifetime before q₀ ∧ q₀.Step c q₁ ∧ Lifetime (before ++ [c]) q₁ := by
  generalize hall : before ++ c :: after = calls at h
  induction h generalizing after with
  | created now => simp at hall
  | @step calls q q' d hcalls hstep ih =>
      rcases List.eq_nil_or_concat after with rfl | ⟨middle, last, rfl⟩
      · rcases List.append_inj' hall rfl with ⟨rfl, heq⟩
        cases heq
        exact ⟨q, q', hcalls, hstep, hcalls.step hstep⟩
      · rw [List.concat_eq_append, ← List.cons_append, ← List.append_assoc] at hall
        exact ih (List.append_inj' hall rfl).1

/-! ## Queues of a store -/

namespace Memory

/-- A request is a move when its reply does not end the run. -/
theorem move_request_iff {m m' : Memory} {r : Request} {reply : Except QueueError r.Reply} :
    m.move (.request r) = some ([⟨r, reply⟩], m') ↔
      told? (perform r m).1 = some reply ∧ (perform r m).2 = m' := by
  simp only [move, Option.map_eq_some_iff]
  constructor
  · rintro ⟨reply, htold, heq⟩
    cases heq
    exact ⟨htold, rfl⟩
  · rintro ⟨htold, rfl⟩
    exact ⟨reply, htold, rfl⟩

theorem told?_eq_some_ok_iff {α : Type} {r : Except Failure α} {a : α} :
    told? r = some (.ok a) ↔ r = .ok a := by
  rcases r with (e | _) | b <;> simp [told?]

theorem told?_eq_some_error_iff {α : Type} {r : Except Failure α} {e : QueueError} :
    told? r = some (.error e) ↔ r = .error (.reported e) := by
  rcases r with (e | _) | b <;> simp [told?]

/-- The queue that a request is answered by, and its step, unless the request is about the queues
as a whole. -/
def queueStep? (now : Instant) :
    (r : Request) → Option (QueueName × (Queue → Except Failure r.Reply × Queue))
  | .send name payload => some (name, fun q => succeed (q.send now payload))
  | .read name vt limit => some (name, fun q => q.read now vt limit)
  | .pop name => some (name, fun q => succeed (q.pop now))
  | .setVisibility name id vt => some (name, fun q => q.setVisibility now id vt)
  | .delete name id => some (name, fun q => succeed (q.delete id))
  | .archive name id => some (name, fun q => succeed (q.archive id))
  | .metrics name => some (name, fun q => (.ok (q.metrics name.text now), q))
  | .create _ | .createPartitioned _ _ _ | .drop _ | .list => none

section QueueStep

variable {now : Instant} {r : Request} {name : QueueName}
  {step : Queue → Except Failure r.Reply × Queue}

/-- A request of one queue is answered by the step of that queue. -/
theorem answer_eq_onQueue (h : queueStep? now r = some (name, step))
    (queues : SortedMap String Queue) : answer queues now r = onQueue queues name step := by
  cases r <;> cases h <;> rfl

/-- A request of one queue is about that queue. -/
theorem queue?_of_queueStep? (h : queueStep? now r = some (name, step)) :
    r.queue? = some name := by
  cases r <;> cases h <;> rfl

/-- The step of a queue reports no error. -/
theorem queueStep_ne_reported (h : queueStep? now r = some (name, step)) (q : Queue)
    (e : QueueError) : (step q).1 ≠ .error (.reported e) := by
  cases r with
  | read name vt limit =>
      cases h
      exact q.read_ne_reported now vt limit e
  | setVisibility name id vt =>
      cases h
      exact q.setVisibility_ne_reported now id vt e
  | send | pop | delete | archive | metrics =>
      cases h
      simp [succeed]
  | create | createPartitioned | drop | list => cases h

/-- The step of a queue that answers is one of the steps of queues. -/
theorem step_of_queueStep? (h : queueStep? now r = some (name, step)) {q : Queue}
    {reply : r.Reply} (hok : (step q).1 = .ok reply) :
    q.Step ⟨⟨r, .ok reply⟩, now⟩ (step q).2 := by
  cases r with
  | send name payload =>
      cases h
      cases hok
      exact .send q name payload now
  | read name vt limit =>
      cases h
      exact .read name (Prod.ext hok rfl)
  | pop name =>
      cases h
      cases hok
      exact .pop q name now
  | setVisibility name id vt =>
      cases h
      exact .setVisibility name (Prod.ext hok rfl)
  | delete name id =>
      cases h
      cases hok
      exact .delete q name id now
  | archive name id =>
      cases h
      cases hok
      exact .archive q name id now
  | metrics name =>
      cases h
      cases hok
      exact .metrics q name now
  | create | createPartitioned | drop | list => cases h

end QueueStep

/-- A step of one queue answers what the queue answers, if the queue is there. -/
theorem onQueue_fst {α : Type} (queues : SortedMap String Queue) (name : QueueName)
    (step : Queue → Except Failure α × Queue) :
    (onQueue queues name step).1 =
      match queues.get? name.text with
      | none => .error (.reported (.queueNotFound name.text))
      | some q => (step q).1 := by
  have hfst := queues.adjust_fst name.text step
  unfold onQueue
  cases hq : queues.get? name.text with
  | none =>
      rw [hq] at hfst
      split <;> simp_all
  | some q =>
      rw [hq] at hfst
      split <;> simp_all

/-- A step of one queue changes that queue and no other. -/
theorem get?_onQueue {α : Type} (queues : SortedMap String Queue) (name : QueueName)
    (step : Queue → Except Failure α × Queue) (n : String) :
    (onQueue queues name step).2.get? n =
      if n = name.text then (queues.get? n).map fun q => (step q).2 else queues.get? n := by
  rw [← queues.get?_adjust name.text n step]
  unfold onQueue
  split <;> simp_all

/-- A store in reach answers a request of a queue that is there as the queue does, puts the queue
after its step in the place of the one before, and counts the call. -/
theorem perform_eq_of_queueStep? {m : Memory} {name : QueueName} {q : Queue} {r : Request}
    {step : Queue → Except Failure r.Reply × Queue}
    (hstep : queueStep? m.now r = some (name, step)) (honline : m.offline = false)
    (hq : m.queues.get? name.text = some q) :
    perform r m = ((step q).1,
      { m with queues := m.queues.insert name.text (step q).2, calls := m.calls + 1 }) := by
  rcases m with ⟨queues, now, offline, count⟩
  simp only at honline hq hstep
  subst honline
  have hreply : (onQueue queues name step).1 = (step q).1 := by rw [onQueue_fst, hq]
  have hqueues : (onQueue queues name step).2 = queues.insert name.text (step q).2 := by
    apply SortedMap.ext_get?
    intro n
    rw [get?_onQueue, SortedMap.get?_insert]
    by_cases hn : n = name.text
    · simp [hn, hq]
    · simp [hn]
  simp [perform, answer_eq_onQueue hstep, hreply, hqueues]

/-- Of two requests of one queue in a row the second is answered by the queue that the first one
left, and the queue after both is in the place of the one before. -/
theorem perform_perform_of_queueStep? {m : Memory} {name : QueueName} {q : Queue} {r s : Request}
    {step : Queue → Except Failure r.Reply × Queue}
    {step' : Queue → Except Failure s.Reply × Queue}
    (hstep : queueStep? m.now r = some (name, step))
    (hstep' : queueStep? m.now s = some (name, step')) (honline : m.offline = false)
    (hq : m.queues.get? name.text = some q) :
    perform s (perform r m).2 = ((step' (step q).2).1,
      { m with
        queues := m.queues.insert name.text (step' (step q).2).2
        calls := m.calls + 2 }) := by
  rw [perform_eq_of_queueStep? hstep honline hq]
  have hq' : (m.queues.insert name.text (step q).2).get? name.text = some (step q).2 := by
    simp [SortedMap.get?_insert]
  rw [perform_eq_of_queueStep? (m := { m with
    queues := m.queues.insert name.text (step q).2, calls := m.calls + 1 }) hstep' honline hq',
    SortedMap.insert_insert]

/-- A store in reach answers a request of a queue that is there as the queue does, and has
the queue after its step. -/
theorem perform_of_queueStep? {m : Memory} {name : QueueName} {q : Queue} {r : Request}
    {step : Queue → Except Failure r.Reply × Queue}
    (hstep : queueStep? m.now r = some (name, step)) (honline : m.offline = false)
    (hq : m.queues.get? name.text = some q) :
    (perform r m).1 = (step q).1 ∧ (perform r m).2.queues.get? name.text = some (step q).2 ∧
      (perform r m).2.now = m.now ∧ (perform r m).2.offline = false := by
  rw [perform_eq_of_queueStep? hstep honline hq]
  exact ⟨rfl, by simp [SortedMap.get?_insert], rfl, honline⟩

/-- A request of a queue is answered well only when the store is in reach and the queue there,
and then as the queue answers. -/
theorem exists_of_perform_eq_ok {m : Memory} {name : QueueName} {r : Request} {reply : r.Reply}
    {step : Queue → Except Failure r.Reply × Queue}
    (hstep : queueStep? m.now r = some (name, step)) (hok : (perform r m).1 = .ok reply) :
    ∃ q, m.queues.get? name.text = some q ∧ (step q).1 = .ok reply := by
  rcases m with ⟨queues, now, offline, count⟩
  cases offline with
  | true => cases hok
  | false =>
      have hanswer : (answer queues now r).1 = .ok reply := hok
      rw [answer_eq_onQueue hstep, onQueue_fst] at hanswer
      cases hq : queues.get? name.text with
      | none =>
          rw [hq] at hanswer
          cases hanswer
      | some q =>
          rw [hq] at hanswer
          exact ⟨q, rfl, hanswer⟩

/-- The store with its clock at an instant, and in reach. -/
def onlineAt (m : Memory) (t : Instant) : Memory := { m with now := t, offline := false }

/-- A store in reach answers a request of a queue that is there as the queue does. -/
theorem perform_onlineAt {m : Memory} {name : QueueName} {q : Queue} {t : Instant} {r : Request}
    {step : Queue → Except Failure r.Reply × Queue} (hstep : queueStep? t r = some (name, step))
    (hq : m.queues.get? name.text = some q) : (perform r (m.onlineAt t)).1 = (step q).1 :=
  (perform_of_queueStep? (m := m.onlineAt t) hstep rfl hq).1

variable {queues : SortedMap String Queue} {n : String} {life : Option (List Call)}

/-- A call that reports an error continues all lifetimes. -/
theorem continued_refused (hrel : Option.Rel Lifetime life (queues.get? n)) (r : Request)
    (e : QueueError) (now : Instant) :
    Option.Rel Lifetime (continued n life ⟨⟨r, .error e⟩, now⟩) (queues.get? n) := by
  rcases Call.neither_of_error n r e now with ⟨hcreates, hdrops⟩
  rw [continued, hcreates, hdrops]
  generalize queues.get? n = found at hrel
  cases hrel with
  | none => simp
  | some h =>
      simp only [Bool.false_eq_true, if_false]
      split
      · exact .some (h.step (.refused _ r e now))
      · exact .some h

/-- A request of one queue continues the lifetime of that queue by its step and leaves the
lifetimes of all others alone. -/
theorem continued_onQueue (hrel : Option.Rel Lifetime life (queues.get? n)) {r : Request}
    {name : QueueName} {now : Instant} {step : Queue → Except Failure r.Reply × Queue}
    (hstep : queueStep? now r = some (name, step)) {reply : Except QueueError r.Reply}
    (htold : told? (onQueue queues name step).1 = some reply) :
    Option.Rel Lifetime (continued n life ⟨⟨r, reply⟩, now⟩)
      ((onQueue queues name step).2.get? n) := by
  have habout : (⟨⟨r, reply⟩, now⟩ : Call).isAbout n = (name.text == n) := by
    simp [Call.isAbout, queue?_of_queueStep? hstep]
  have hcreates : (⟨⟨r, reply⟩, now⟩ : Call).creates n = false := by
    cases r <;> cases hstep <;> rfl
  have hdrops : (⟨⟨r, reply⟩, now⟩ : Call).drops n = false := by
    cases r <;> cases hstep <;> rfl
  rw [continued, hcreates, hdrops, habout, get?_onQueue]
  rw [onQueue_fst] at htold
  by_cases hn : n = name.text
  · subst hn
    generalize queues.get? name.text = found at hrel htold
    cases hrel with
    | none => simp
    | @some _ q h =>
        cases reply with
        | error e =>
            exact absurd (told?_eq_some_error_iff.1 htold) (queueStep_ne_reported hstep q e)
        | ok reply =>
            simpa using h.step (step_of_queueStep? hstep (told?_eq_some_ok_iff.1 htold))
  · have hne : ¬ name.text = n := fun h => hn h.symm
    simpa [hn, hne] using hrel

/-- The creation of a queue begins its lifetime anew and leaves all others alone; creating a
queue that is there is refused. -/
theorem continued_createQueue (hrel : Option.Rel Lifetime life (queues.get? n))
    {name : QueueName} {now : Instant} (call : Except QueueError Unit → Call)
    (hrefused : ∀ e, ∃ r, call (.error e) = ⟨⟨r, .error e⟩, now⟩)
    (hcreates : (call (.ok ())).creates n = (name.text == n))
    (hdrops : (call (.ok ())).drops n = false)
    (habout : (call (.ok ())).isAbout n = (name.text == n))
    {reply : Except QueueError Unit}
    (htold : told? (createQueue queues now name).1 = some reply) :
    Option.Rel Lifetime (continued n life (call reply))
      ((createQueue queues now name).2.get? n) := by
  unfold createQueue at htold ⊢
  split at htold <;> rename_i hcontains
  · cases htold
    rcases hrefused (.queueExists name.text) with ⟨r, hr⟩
    rw [hr, if_pos hcontains]
    exact continued_refused hrel r _ now
  · cases htold
    rw [if_neg hcontains, SortedMap.get?_insert, continued, hcreates, hdrops, habout]
    by_cases hn : n = name.text
    · subst hn
      simpa using Lifetime.created now
    · have hne : ¬ name.text = n := fun h => hn h.symm
      simpa [hn, hne] using hrel

/-- The drop of a queue ends its lifetime and leaves all others alone. -/
theorem continued_drop (hrel : Option.Rel Lifetime life (queues.get? n)) (name : QueueName)
    (now : Instant) :
    Option.Rel Lifetime
      (continued n life ⟨⟨.drop name, .ok (queues.contains name.text)⟩, now⟩)
      ((queues.erase name.text).get? n) := by
  have habout (reply) : (⟨⟨.drop name, reply⟩, now⟩ : Call).isAbout n = (name.text == n) := by
    simp [Call.isAbout, Request.queue?]
  have hcreates (reply) : (⟨⟨.drop name, reply⟩, now⟩ : Call).creates n = false := rfl
  rw [continued, habout, hcreates, SortedMap.get?_erase]
  by_cases hn : n = name.text
  · subst hn
    cases hfound : queues.get? name.text with
    | none =>
        rw [hfound] at hrel
        cases hrel
        simp [SortedMap.contains, hfound, Call.drops]
    | some q => simp [SortedMap.contains, hfound, Call.drops]
  · have hne : ¬ name.text = n := fun h => hn h.symm
    cases queues.contains name.text <;> simpa [Call.drops, hn, hne] using hrel

/-- A call continues the lifetimes of all queues. -/
theorem continued_perform {m : Memory} (hrel : Option.Rel Lifetime life (m.queues.get? n))
    {r : Request} {reply : Except QueueError r.Reply}
    (htold : told? (perform r m).1 = some reply) :
    Option.Rel Lifetime (continued n life ⟨⟨r, reply⟩, m.now⟩)
      ((perform r m).2.queues.get? n) := by
  rcases m with ⟨queues, now, offline, count⟩
  cases offline with
  | true =>
      cases htold
      exact continued_refused hrel r _ now
  | false =>
      simp only [perform, Bool.false_eq_true, if_false] at htold hrel ⊢
      cases hstep : queueStep? now r with
      | some p =>
          rcases p with ⟨name, step⟩
          rw [answer_eq_onQueue hstep] at htold ⊢
          exact continued_onQueue hrel hstep htold
      | none =>
          cases r with
          | create name =>
              exact continued_createQueue hrel (fun reply => ⟨⟨.create name, reply⟩, now⟩)
                (fun e => ⟨_, rfl⟩) rfl rfl rfl htold
          | createPartitioned name interval retention =>
              exact continued_createQueue hrel
                (fun reply => ⟨⟨.createPartitioned name interval retention, reply⟩, now⟩)
                (fun e => ⟨_, rfl⟩) rfl rfl rfl htold
          | drop name =>
              cases htold
              exact continued_drop hrel name now
          | list =>
              cases htold
              exact hrel
          | send | read | pop | setVisibility | delete | archive | metrics => cases hstep

/-- The queues of a store are those with a present incarnation, and each has lived through its
incarnation. -/
theorem lifetime_of_history {start : Instant} {moves : List Move} {calls : List Call}
    {m : Memory} (h : (new start).history moves = some (calls, m)) (n : String) :
    Option.Rel Lifetime (incarnation n calls) (m.queues.get? n) := by
  have hall : ∀ n, Option.Rel Lifetime (incarnation n calls) (m.queues.get? n) := by
    refine history_induction (P := fun calls queues => ∀ n,
      Option.Rel Lifetime (incarnation n calls) (queues.get? n)) ?_ ?_ h
    · intro n
      exact .none
    · rintro calls m m' ⟨r, reply⟩ hrel hmove n
      rcases move_request_iff.1 hmove with ⟨htold, rfl⟩
      rw [incarnation_concat]
      exact continued_perform (hrel n) htold
  exact hall n

/-- A queue of a store has lived through its present incarnation. -/
theorem exists_lifetime {start : Instant} {moves : List Move} {history : List Call}
    {m : Memory} (h : (new start).history moves = some (history, m)) {n : String} {q : Queue}
    (hq : m.queues.get? n = some q) :
    ∃ calls, incarnation n history = some calls ∧ Lifetime calls q := by
  have hrel := lifetime_of_history h n
  rw [hq] at hrel
  generalize incarnation n history = life at hrel
  cases hrel with
  | some hlife => exact ⟨_, rfl, hlife⟩

end Memory
end Store
end MessageQueue
