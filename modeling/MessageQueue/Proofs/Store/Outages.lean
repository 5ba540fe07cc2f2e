import MessageQueue.Proofs.Store.Lifecycle

/-!
# Failed calls and outages

A store that is cut off refuses every call with the same error, before it looks at anything else.
A store in reach reports that a name is taken to those who create a queue, and that a queue is
missing to those who use one, and nothing else.  Whatever it reports, it has changed nothing but the
count of its calls, and on that count no answer depends.  So the calls that are made during an
outage might as well not have been made.

Main results:

- Theorem `perform_eq_error_iff`: what a store reports, and when.
- Theorem `perform_of_error`: a call that reports an error changes nothing but the count of calls.
- Theorem `run_countedOn`: no answer of a run depends on the count of calls.
- Theorem `run_refused`: while the store is cut off, requests can be left out of a run.
- Theorem `fails_cleanly`: all of this for every store.
-/

namespace MessageQueue
namespace Store
namespace Memory

variable {m m' : Memory} {r : Request} {e : QueueError} {name : QueueName}

/-! ## What is reported -/

/-- What a store reports to a request: that it is cut off; or else that the queue to be created is
there, or that the queue to be used is not. -/
inductive Reports (m : Memory) (r : Request) : QueueError → Prop where
  | cutOff (hoffline : m.offline = true) : Reports m r offlineError
  | taken {name : QueueName} (honline : m.offline = false) (hcreates : r.creates? = some name)
      (hthere : m.queues.contains name.text = true) : Reports m r (.queueExists name.text)
  | missing {name : QueueName} (honline : m.offline = false) (hneeds : r.needs? = some name)
      (hmissing : m.queues.contains name.text = false) : Reports m r (.queueNotFound name.text)

/-- A store in reach refuses to create exactly the queues that are there. -/
theorem perform_creates_eq_error_iff (h : r.creates? = some name) (honline : m.offline = false) :
    (perform r m).1 = .error (.reported e) ↔
      m.queues.contains name.text = true ∧ .queueExists name.text = e := by
  rcases m with ⟨queues, now, offline, count⟩
  cases honline
  have hreply : (perform r ⟨queues, now, false, count⟩).1 = .error (.reported e) ↔
      (createQueue queues now name).1 = .error (.reported e) := by
    cases r <;> cases h <;> exact Iff.rfl
  rw [hreply, createQueue_fst, SortedMap.contains]
  cases queues.get? name.text <;> simp

/-- A store in reach misses exactly the queues that are not there. -/
theorem perform_needs_eq_error_iff (h : r.needs? = some name) (honline : m.offline = false) :
    (perform r m).1 = .error (.reported e) ↔
      m.queues.contains name.text = false ∧ .queueNotFound name.text = e := by
  rcases m with ⟨queues, now, offline, count⟩
  cases honline
  rcases perform_needs (m := ⟨queues, now, false, count⟩) h now with ⟨hmissed, hfound⟩
  constructor
  · intro hreply
    cases hthere : queues.contains name.text with
    | true => exact absurd hreply (hfound hthere e)
    | false =>
        have hmissing := hmissed.2 hthere
        rw [onlineAt, hreply] at hmissing
        cases hmissing
        exact ⟨rfl, rfl⟩
  · rintro ⟨hthere, rfl⟩
    exact hmissed.2 hthere

/-- A store in reach drops and lists queues without fail. -/
theorem perform_ne_error (hcreates : r.creates? = none) (hneeds : r.needs? = none)
    (honline : m.offline = false) (f : Failure) : (perform r m).1 ≠ .error f := by
  rcases m with ⟨queues, now, offline, count⟩
  cases honline
  cases r with
  | drop | list => simp [perform, answer]
  | create | createPartitioned => cases hcreates
  | send | read | pop | setVisibility | delete | archive | metrics => cases hneeds

/-- What a store reports to a request, and when. -/
theorem perform_eq_error_iff : (perform r m).1 = .error (.reported e) ↔ Reports m r e := by
  cases hoffline : m.offline with
  | true =>
      rw [perform_offline r hoffline]
      constructor
      · intro h
        cases h
        exact .cutOff hoffline
      · rintro (_ | ⟨honline, -, -⟩ | ⟨honline, -, -⟩)
        · rfl
        · cases hoffline.symm.trans honline
        · cases hoffline.symm.trans honline
  | false =>
      constructor
      · intro h
        cases hcreates : r.creates? with
        | some name =>
            rcases (perform_creates_eq_error_iff hcreates hoffline).1 h with ⟨hthere, rfl⟩
            exact .taken hoffline hcreates hthere
        | none =>
            cases hneeds : r.needs? with
            | some name =>
                rcases (perform_needs_eq_error_iff hneeds hoffline).1 h with ⟨hmissing, rfl⟩
                exact .missing hoffline hneeds hmissing
            | none => exact absurd h (perform_ne_error hcreates hneeds hoffline _)
      · rintro (hcut | ⟨-, hcreates, hthere⟩ | ⟨-, hneeds, hmissing⟩)
        · cases hoffline.symm.trans hcut
        · exact (perform_creates_eq_error_iff hcreates hoffline).2 ⟨hthere, rfl⟩
        · exact (perform_needs_eq_error_iff hneeds hoffline).2 ⟨hmissing, rfl⟩

/-! ## What is left unchanged -/

/-- The store with more calls counted. -/
def countedOn (m : Memory) (n : Nat) : Memory := { m with calls := m.calls + n }

@[simp]
theorem countedOn_countedOn (m : Memory) (n k : Nat) :
    (m.countedOn n).countedOn k = m.countedOn (n + k) := by
  simp [countedOn, Nat.add_assoc]

/-- A request that reports an error while the store is in reach leaves the queues as they are. -/
theorem answer_of_error {queues : SortedMap String Queue} {now : Time.Instant}
    (h : (answer queues now r).1 = .error (.reported e)) : (answer queues now r).2 = queues := by
  cases hstep : queueStep? now r with
  | some p =>
      rcases p with ⟨name, step⟩
      rw [answer_eq_onQueue hstep, onQueue_fst] at h
      rw [answer_eq_onQueue hstep]
      apply SortedMap.ext_get?
      intro n
      rw [get?_onQueue]
      cases hq : queues.get? name.text with
      | none => by_cases hn : n = name.text <;> simp [hn, hq]
      | some q =>
          rw [hq] at h
          exact absurd h (queueStep_ne_reported hstep q e)
  | none =>
      cases r with
      | create name | createPartitioned name _ _ =>
          simp only [answer, createQueue] at h ⊢
          split at h <;> rename_i hthere
          · rw [if_pos hthere]
          · cases h
      | drop | list => cases h
      | send | read | pop | setVisibility | delete | archive | metrics => cases hstep

/-- A call that reports an error changes nothing but the count of calls. -/
theorem perform_of_error (h : (perform r m).1 = .error (.reported e)) :
    (perform r m).2 = m.countedOn 1 := by
  rcases m with ⟨queues, now, offline, count⟩
  cases offline with
  | true => rfl
  | false =>
      have hqueues : (answer queues now r).2 = queues := answer_of_error h
      simp [perform, countedOn, hqueues]

/-! ## What does not depend on the count of calls -/

/-- No answer depends on the count of calls. -/
theorem perform_countedOn (r : Request) (m : Memory) (n : Nat) :
    perform r (m.countedOn n) = ((perform r m).1, (perform r m).2.countedOn n) := by
  rcases m with ⟨queues, now, offline, count⟩
  cases offline <;> simp [perform, countedOn, Nat.add_right_comm]

theorem move_countedOn (m : Memory) (n : Nat) (a : Move) :
    (m.countedOn n).move a = (m.move a).map fun (first, m') => (first, m'.countedOn n) := by
  cases a with
  | request r => simp [move, perform_countedOn, Function.comp_def]
  | advance nanoseconds => simp [move, advance, countedOn, Function.comp_def]
  | setOffline offline => rfl

/-- No answer of a run depends on the count of calls. -/
theorem run_countedOn (m : Memory) (n : Nat) (moves : List Move) :
    (m.countedOn n).run moves =
      (m.run moves).map fun (exchanges, m') => (exchanges, m'.countedOn n) := by
  induction moves generalizing m with
  | nil => rfl
  | cons a rest ih =>
      simp only [run, move_countedOn]
      cases m.move a with
      | none => rfl
      | some p =>
          rcases p with ⟨first, m'⟩
          simp [ih, Function.comp_def]

/-! ## Outages -/

/-- The exchanges of the requests among some moves while the store is cut off. -/
def refusals (moves : List Move) : List Exchange :=
  moves.filterMap fun
    | .request r => some ⟨r, .error offlineError⟩
    | .advance _ | .setOffline _ => none

/-- The moves without the requests among them. -/
def quiet (moves : List Move) : List Move :=
  moves.filter fun
    | .request _ => false
    | .advance _ | .setOffline _ => true

/-- A request that is made while the store is cut off is refused and counted. -/
theorem move_refused (hoffline : m.offline = true) (r : Request) :
    m.move (.request r) = some ([⟨r, .error offlineError⟩], m.countedOn 1) := by
  simp [move, perform_offline r hoffline, told?, countedOn]

/-- As long as the store stays cut off, a run does the same without the requests, but for the
refusals of these and the count of calls. -/
theorem run_refused (hoffline : m.offline = true) {during : List Move}
    (hduring : .setOffline false ∉ during) (after : List Move) :
    m.run (during ++ after) = (m.run (quiet during ++ after)).map fun (later, m') =>
      (refusals during ++ later, m'.countedOn (refusals during).length) := by
  -- every move before the end of the outage leaves the store cut off
  induction during generalizing m with
  | nil => simp [quiet, refusals, countedOn]
  | cons a rest ih =>
      rcases List.ne_and_not_mem_of_not_mem_cons hduring with ⟨ha, hrest⟩
      cases a with
      | request r =>
          have hquiet : quiet (.request r :: rest) = quiet rest := rfl
          have hrefusals : refusals (.request r :: rest) =
              ⟨r, .error offlineError⟩ :: refusals rest := rfl
          rw [List.cons_append, run, move_refused hoffline, hquiet, hrefusals]
          simp [run_countedOn, ih hoffline hrest, Function.comp_def]
      | advance nanoseconds =>
          have hquiet : quiet (.advance nanoseconds :: rest) =
              .advance nanoseconds :: quiet rest := rfl
          have hrefusals : refusals (.advance nanoseconds :: rest) = refusals rest := rfl
          rw [hquiet, hrefusals, List.cons_append, List.cons_append, run, run]
          cases hmove : m.move (.advance nanoseconds) with
          | none => rfl
          | some p =>
              rcases p with ⟨first, next⟩
              have hnext : first = [] ∧ next.offline = true := by
                simp only [move, advance, Option.map_map, Option.map_eq_some_iff] at hmove
                rcases hmove with ⟨now, -, heq⟩
                cases heq
                exact ⟨rfl, hoffline⟩
              rcases hnext with ⟨rfl, hnext⟩
              simp [ih hnext hrest, Function.comp_def]
      | setOffline offline =>
          cases offline with
          | false => exact absurd rfl ha
          | true =>
              have hquiet : quiet (.setOffline true :: rest) = .setOffline true :: quiet rest := rfl
              have hrefusals : refusals (.setOffline true :: rest) = refusals rest := rfl
              rw [hquiet, hrefusals, List.cons_append, List.cons_append, run, run]
              have hnext : (m.setOffline true).offline = true := rfl
              simp [move, ih hnext hrest, Function.comp_def]

/-! ## All together -/

/-- The calls of a store fail cleanly. -/
structure FailsCleanly (m : Memory) : Prop where
  /-- Every call counts once, whatever comes of it. -/
  counted : ∀ r, (perform r m).2.calls = m.calls + 1
  /-- A call that reports an error leaves the queues, the clock and the way to the store alone. -/
  unchanged : ∀ r e, (perform r m).1 = .error (.reported e) →
    (perform r m).2 = { m with calls := m.calls + 1 }
  /-- The error is one of the connection exactly when the store is cut off, and then every request
  gets it. -/
  connection : ∀ r, ((∃ reason, (perform r m).1 = .error (.reported (.connection reason))) ↔
    m.offline = true)
  /-- In reach, the store reports only names that are taken, to those who create a queue, and queues
  that are missing, to those who use one. -/
  inReach : m.offline = false → ∀ r e, (perform r m).1 = .error (.reported e) ↔
    (∃ name, r.creates? = some name ∧ m.queues.contains name.text = true ∧
        e = .queueExists name.text) ∨
      ∃ name, r.needs? = some name ∧ m.queues.contains name.text = false ∧
        e = .queueNotFound name.text
  /-- Whatever is called during an outage, the run goes on as if it had not been called: the calls
  are refused, all later ones get the same replies, and the store differs in the count of calls
  alone. -/
  outage : ∀ during after : List Move, .setOffline false ∉ during →
    m.run (.setOffline true :: (during ++ .setOffline false :: after)) =
      (m.run (.setOffline true :: (quiet during ++ .setOffline false :: after))).map
        fun (later, m') =>
          (refusals during ++ later, { m' with calls := m'.calls + (refusals during).length })

/-- Every store fails cleanly: its failed calls leave no trace but in the count of calls. -/
theorem fails_cleanly (m : Memory) : FailsCleanly m := by
  constructor
  · intro r
    exact calls_perform r m
  · intro r e h
    exact perform_of_error h
  · intro r
    constructor
    · rintro ⟨reason, h⟩
      cases perform_eq_error_iff.1 h with
      | cutOff hoffline => exact hoffline
    · intro hoffline
      exact ⟨_, perform_eq_error_iff.2 (.cutOff hoffline)⟩
  · intro honline r e
    rw [perform_eq_error_iff]
    constructor
    · rintro (hcut | ⟨-, hcreates, hthere⟩ | ⟨-, hneeds, hmissing⟩)
      · cases honline.symm.trans hcut
      · exact .inl ⟨_, hcreates, hthere, rfl⟩
      · exact .inr ⟨_, hneeds, hmissing, rfl⟩
    · rintro (⟨name, hcreates, hthere, rfl⟩ | ⟨name, hneeds, hmissing, rfl⟩)
      · exact .taken honline hcreates hthere
      · exact .missing honline hneeds hmissing
  · intro during after hduring
    have hcut : (m.setOffline true).offline = true := rfl
    simp only [run, move]
    rw [run_refused hcut hduring]
    simp [countedOn, Function.comp_def]

end Memory
end Store
end MessageQueue
