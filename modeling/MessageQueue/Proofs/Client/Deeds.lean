import MessageQueue.Proofs.Client.Operations
import MessageQueue.Proofs.Store.Metrics
import MessageQueue.Proofs.Store.Overflow

/-!
# Runs of stores and clients

A store in memory is run by its own moves and by the operations of clients.  An operation makes at
most one request, so that such a run is one of moves to the store, and its history is theirs.  A
clock that stays 2³¹ seconds away from both ends of the range of instants lets every run go through
whose timeouts have 32 bits and that delivers no message 2³¹ times.  Wherever the clock has been,
requests fail at the ends of time alone.

Main results:

- Theorem `Deed.exists_act`: inside the range of instants a deed goes through.
- Theorem `exists_run`: so does a run whose clock stays inside.
- Theorem `staysWithin_of_short`: fewer than 2³¹ deeds deliver no message so often.
- Theorem `history_of_run`: to the store a run is one of moves.
- Theorem `panics_only_at_ends`: what can fail in the stores that runs lead to, inside the range and
  at its ends.
-/

namespace MessageQueue

open Store (Call Lifetime Memory Move Queue WithinLimits incarnation)
open Text (IntType)
open Time (Instant)
open Time.Instant (FitsSpan)

/-! ## Histories in two parts -/

namespace Store.Memory

/-- The history of some moves after others continues theirs. -/
theorem history_append {m m' m'' : Memory} {as bs : List Move} {first more : List Call}
    (has : m.history as = some (first, m')) (hbs : m'.history bs = some (more, m'')) :
    m.history (as ++ bs) = some (first ++ more, m'') := by
  induction as generalizing m first with
  | nil =>
      cases has
      exact hbs
  | cons a rest ih =>
      rcases history_cons_eq_some_iff.1 has with ⟨begun, m₁, later, hmove, hrest, rfl⟩
      rw [List.cons_append, List.append_assoc]
      exact history_cons_eq_some_iff.2 ⟨begun, m₁, _, hmove, ih hrest, rfl⟩

/-- A history has a call for each move at most. -/
theorem length_history_le {m m' : Memory} {moves : List Move} {calls : List Call}
    (h : m.history moves = some (calls, m')) : calls.length ≤ moves.length := by
  induction moves generalizing m calls with
  | nil =>
      cases h
      exact Nat.le_refl 0
  | cons a rest ih =>
      rcases history_cons_eq_some_iff.1 h with ⟨first, m₁, more, hmove, hrest, rfl⟩
      have hmore := ih hrest
      rcases move_exchanges hmove with ⟨rfl, -⟩ | ⟨e, -, rfl⟩
      · simp only [List.map_nil, List.nil_append, List.length_cons]
        omega
      · simp only [List.map_cons, List.map_nil, List.cons_append, List.nil_append,
          List.length_cons]
        omega

/-- A request that does not panic is a history of one call. -/
theorem exists_history_request {m : Memory} {r : Request}
    (h : (perform r m).1 ≠ .error .overflow) :
    ∃ calls, m.history [.request r] = some (calls, (perform r m).2) := by
  rcases exists_told h with ⟨reply, htold⟩
  have hmove := move_request_iff.2 ⟨htold, rfl⟩
  exact ⟨_, history_cons_eq_some_iff.2 ⟨_, _, [], hmove, rfl, rfl⟩⟩

/-- In a short history no message was delivered too often. -/
theorem deliversWithin_of_short {m : Memory} {history : List Call}
    (hlife : m.LivedThrough history) (hshort : history.length + 1 < 2 ^ 31) (r : Request) :
    DeliversWithin history m r := by
  intro name _ calls hcalls e _
  have hrel := hlife name.text
  rw [hcalls] at hrel
  have hlength := (incarnation_sublist hcalls).length_le
  generalize m.queues.get? name.text = there at hrel
  cases hrel with
  | some hlived =>
      have honce := hlived.length_delivered_le e.1
      omega

end Store.Memory

namespace Client

/-! ## Operations on a store in memory -/

namespace Operation

variable {α : Type}

/-- The visibility timeout that an operation comes with, if it gives one. -/
def timeout? : Operation → Option Int
  | read _ vt | readBatch _ vt _ => vt
  | setVisibility _ _ vt => some vt
  | _ => none

/-- The request of a plan has a timeout of 32 bits if that of the operation and the default have. -/
theorem Plans.typed {v : Int} {d : Message.Decoder α} {o : Operation} {plan : Plan (o.Result α)}
    (h : Plans v d o plan) (hdefault : IntType.signed32.contains v = true)
    (htimeout : ∀ vt ∈ o.timeout?, IntType.signed32.contains vt = true) : plan.request.Typed := by
  intro vt hvt
  cases h with
  | read name given | readBatch name given limit =>
      cases hvt
      cases given with
      | none => exact hdefault
      | some vt => exact htimeout vt rfl
  | setVisibility name id vt =>
      cases hvt
      exact htimeout vt rfl
  | create | createPartitioned | createPlain | createInPartitions | send | sendDelayed | pop
  | archive | delete | drop | list | metrics => cases hvt

/-- A plan panics exactly when its request does. -/
theorem Plan.finish_eq_overflow_iff {σ β : Type} (plan : Plan β)
    (answer : Except Failure plan.request.Reply × World σ) :
    (plan.finish answer).1 = .error .overflow ↔ answer.1 = .error .overflow := by
  rcases answer with ⟨f | reply, w⟩
  · simp [Plan.finish]
  · cases h : plan.conclude reply <;> simp [Plan.finish, h]

end Operation

/-! ## Deeds -/

/-- One thing that happens to a store in memory: a move of its own, or an operation of a client. -/
inductive Deed where
  | move (a : Move)
  | operation {α : Type} (defaultVisibility : Int) (d : Message.Decoder α) (o : Operation)

/-- The world after some work, unless the work panicked. -/
def survivor {α : Type} : Except Failure α × World Memory → Option (World Memory)
  | (.error .overflow, _) => none
  | (_, w) => some w

namespace Deed

/-- The world after a deed. -/
def act (w : World Memory) : Deed → Option (World Memory)
  | move (.request r) => survivor (Memory.store r w)
  | move (.advance nanoseconds) =>
    (w.store.advance nanoseconds).map fun m => { w with store := m }
  | move (.setOffline offline) => some { w with store := w.store.setOffline offline }
  | operation defaultVisibility d o => survivor (o.run ⟨Memory.store, defaultVisibility⟩ d w)

/-- What a deed is to the store. -/
def moves (w : World Memory) : Deed → List Move
  | move a => [a]
  | operation defaultVisibility d o =>
    (o.requests ⟨Memory.store, defaultVisibility⟩ d w).map .request

/-- The clock after a deed. -/
def clock (t : Instant) : Deed → Option Instant
  | move (.advance nanoseconds) => t.addNanoseconds? nanoseconds
  | _ => some t

/-- All visibility timeouts of a deed are numbers of 32 bits. -/
def Typed : Deed → Prop
  | move (.request r) => r.Typed
  | move _ => True
  | operation defaultVisibility _ o =>
    IntType.signed32.contains defaultVisibility = true ∧
      ∀ vt ∈ o.timeout?, IntType.signed32.contains vt = true

end Deed

/-- The moves of a run of deeds and the world after it. -/
def runDeeds (w : World Memory) : List Deed → Option (List Move × World Memory)
  | [] => some ([], w)
  | deed :: rest =>
    match deed.act w with
    | none => none
    | some w' => (runDeeds w' rest).map fun (more, w'') => (deed.moves w ++ more, w'')

/-- Every value that the clock has during some deeds is inside the range of instants. -/
inductive StaysInside : Instant → List Deed → Prop where
  | nil {t : Instant} (h : t.Inside) : StaysInside t []
  | cons {t t' : Instant} {deed : Deed} {rest : List Deed} (h : t.Inside)
      (hclock : deed.clock t = some t') (hrest : StaysInside t' rest) : StaysInside t (deed :: rest)

/-- Along some deeds, in a world with some history, no message is delivered for the 2³¹st time. -/
inductive StaysWithin : List Call → World Memory → List Deed → Prop where
  | nil {history : List Call} {w : World Memory} : StaysWithin history w []
  | cons {history : List Call} {w : World Memory} {deed : Deed} {rest : List Deed}
      (h : ∀ r, .request r ∈ deed.moves w → Memory.DeliversWithin history w.store r)
      (hrest : ∀ w' calls, deed.act w = some w' →
        w.store.history (deed.moves w) = some (calls, w'.store) →
          StaysWithin (history ++ calls) w' rest) : StaysWithin history w (deed :: rest)

/-! ## One deed -/

/-- Work around a store in memory comes to one request: it panics when the request does, and leaves
the store that the request leaves. -/
structure ComesTo {α : Type} (r : Request) (m : Memory) (result : Except Failure α × World Memory) :
    Prop where
  overflow : result.1 = .error .overflow ↔ (Memory.perform r m).1 = .error .overflow
  store : result.2.store = (Memory.perform r m).2

namespace ComesTo

variable {α : Type} {w w' : World Memory} {r : Request} {result : Except Failure α × World Memory}

theorem survivor_eq_some_iff :
    survivor result = some w ↔ result.1 ≠ .error .overflow ∧ result.2 = w := by
  rcases result with ⟨(_ | _) | _, _⟩ <;> simp [survivor]

/-- A request by itself. -/
theorem of_request (r : Request) (w : World Memory) : ComesTo r w.store (Memory.store r w) :=
  ⟨Iff.rfl, rfl⟩

/-- A planned operation comes to the request of its plan. -/
theorem of_plan {v : Int} {d : Message.Decoder α} {o : Operation}
    {plan : Operation.Plan (o.Result α)} (hplan : Operation.Plans v d o plan)
    (hrefusal : o.refusal v = none) (w : World Memory) :
    ComesTo plan.request w.store (o.run ⟨Memory.store, v⟩ d w) := by
  have hrun : o.run ⟨Memory.store, v⟩ d w = plan.finish (Memory.store plan.request w) :=
    Operation.run_planned hplan hrefusal
  rw [hrun]
  exact ⟨plan.finish_eq_overflow_iff _, plan.finish_store _⟩

/-- The work goes through when the request does not panic. -/
theorem exists_survivor (h : ComesTo r w.store result)
    (hfinds : (Memory.perform r w.store).1 ≠ .error .overflow) :
    ∃ w', survivor result = some w' ∧ w'.store.now = w.store.now := by
  refine ⟨result.2, survivor_eq_some_iff.2 ⟨mt h.overflow.1 hfinds, rfl⟩, ?_⟩
  rw [h.store, Memory.now_perform]

/-- Work that goes through is the request to the store. -/
theorem history_of_survivor (h : ComesTo r w.store result) (hgoes : survivor result = some w') :
    ∃ calls, w.store.history [.request r] = some (calls, w'.store) := by
  rcases survivor_eq_some_iff.1 hgoes with ⟨hfinds, rfl⟩
  rw [h.store]
  exact Memory.exists_history_request (mt h.overflow.2 hfinds)

end ComesTo

namespace Deed

variable {w w' : World Memory} {deed : Deed}

/-- Inside the range of instants a deed that delivers no spent message goes through, unless it moves
the clock out of its range. -/
theorem exists_act (hinside : w.store.now.Inside) (htyped : deed.Typed)
    (hdue : ∀ r, .request r ∈ deed.moves w → ∀ e ∈ w.store.due r, ¬e.2.Spent) {t : Instant}
    (hclock : deed.clock w.store.now = some t) :
    ∃ w', deed.act w = some w' ∧ w'.store.now = t := by
  cases deed with
  | move a =>
      cases a with
      | request r =>
          cases hclock
          exact (ComesTo.of_request r w).exists_survivor
            (Memory.perform_ne_overflow hinside htyped (hdue r (List.mem_singleton_self _)))
      | advance nanoseconds =>
          have hnow : w.store.now.addNanoseconds? nanoseconds = some t := hclock
          refine ⟨{ w with store := { w.store with now := t } }, ?_, rfl⟩
          simp [act, Memory.advance, hnow]
      | setOffline offline =>
          cases hclock
          exact ⟨_, rfl, rfl⟩
  | operation v d o =>
      cases hclock
      cases hrefusal : o.refusal v with
      | some e =>
          have hrun : o.run ⟨Memory.store, v⟩ d w = (.error (.reported e), w) :=
            Operation.run_refused hrefusal
          refine ⟨w, ?_, rfl⟩
          rw [act, hrun]
          rfl
      | none =>
          obtain ⟨plan, hplan⟩ := Operation.exists_plan d hrefusal
          have hrequest := hplan.typed htyped.1 htyped.2
          have hmoves : moves w (.operation v d o) = [.request plan.request] :=
            congrArg _ (Operation.requests_of_planned hplan hrefusal)
          rw [hmoves] at hdue
          exact (ComesTo.of_plan hplan hrefusal w).exists_survivor
            (Memory.perform_ne_overflow hinside hrequest (hdue _ (List.mem_singleton_self _)))

/-- To the store a deed that goes through is the moves that it makes. -/
theorem history_of_act (h : deed.act w = some w') :
    ∃ calls, w.store.history (deed.moves w) = some (calls, w'.store) := by
  cases deed with
  | move a =>
      cases a with
      | request r => exact (ComesTo.of_request r w).history_of_survivor h
      | advance nanoseconds =>
          rcases Option.map_eq_some_iff.1 h with ⟨m, hm, rfl⟩
          refine ⟨[], Memory.history_cons_eq_some_iff.2 ⟨[], m, [], ?_, rfl, rfl⟩⟩
          simp [Memory.move, hm]
      | setOffline offline =>
          cases h
          exact ⟨[], rfl⟩
  | operation v d o =>
      cases hrefusal : o.refusal v with
      | some e =>
          have hrun : o.run ⟨Memory.store, v⟩ d w = (.error (.reported e), w) :=
            Operation.run_refused hrefusal
          have hmoves : moves w (.operation v d o) = [] :=
            congrArg _ (Operation.requests_of_refused hrefusal)
          rw [act, hrun] at h
          cases h
          exact ⟨[], by rw [hmoves]; rfl⟩
      | none =>
          obtain ⟨plan, hplan⟩ := Operation.exists_plan d hrefusal
          have hmoves : moves w (.operation v d o) = [.request plan.request] :=
            congrArg _ (Operation.requests_of_planned hplan hrefusal)
          rw [hmoves]
          exact (ComesTo.of_plan hplan hrefusal w).history_of_survivor h

end Deed

/-! ## Runs -/

variable {w w' : World Memory} {deeds : List Deed}

/-- A deed is at most one move. -/
theorem Deed.length_moves_le (deed : Deed) (w : World Memory) : (deed.moves w).length ≤ 1 := by
  cases deed with
  | move a => exact Nat.le_refl 1
  | operation v d o =>
      rw [moves, List.length_map]
      cases hrefusal : o.refusal v with
      | some e =>
          rw [Operation.requests_of_refused hrefusal]
          exact Nat.zero_le 1
      | none =>
          obtain ⟨plan, hplan⟩ := Operation.exists_plan d hrefusal
          rw [Operation.requests_of_planned hplan hrefusal]
          exact Nat.le_refl 1

/-- Fewer than 2³¹ deeds deliver no message too often. -/
theorem staysWithin_of_short {start : Instant} {before : List Move} {history : List Call}
    (hbefore : (Memory.new start).history before = some (history, w.store))
    (hshort : history.length + deeds.length < 2 ^ 31) : StaysWithin history w deeds := by
  induction deeds generalizing w before history with
  | nil => exact .nil
  | cons deed rest ih =>
      rw [List.length_cons] at hshort
      refine .cons (fun r _ => ?_) fun w' calls _ hcalls => ?_
      · exact Memory.deliversWithin_of_short (Memory.lifetime_of_history hbefore) (by omega) r
      · have hlength := Memory.length_history_le hcalls
        have hone := deed.length_moves_le w
        refine ih (Memory.history_append hbefore hcalls) ?_
        rw [List.length_append]
        omega

/-- A run goes through whose clock stays inside the range of instants, and that delivers no message
too often. -/
theorem exists_run {start : Instant} {before : List Move} {history : List Call}
    (hbefore : (Memory.new start).history before = some (history, w.store))
    (htyped : ∀ deed ∈ deeds, deed.Typed) (h : StaysInside w.store.now deeds)
    (hwithin : StaysWithin history w deeds) :
    ∃ moves w', runDeeds w deeds = some (moves, w') ∧ w'.store.now.Inside := by
  induction deeds generalizing w before history with
  | nil =>
      cases h with
      | nil hinside => exact ⟨[], w, rfl, hinside⟩
  | cons deed rest ih =>
      cases h with
      | cons hinside hclock hrest =>
          cases hwithin with
          | cons hdelivers hlater =>
              have hlife : w.store.LivedThrough history := Memory.lifetime_of_history hbefore
              have hdue := fun r hr => hlife.not_spent (hdelivers r hr)
              rcases Deed.exists_act hinside (htyped deed List.mem_cons_self) hdue hclock with
                ⟨w₁, hact, rfl⟩
              rcases Deed.history_of_act hact with ⟨calls, hcalls⟩
              rcases ih (Memory.history_append hbefore hcalls)
                (fun d hd => htyped d (List.mem_cons_of_mem deed hd)) hrest
                (hlater w₁ calls hact hcalls) with ⟨more, w', hrun, hend⟩
              refine ⟨deed.moves w ++ more, w', ?_, hend⟩
              simp only [runDeeds, hact, hrun, Option.map_some]

/-- To the store a run is the moves that it makes. -/
theorem history_of_run {moves : List Move} (h : runDeeds w deeds = some (moves, w')) :
    ∃ history, w.store.history moves = some (history, w'.store) := by
  induction deeds generalizing w moves with
  | nil =>
      cases h
      exact ⟨[], rfl⟩
  | cons deed rest ih =>
      rw [runDeeds] at h
      cases hact : deed.act w with
      | none => simp [hact] at h
      | some w₁ =>
          simp only [hact] at h
          rcases Option.map_eq_some_iff.1 h with ⟨⟨more, w''⟩, hrest, heq⟩
          cases heq
          rcases Deed.history_of_act hact with ⟨begun, hbegun⟩
          rcases ih hrest with ⟨later, hlater⟩
          exact ⟨begun ++ later, Memory.history_append hbegun hlater⟩

/-! ## What can fail -/

/-- Nothing can fail in a store that has lived through a history within the limits, as its clock
stands. -/
structure Safe (history : List Call) (m : Memory) : Prop where
  /-- There is an instant for every timeout of 32 bits. -/
  added : ∀ vt, IntType.signed32.contains vt = true → (m.now.addSeconds? vt).isSome = true
  /-- The age of every live message is a span. -/
  subtracted : ∀ n q id stored, m.queues.get? n = some q → q.live.get? id = some stored →
    FitsSpan (m.now.nanosecondsSince stored.enqueuedAt)
  /-- The counters have not left their types. -/
  counted : WithinLimits history → ∀ n q, m.queues.get? n = some q → q.CountersFit
  /-- No further request fails, if it keeps within the limits. -/
  requests : ∀ r, r.Typed → m.KeepsLimits history r → ¬ m.Panics r

/-- A store whose clock is inside the range of instants is safe. -/
theorem safe_of_inside {history : List Call} {m : Memory} (hlife : m.LivedThrough history)
    (hinside : m.now.Inside) : Safe history m where
  added := fun _ hvt => hinside.isSome_addSeconds? hvt
  subtracted := fun _ _ _ _ _ _ => Instant.fitsSpan_nanosecondsSince _ _
  counted := fun hlimits _ _ hq => hlife.countersFit hlimits hq
  requests := fun _ hr hlimits => Memory.not_panics hlife hlimits
    (Memory.perform_ne_overflow hinside hr (hlife.not_spent hlimits.delivers))

/-- Runs from the empty store at an instant fail at the ends of time alone. -/
structure PanicsOnlyAtEnds (start : Instant) : Prop where
  /-- A run whose clock stays inside the range of instants, and that delivers no message 2³¹ times,
  goes through, and leads to a store in which nothing can fail.  Every beginning of such a run is
  one too. -/
  inside : ∀ deeds : List Deed, (∀ deed ∈ deeds, deed.Typed) → StaysInside start deeds →
    StaysWithin [] (.ofStore (.new start)) deeds →
      ∃ moves w history, runDeeds (.ofStore (.new start)) deeds = some (moves, w) ∧
        (Memory.new start).history moves = some (history, w.store) ∧ Safe history w.store
  /-- To deliver a message 2³¹ times takes as many deeds. -/
  within : ∀ deeds : List Deed, deeds.length < 2 ^ 31 →
    StaysWithin [] (.ofStore (.new start)) deeds
  /-- Wherever the clock has been, a run leads to queues that fail at the ends of time alone. -/
  anywhere : ∀ deeds moves w, runDeeds (.ofStore (.new start)) deeds = some (moves, w) →
    ∃ history, (Memory.new start).history moves = some (history, w.store) ∧
      ∀ (name : QueueName) q, w.store.queues.get? name.text = some q →
        w.store.PanicsAtEnds history name q

/-- Every run of a store and its clients from the empty store fails at the ends of time alone. -/
theorem panics_only_at_ends (start : Instant) : PanicsOnlyAtEnds start := by
  have hbefore : (Memory.new start).history [] = some ([], .new start) := rfl
  constructor
  · intro deeds htyped hclock hwithin
    rcases exists_run (w := .ofStore (.new start)) hbefore htyped hclock hwithin with
      ⟨moves, w, hrun, hinside⟩
    rcases history_of_run hrun with ⟨history, hhistory⟩
    exact ⟨moves, w, history, hrun, hhistory,
      safe_of_inside (Memory.lifetime_of_history hhistory) hinside⟩
  · intro deeds hshort
    exact staysWithin_of_short hbefore (by simpa using hshort)
  · intro deeds moves w hrun
    rcases history_of_run hrun with ⟨history, hhistory⟩
    exact ⟨history, hhistory, fun _ _ hq =>
      Memory.panicsAtEnds (Memory.lifetime_of_history hhistory) hq⟩

/-- A clock that goes on for a day from 1970, around a read of a client. -/
example : StaysInside .epoch [.move (.request (.create Store.jobs)),
    .operation 30 Message.anyPayload (.read "jobs" none), .move (.advance 86400000000000)] :=
  .cons (by decide) rfl (.cons (by decide) rfl (.cons (by decide) rfl (.nil (by decide))))

end Client
end MessageQueue
