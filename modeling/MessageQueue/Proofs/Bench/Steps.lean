import MessageQueue.Bench.Loops
import MessageQueue.Proofs.Store.Turnover

/-!
# Steps of loops over a queue

A loop works on one queue of a store in reach while nobody else does and the clock of the store
stands still.  Each step of it finds the queue in some state, ends with a value, and leaves the
queue in another state; on the way it calls the store and waits.  Calls and waits of steps in a row
add up, so what a loop comes to is put together from its steps.  A step may also stop the loop, as a
read does that panics.

Main results:

- Theorem `Runs.bind`: what two steps in a row come to.
- Theorems `Stops.bind` and `Stops.after`: steps in a row stop as one of them does.
- Theorem `runs_call`: a client's operation comes to one call.
- Theorems `timedRead_first`, `timedRead_nothing` and `timedRead_spent`: a read takes the first
  visible message, finds nothing, or stops the loop.
- Theorems `timedSend_runs`, `timedRead_runs`, `timedArchive_runs` and `timedDelete_runs`: what the
  timed steps come to.
-/

namespace MessageQueue

/-- The text of a name has no fault. -/
@[simp]
theorem Client.Operation.nameFault_text (name : QueueName) : nameFault name.text = none := by
  rw [nameFault, QueueName.ofString_eq_ok_iff.2 rfl]

namespace Bench

open Store
open Time (Duration Instant)

/-! ## Worlds before and after -/

/-- A world with a store in reach that has a queue, at an instant on the clock of the store and so
many milliseconds on that of the session. -/
structure Ready (name : QueueName) (now : Instant) (elapsed : Nat) (q : Queue)
    (w : World Memory) : Prop where
  online : w.store.offline = false
  clock : w.store.now = now
  elapsed : w.elapsed = elapsed
  present : w.store.queues.get? name.text = some q

/-- The milliseconds that some waits take. -/
def spent (waits : List Duration) : Nat := (waits.map World.waitMilliseconds).sum

@[simp]
theorem spent_nil : spent [] = 0 := rfl

@[simp]
theorem spent_append (before after : List Duration) :
    spent (before ++ after) = spent before + spent after := by
  rw [spent, List.map_append, List.sum_append, spent, spent]

/-- What work on a queue comes to: its value, the queue it leaves, the calls it makes and the waits
it takes. -/
structure Outcome (α : Type) where
  value : α
  queue : Queue
  calls : Nat
  waits : List Duration

section Steps

variable {α β : Type} {name : QueueName} {now : Instant} {elapsed v : Nat} {q : Queue}

/-- A world is left by work with some outcome: of the store nothing has changed but the queue and
the count of calls. -/
structure Leaves (name : QueueName) (w : World Memory) (o : Outcome α) (w' : World Memory) :
    Prop where
  store : w'.store = { w.store with
    queues := w.store.queues.insert name.text o.queue
    calls := w.store.calls + o.calls }
  waits : w'.waits = w.waits ++ o.waits.toArray
  elapsed : w'.elapsed = w.elapsed + spent o.waits

/-- Work comes to an outcome in every world that is ready for it. -/
def Runs (name : QueueName) (now : Instant) (elapsed : Nat) (q : Queue) (s : Loop Memory α)
    (o : Outcome α) : Prop :=
  ∀ w, Ready name now elapsed q w → ∃ w', s w = (.ok o.value, w') ∧ Leaves name w o w'

/-- A world that work has left is ready for more. -/
theorem Leaves.ready {w w' : World Memory} {o : Outcome α} (h : Leaves name w o w')
    (hready : Ready name now elapsed q w) :
    Ready name now (elapsed + spent o.waits) o.queue w' := by
  constructor
  · rw [h.store]
    exact hready.online
  · rw [h.store]
    exact hready.clock
  · rw [h.elapsed, hready.elapsed]
  · rw [h.store]
    simp [SortedMap.get?_insert]

/-- What is left by work after other work is left by both together. -/
theorem Leaves.trans {w w' w'' : World Memory} {o : Outcome α} {p : Outcome β}
    (first : Leaves name w o w') (second : Leaves name w' p w'') :
    Leaves name w (⟨p.value, p.queue, o.calls + p.calls, o.waits ++ p.waits⟩ : Outcome β) w'' := by
  constructor
  · rw [second.store, first.store]
    simp [SortedMap.insert_insert, Nat.add_assoc]
  · rw [second.waits, first.waits]
    simp
  · rw [second.elapsed, first.elapsed, spent_append, Nat.add_assoc]

/-! ## Steps in a row -/

/-- Work that neither calls the store nor waits leaves the queue as it is. -/
theorem runs_of_store_eq {s : Loop Memory α} {a : α}
    (h : ∀ w, w.elapsed = elapsed → ∃ events, s w = (.ok a, { w with events })) :
    Runs name now elapsed q s ⟨a, q, 0, []⟩ := by
  intro w hready
  rcases h w hready.elapsed with ⟨events, hs⟩
  refine ⟨_, hs, ?_⟩
  constructor
  · simp [SortedMap.insert_of_get? hready.present]
  · simp
  · rfl

theorem runs_pure (a : α) : Runs name now elapsed q (pure a) ⟨a, q, 0, []⟩ :=
  runs_of_store_eq fun w _ => ⟨w.events, rfl⟩

theorem runs_emit (e : Event) : Runs name now elapsed q (Session.emit e) ⟨(), q, 0, []⟩ :=
  runs_of_store_eq fun w _ => ⟨w.events.push e, rfl⟩

theorem runs_elapsed : Runs name now elapsed q Session.elapsed ⟨elapsed, q, 0, []⟩ := by
  apply runs_of_store_eq
  rintro w rfl
  exact ⟨w.events, rfl⟩

theorem runs_clock : Runs name now elapsed q clock ⟨.ofMilliseconds elapsed, q, 0, []⟩ := by
  apply runs_of_store_eq
  rintro w rfl
  exact ⟨w.events, rfl⟩

theorem runs_reserve {timings : Nat} (h : timings ≤ maxTimings) :
    Runs name now elapsed q (reserve timings) ⟨(), q, 0, []⟩ := by
  apply runs_of_store_eq
  intro w _
  have hrun : (reserve timings : Loop Memory Unit) w = (.ok (), w) := by
    simp only [run_reserve, h, if_true]
  exact ⟨w.events, hrun⟩

theorem runs_wait (d : Duration) :
    Runs name now elapsed q (Session.wait d) ⟨(), q, 0, [d]⟩ := by
  intro w hready
  have hspent : spent [d] = World.waitMilliseconds d := by
    rw [spent, List.map_singleton, List.sum_singleton]
  refine ⟨_, Session.run_wait d w, ?_⟩
  constructor
  · simp [SortedMap.insert_of_get? hready.present]
  · simp
  · rw [hspent]

/-- Steps in a row come to the value and the queue of the last one, with the calls and the waits of
all. -/
theorem Runs.bind {s : Loop Memory α} {f : α → Loop Memory β} {o : Outcome α} {p : Outcome β}
    (first : Runs name now elapsed q s o)
    (second : Runs name now (elapsed + spent o.waits) o.queue (f o.value) p) :
    Runs name now elapsed q (s >>= f)
      ⟨p.value, p.queue, o.calls + p.calls, o.waits ++ p.waits⟩ := by
  intro w hready
  rcases first w hready with ⟨w', hs, hleft⟩
  rcases second w' (hleft.ready hready) with ⟨w'', hf, hleft'⟩
  exact ⟨w'', (Session.run_bind_of_ok f hs).trans hf, hleft.trans hleft'⟩

/-- A step that costs nothing may stand before others. -/
theorem Runs.bind_free {s : Loop Memory α} {f : α → Loop Memory β} {a : α} {p : Outcome β}
    (first : Runs name now elapsed q s ⟨a, q, 0, []⟩)
    (second : Runs name now elapsed q (f a) p) : Runs name now elapsed q (s >>= f) p := by
  simpa using first.bind second

/-- A step that does not wait may stand before others, for its calls. -/
theorem Runs.bind_call {s : Loop Memory α} {f : α → Loop Memory β} {a : α} {b : β}
    {q' q'' : Queue} {before calls : Nat} {waits : List Duration}
    (first : Runs name now elapsed q s ⟨a, q', before, []⟩)
    (second : Runs name now elapsed q' (f a) ⟨b, q'', calls, waits⟩) :
    Runs name now elapsed q (s >>= f) ⟨b, q'', calls + before, waits⟩ := by
  simpa [Nat.add_comm] using first.bind second

/-- A wait may stand before other steps, which then begin as much later. -/
theorem Runs.wait_then {d : Duration} {f : Unit → Loop Memory β} {b : β} {q' : Queue}
    {calls : Nat} {waits : List Duration}
    (h : Runs name now (elapsed + World.waitMilliseconds d) q (f ()) ⟨b, q', calls, waits⟩) :
    Runs name now elapsed q (Session.wait d >>= f) ⟨b, q', calls, d :: waits⟩ := by
  have hspent : elapsed + spent [d] = elapsed + World.waitMilliseconds d := by
    rw [spent, List.map_singleton, List.sum_singleton]
  rw [← hspent] at h
  simpa using (runs_wait d).bind h

/-- The value of some work may be put into another. -/
theorem Runs.bind_pure {s : Loop Memory α} {a : α} {q' : Queue} {calls : Nat}
    {waits : List Duration} (first : Runs name now elapsed q s ⟨a, q', calls, waits⟩)
    (g : α → β) :
    Runs name now elapsed q (s >>= fun x => pure (g x)) ⟨g a, q', calls, waits⟩ := by
  simpa using first.bind (f := fun x => pure (g x)) (runs_pure (g a))

/-- An event may be logged before some work gives its value. -/
theorem Runs.then_event {s : Loop Memory α} {a : α} {q' : Queue} {calls : Nat}
    {waits : List Duration} (h : Runs name now elapsed q s ⟨a, q', calls, waits⟩) (e : α → Event) :
    Runs name now elapsed q (s >>= fun x => Session.emit (e x) >>= fun _ => pure x)
      ⟨a, q', calls, waits⟩ := by
  simpa using h.bind (f := fun x => Session.emit (e x) >>= fun _ => pure x)
    ((runs_emit (e a)).bind_free (runs_pure a))

/-- An event that is logged under some condition costs nothing. -/
theorem Runs.after_event {condition : Prop} [Decidable condition] {f : Unit → Loop Memory α}
    {o : Outcome α} (h : Runs name now elapsed q (f ()) o) (e : Event) :
    Runs name now elapsed q (if condition then Session.emit e >>= f else f ()) o := by
  split
  · exact (runs_emit e).bind_free h
  · exact h

theorem runs_oneMore {empties : Nat} (h : empties < 4294967295) :
    Runs name now elapsed q (oneMore empties) ⟨empties + 1, q, 0, []⟩ := by
  rw [oneMore_of_lt h]
  exact runs_pure (empties + 1)

/-! ## Steps that stop -/

/-- Work on a queue fails in every world that is ready for it. -/
def Stops (name : QueueName) (now : Instant) (elapsed : Nat) (q : Queue) (s : Loop Memory α)
    (f : LoopFailure) : Prop :=
  ∀ w, Ready name now elapsed q w → (s w).1 = .error f

/-- Steps in a row fail as the first one does. -/
theorem Stops.bind {s : Loop Memory α} {f : LoopFailure} (h : Stops name now elapsed q s f)
    (next : α → Loop Memory β) : Stops name now elapsed q (s >>= next) f := by
  intro w hready
  rw [Session.run_bind_of_error next (Prod.ext (h w hready) rfl)]

/-- Or else as those behind it do. -/
theorem Stops.after {s : Loop Memory α} {next : α → Loop Memory β} {a : α} {q' : Queue}
    {calls : Nat} {f : LoopFailure} (first : Runs name now elapsed q s ⟨a, q', calls, []⟩)
    (h : Stops name now elapsed q' (next a) f) : Stops name now elapsed q (s >>= next) f := by
  intro w hready
  obtain ⟨w', hrun, hleft⟩ := first w hready
  rw [Session.run_bind_of_ok next hrun]
  exact h w' (hleft.ready hready)

/-- Nor does a wait stop anything. -/
theorem Stops.wait_then {d : Duration} {next : Unit → Loop Memory β} {f : LoopFailure}
    (h : Stops name now (elapsed + World.waitMilliseconds d) q (next ()) f) :
    Stops name now elapsed q (Session.wait d >>= next) f := by
  intro w hready
  obtain ⟨w', hrun, hleft⟩ := runs_wait d w hready
  have hlater := hleft.ready hready
  rw [spent, List.map_singleton, List.sum_singleton] at hlater
  rw [Session.run_bind_of_ok next hrun]
  exact h w' hlater

/-- An event that is logged under some condition stops nothing. -/
theorem Stops.after_event {condition : Prop} [Decidable condition] {f : Unit → Loop Memory α}
    {failure : LoopFailure} (h : Stops name now elapsed q (f ()) failure) (e : Event) :
    Stops name now elapsed q (if condition then Session.emit e >>= f else f ()) failure := by
  split
  · exact .after (runs_emit e) h
  · exact h

/-- Work that stops has not ended with a value. -/
theorem Stops.not_ok {s : Loop Memory α} {f : LoopFailure} (h : Stops name now elapsed q s f)
    {w : World Memory} (hready : Ready name now elapsed q w) (a : α) (w' : World Memory) :
    s w ≠ (.ok a, w') := by
  intro hrun
  cases (h w hready).symm.trans (congrArg Prod.fst hrun)

theorem oneMore_stops {empties : Nat} (h : ¬empties < 4294967295) :
    Stops name now elapsed q (oneMore empties) (.failed .overflow) := by
  rw [oneMore_of_not_lt h]
  exact fun _ _ => rfl

/-! ## Calls -/

variable {d : Message.Decoder α}

/-- An operation that passes the checks of a client and is answered by the queue comes to one
call. -/
theorem runs_call {v : Int} {o : Client.Operation} {plan : Client.Operation.Plan (o.Result α)}
    {step : Queue → Except Failure plan.request.Reply × Queue} {reply : plan.request.Reply}
    {q' : Queue} {b : o.Result α} (hplan : Client.Operation.Plans v d o plan)
    (hrefusal : o.refusal v = none)
    (hstep : Memory.queueStep? now plan.request = some (name, step))
    (hreply : step q = (.ok reply, q')) (hconclude : plan.conclude reply = .ok b) :
    Runs name now elapsed q (call (o.run ⟨Memory.store, v⟩ d)) ⟨b, q', 1, []⟩ := by
  intro w hready
  rw [← hready.clock] at hstep
  have hperform := Memory.perform_eq_of_queueStep? hstep hready.online hready.present
  have hrun : o.run ⟨Memory.store, v⟩ d w = _ := Client.Operation.run_planned hplan hrefusal
  simp only [Memory.store, Session.run_onStore, hperform, hreply,
    Client.Operation.Plan.finish, hconclude, mapError_ok] at hrun
  refine ⟨_, by rw [call, Session.run_mapError, hrun, mapError_ok], ?_⟩
  constructor
  · rfl
  · simp
  · rfl

/-- A message that is sent gets the next id of the queue. -/
theorem sendOne_runs (v : Int) :
    Runs name now elapsed q (sendOne ⟨Memory.store, v⟩ name.text)
      ⟨q.nextId, (q.send now payload).2, 1, []⟩ := by
  have hrefusal : (Client.Operation.send name.text (.json payload)).refusal v = none := by
    simp [Client.Operation.refusal, Client.Operation.faults, Client.Operation.payloadFault]
  have hreply : Memory.succeed (q.send now payload) = (.ok q.nextId, (q.send now payload).2) := by
    rcases q with ⟨createdAt, nextId, live, archived⟩
    rfl
  exact runs_call (d := Message.anyPayload) (.send name (Json.Datum.toJson_json payload)) hrefusal
    rfl hreply rfl

/-- A client lets a read of one message pass that hides it for no negative time. -/
theorem refusal_read {vt : Int} (hvt : 0 ≤ vt) (v : Int) :
    (Client.Operation.read name.text (some vt)).refusal v = none := by
  have hfault : Client.Operation.visibilityFault vt = none :=
    Client.Operation.faultIf_eq_none_iff.2 (by omega)
  simp [Client.Operation.refusal, Client.Operation.faults, hfault]

/-- What is read from a store in memory is the batch that its queue delivers. -/
theorem read_runs (v : Int) {vt : Int} {hidden : Instant} (hvt : 0 ≤ vt)
    (ht : now.addSeconds? vt = some hidden) (h : q.Deliverable now 1) :
    Runs name now elapsed q
      (call (Client.read ⟨Memory.store, v⟩ Message.anyPayload name.text (some vt)))
      ⟨(q.delivery now hidden 1).1.getLast?, (q.delivery now hidden 1).2, 1, []⟩ := by
  refine runs_call (o := .read name.text (some vt)) (.read name (some vt)) (refusal_read hvt v) rfl
    (Queue.read_eq_delivery ht h) ?_
  change Client.Operation.decoded (Except.map List.getLast?
    ((q.delivery now hidden 1).1.mapM (Message.decode Message.anyPayload))) = _
  rw [← Client.Operation.decodeAll_eq_mapM, Client.decodeAll_any]
  rfl

/-- A read that panics stops work. -/
theorem read_stops (v : Int) {vt : Int} (hvt : 0 ≤ vt)
    (h : (q.read now vt 1).1 = .error .overflow) :
    Stops name now elapsed q
      (call (Client.read ⟨Memory.store, v⟩ Message.anyPayload name.text (some vt)))
      (.failed .overflow) := by
  intro w hready
  have hread : q.read w.store.now vt 1 = (.error .overflow, (q.read now vt 1).2) := by
    rw [hready.clock]
    exact Prod.ext h rfl
  have hperform := Memory.perform_eq_of_queueStep? (r := .read name vt 1) rfl hready.online
    hready.present
  have hrun : Client.read ⟨Memory.store, v⟩ Message.anyPayload name.text (some vt) w = _ :=
    Client.Operation.run_planned (c := ⟨Memory.store, v⟩) (.read name (some vt))
      (refusal_read hvt v)
  simp only [Memory.store, Session.run_onStore, Option.getD_some, hperform, hread,
    Client.Operation.Plan.finish] at hrun
  simp only [call, Session.run_mapError, hrun, mapError_error]

/-- A live message that was marked as delivered is archived. -/
theorem archive_runs (v : Int) {id : Int} {m : StoredMessage} (h : q.live.get? id = some m)
    (hidden : Instant) :
    Runs name now elapsed (q.marked [id] hidden)
      (call (Client.archive ⟨Memory.store, v⟩ name.text id)) ⟨(), q.file hidden id, 1, []⟩ := by
  have hreply : Memory.succeed ((q.marked [id] hidden).archive id) =
      (.ok true, q.file hidden id) := by
    rw [Queue.archive_marked h hidden]
    rfl
  exact runs_call (d := Message.anyPayload) (o := .archive name.text id) (.archive name id)
    (by simp [Client.Operation.refusal, Client.Operation.faults]) rfl hreply rfl

/-- A live message is deleted. -/
theorem delete_runs (v : Int) {id : Int} (h : q.live.contains id = true) :
    Runs name now elapsed q (call (Client.delete ⟨Memory.store, v⟩ name.text id))
      ⟨(), (q.delete id).2, 1, []⟩ :=
  runs_call (d := Message.anyPayload) (o := .delete name.text id) (.delete name id)
    (by simp [Client.Operation.refusal, Client.Operation.faults]) rfl
    (congrArg (fun found => (Except.ok found, (q.delete id).2)) ((q.delete_eq id).trans h)) rfl

/-! ## Timed calls -/

/-- What was timed, without the time that it took. -/
def Timing.mark (t : Timing) : Operation × Int := (t.operation, t.id)

/-- The timing of an operation that takes no time. -/
def timing (o : Operation) (id : Int) : Timing := ⟨o, .zero, id⟩

/-- A call takes no time on the clock of the session. -/
theorem Runs.timed {s : Loop Memory α} {a : α} {q' : Queue}
    (h : Runs name now elapsed q s ⟨a, q', 1, []⟩) (g : α → Duration → β) :
    Runs name now elapsed q
      (clock >>= fun start => s >>= fun x => clock >>= fun stop => pure (g x (between start stop)))
      ⟨g a .zero, q', 1, []⟩ := by
  have hclock : Runs name now elapsed q' clock ⟨.ofMilliseconds elapsed, q', 0, []⟩ := runs_clock
  have hend := hclock.bind_pure fun stop => g a (between (.ofMilliseconds elapsed) stop)
  have hzero : between (.ofMilliseconds elapsed) (.ofMilliseconds elapsed) = .zero := by
    simp [between, Duration.zero]
  rw [hzero] at hend
  exact runs_clock.bind_free (h.bind_call hend)

theorem timedSend_runs (v : Int) :
    Runs name now elapsed q (timedSend ⟨Memory.store, v⟩ name.text)
      ⟨timing .write q.nextId, (q.send now payload).2, 1, []⟩ := by
  unfold timedSend
  exact (sendOne_runs v).timed fun id duration => (⟨.write, duration, id⟩ : Timing)

theorem timedRead_runs (v : Int) {vt : Int} {hidden : Instant} (hvt : 0 ≤ vt)
    (ht : now.addSeconds? vt = some hidden) (h : q.Deliverable now 1) :
    Runs name now elapsed q (timedRead ⟨Memory.store, v⟩ name.text vt)
      ⟨(q.delivery now hidden 1).1.getLast?.map fun m => timing .read m.id,
        (q.delivery now hidden 1).2, 1, []⟩ := by
  have hread : Runs name now elapsed q _ _ := read_runs v hvt ht h
  have htimed := hread.timed fun message? duration =>
    message?.map fun m => (⟨.read, duration, m.id⟩ : Timing)
  exact htimed

/-- A read delivers the first visible message, unless that one is spent. -/
theorem timedRead_first (v : Int) {vt : Int} {hidden : Instant} (hvt : 0 ≤ vt)
    (ht : now.addSeconds? vt = some hidden) {id : Int} {rest : List Int} {m : StoredMessage}
    (hids : q.visibleIds now = id :: rest) (hm : q.live.get? id = some m) (hunspent : ¬m.Spent) :
    Runs name now elapsed q (timedRead ⟨Memory.store, v⟩ name.text vt)
      ⟨some (timing .read id), q.marked [id] hidden, 1, []⟩ := by
  have hread : Runs name now elapsed q _ _ :=
    timedRead_runs v hvt ht ((Queue.deliverable_one_iff hids hm).2 hunspent)
  rcases Queue.delivery_of_visible hids hidden with ⟨m', -, hdelivered⟩
  rw [hdelivered] at hread
  exact hread

/-- A read of a queue without visible messages finds nothing. -/
theorem timedRead_nothing (v : Int) {vt : Int} {hidden : Instant} (hvt : 0 ≤ vt)
    (ht : now.addSeconds? vt = some hidden) (hids : q.visibleIds now = []) :
    Runs name now elapsed q (timedRead ⟨Memory.store, v⟩ name.text vt) ⟨none, q, 1, []⟩ := by
  have hread : Runs name now elapsed q _ _ :=
    timedRead_runs v hvt ht (Queue.deliverable_of_nothing hids 1)
  rw [Queue.delivery_of_nothing hids] at hread
  exact hread

/-- A read that panics stops the loop. -/
theorem timedRead_stops (v : Int) {vt : Int} (hvt : 0 ≤ vt)
    (h : (q.read now vt 1).1 = .error .overflow) :
    Stops name now elapsed q (timedRead ⟨Memory.store, v⟩ name.text vt) (.failed .overflow) :=
  .after runs_clock ((read_stops v hvt h).bind _)

/-- So does a read whose message is spent. -/
theorem timedRead_spent (v : Int) {vt : Int} (hvt : 0 ≤ vt) {id : Int} {rest : List Int}
    {m : StoredMessage} (hids : q.visibleIds now = id :: rest) (hm : q.live.get? id = some m)
    (hspent : m.Spent) :
    Stops name now elapsed q (timedRead ⟨Memory.store, v⟩ name.text vt) (.failed .overflow) := by
  apply timedRead_stops v hvt
  apply Queue.read_of_not_deliverable
  rwa [Int.toNat_one, Queue.deliverable_one_iff hids hm, not_not]

theorem timedArchive_runs (v : Int) {id : Int} {m : StoredMessage} (h : q.live.get? id = some m)
    (hidden : Instant) :
    Runs name now elapsed (q.marked [id] hidden) (timedArchive ⟨Memory.store, v⟩ name.text id)
      ⟨timing .archive id, q.file hidden id, 1, []⟩ := by
  unfold timedArchive
  exact (archive_runs v h hidden).timed fun _ duration => (⟨.archive, duration, id⟩ : Timing)

theorem timedDelete_runs (v : Int) {id : Int} (h : q.live.contains id = true) :
    Runs name now elapsed q (timedDelete ⟨Memory.store, v⟩ name.text id)
      ⟨timing .delete id, (q.delete id).2, 1, []⟩ := by
  unfold timedDelete
  exact (delete_runs v h).timed fun _ duration => (⟨.delete, duration, id⟩ : Timing)

end Steps
end Bench
end MessageQueue
