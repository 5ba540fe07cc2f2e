import MessageQueue.Proofs.Bench.Benchmark

/-!
# Producers and consumers

A consumer takes no time over messages, only over empty reads.  So it first takes all messages
that are visible, each read and deleted at once, and then reads in vain until its time is up, with a
pause after each read.  How often, is its time divided by the pause, rounded up; but no pause takes
longer than thirty years, so a consumer with a longer one reads more often than that.  Its reads in
vain are counted in 32 bits, and one more than these hold ends it, as does a message whose
deliveries are as many as can be counted.

A producer pauses between its messages only, and its messages are all visible to a consumer that
comes after it.

Main results:

- Theorem `consumeMessages_runs`: a consumer takes what is visible and then polls until its
  deadline.
- Theorem `consume_stops_of_idle`: a consumer that reads in vain too often fails.
- Theorem `produce_runs`: what a producer comes to.
- Theorem `drains_and_stops`: consumers with pauses of at most thirty years.
- Theorem `not_drainsAndStops_beyondLimits`: consumers beyond the limits.
-/

namespace MessageQueue
namespace Bench

open Store
open Time (Duration Instant)

/-! ## Polling -/

/-- How many steps cover a span. -/
def stepsOver (span step : Nat) : Nat := (span + step - 1) / step

/-- No span is covered by no step. -/
theorem stepsOver_zero {step : Nat} (h : 0 < step) : stepsOver 0 step = 0 := by
  rw [stepsOver, Nat.zero_add]
  exact Nat.div_eq_of_lt (by omega)

/-- A span is covered by one step and those that cover the rest. -/
theorem stepsOver_succ {span step : Nat} (h : 0 < step) (hspan : 0 < span) :
    stepsOver span step = stepsOver (span - step) step + 1 := by
  rw [stepsOver, stepsOver]
  by_cases hle : step ≤ span
  · have hsplit : span + step - 1 = span - step + step - 1 + step := by omega
    rw [hsplit, Nat.add_div_right _ h]
  · have hrest : span - step + step - 1 = step - 1 := by omega
    have hsplit : span + step - 1 = span - 1 + step := by omega
    rw [hrest, hsplit, Nat.add_div_right _ h, Nat.div_eq_of_lt (by omega),
      Nat.div_eq_of_lt (by omega)]

/-- A consumer whose deadline has passed does nothing, whatever the store. -/
theorem run_consumeMessages_over {σ : Type} (c : Client σ) (queue : String) {deadline : Nat}
    (poll : Duration) (vt : Int) (rounds empties : Nat) {w : World σ} (h : deadline ≤ w.elapsed) :
    consumeMessages c queue deadline poll vt rounds empties w = (.ok [], w) := by
  have helapsed : (Session.elapsed : Loop σ Nat) w = (.ok w.elapsed, w) := rfl
  cases rounds with
  | zero =>
      rw [consumeMessages, Session.run_bind_of_ok _ helapsed, if_pos h]
      rfl
  | succ rounds =>
      rw [consumeMessages, Session.run_bind_of_ok _ helapsed, if_pos h]
      rfl

/-- A consumer without time only logs that it is done, whatever the store. -/
theorem run_consume_zero {σ : Type} (c : Client σ) (queue : String) (poll : Duration) (vt : Int)
    (rounds : Nat) (w : World σ) :
    consume c queue .zero poll vt rounds w =
      (.ok [], { w with
        events := w.events.push
          (.info "Consumer finished" [("queue", .text queue), ("consumed", .integer 0)]) }) := by
  have helapsed : (Session.elapsed : Loop σ Nat) w = (.ok w.elapsed, w) := rfl
  have hover : w.elapsed + Duration.zero.ceilMilliseconds ≤ w.elapsed := Nat.le_refl w.elapsed
  have hloop := run_consumeMessages_over c queue poll vt rounds 0 hover
  rw [consume, Session.run_bind_of_ok _ helapsed, Session.run_bind_of_ok _ hloop]
  rfl

section Loops

variable {name : QueueName} {now hidden : Instant} {v vt : Int} {deadline : Nat} {poll : Duration}

/-- A consumer whose deadline has passed stops. -/
theorem consumeMessages_over {elapsed : Nat} (h : deadline ≤ elapsed) (rounds empties : Nat)
    (q : Queue) :
    Runs name now elapsed q
      (consumeMessages ⟨Memory.store, v⟩ name.text deadline poll vt rounds empties)
      ⟨[], q, 0, []⟩ := by
  apply runs_of_store_eq
  rintro w rfl
  exact ⟨w.events, run_consumeMessages_over _ _ poll vt rounds empties h⟩

/-- A consumer that finds nothing polls until its deadline, if 32 bits hold the count of its
reads. -/
theorem consumeMessages_idle (hvt : 0 ≤ vt) (ht : now.addSeconds? vt = some hidden)
    (hpoll : 0 < World.waitMilliseconds poll) {q : Queue} (hnothing : q.visibleIds now = [])
    {elapsed rounds : Nat} (empties : Nat)
    (hrounds : stepsOver (deadline - elapsed) (World.waitMilliseconds poll) ≤ rounds)
    (hfew : empties + stepsOver (deadline - elapsed) (World.waitMilliseconds poll) < 4294967296) :
    Runs name now elapsed q
      (consumeMessages ⟨Memory.store, v⟩ name.text deadline poll vt rounds empties)
      ⟨[], q, stepsOver (deadline - elapsed) (World.waitMilliseconds poll),
        List.replicate (stepsOver (deadline - elapsed) (World.waitMilliseconds poll)) poll⟩ := by
  induction rounds generalizing elapsed empties with
  | zero =>
      have hover : deadline ≤ elapsed := by
        by_contra hnot
        rw [stepsOver_succ hpoll (by omega)] at hrounds
        omega
      rw [Nat.sub_eq_zero_of_le hover, stepsOver_zero hpoll]
      exact consumeMessages_over hover _ _ q
  | succ rounds ih =>
      by_cases hover : deadline ≤ elapsed
      · rw [Nat.sub_eq_zero_of_le hover, stepsOver_zero hpoll]
        exact consumeMessages_over hover _ _ q
      · have hstep := stepsOver_succ hpoll (Nat.sub_pos_of_lt (Nat.lt_of_not_le hover))
        rw [Nat.sub_sub] at hstep
        rw [hstep] at hrounds hfew ⊢
        rw [List.replicate_succ]
        have hrest := ih (empties + 1) (Nat.le_of_succ_le_succ hrounds) (by omega)
        rw [consumeMessages]
        refine runs_elapsed.bind_free ?_
        rw [if_neg hover]
        exact (timedRead_nothing v hvt ht hnothing).bind_call
          ((runs_oneMore (by omega)).bind_free (hrest.wait_then.after_event _))

/-- A consumer that finds nothing fails when 32 bits do not hold the count of its reads. -/
theorem consumeMessages_stops_of_idle (hvt : 0 ≤ vt) (ht : now.addSeconds? vt = some hidden)
    (hpoll : 0 < World.waitMilliseconds poll) {q : Queue} (hnothing : q.visibleIds now = [])
    {elapsed rounds empties : Nat} (hempties : empties < 4294967296)
    (hrounds : stepsOver (deadline - elapsed) (World.waitMilliseconds poll) ≤ rounds)
    (hmany : 4294967296 ≤ empties + stepsOver (deadline - elapsed) (World.waitMilliseconds poll)) :
    Stops name now elapsed q
      (consumeMessages ⟨Memory.store, v⟩ name.text deadline poll vt rounds empties)
      (.failed .overflow) := by
  induction rounds generalizing elapsed empties with
  | zero => omega
  | succ rounds ih =>
      have hbefore : ¬deadline ≤ elapsed := by
        intro hover
        rw [Nat.sub_eq_zero_of_le hover, stepsOver_zero hpoll] at hmany
        omega
      have hstep := stepsOver_succ hpoll (Nat.sub_pos_of_lt (Nat.lt_of_not_le hbefore))
      rw [Nat.sub_sub] at hstep
      rw [hstep] at hrounds hmany
      rw [consumeMessages]
      refine .after runs_elapsed ?_
      rw [if_neg hbefore]
      refine .after (timedRead_nothing v hvt ht hnothing) ?_
      by_cases hlast : empties < 4294967295
      · have hrest := ih (Nat.succ_lt_succ hlast) (Nat.le_of_succ_le_succ hrounds) (by omega)
        exact .after (runs_oneMore hlast) (hrest.wait_then.after_event _)
      · exact (oneMore_stops hlast).bind _

/-! ## Consuming -/

/-- What the taking of a message adds to the timings. -/
def readAndDeleted (id : Int) : List Timing := [timing .read id, timing .delete id]

/-- A consumer takes what is visible, in no time, and then polls until its deadline. -/
theorem consumeMessages_runs (hvt : 0 ≤ vt) (ht : now.addSeconds? vt = some hidden)
    (hpoll : 0 < World.waitMilliseconds poll) {elapsed rounds : Nat} (hbefore : elapsed < deadline)
    {ids : List Int} {q : Queue} (hids : q.visibleIds now = ids) (hunspent : q.NoneSpent ids)
    (empties : Nat)
    (hrounds : ids.length + stepsOver (deadline - elapsed) (World.waitMilliseconds poll) ≤ rounds)
    (hfew : empties + stepsOver (deadline - elapsed) (World.waitMilliseconds poll) < 4294967296) :
    Runs name now elapsed q
      (consumeMessages ⟨Memory.store, v⟩ name.text deadline poll vt rounds empties)
      ⟨ids.flatMap readAndDeleted, q.deleteAll ids,
        2 * ids.length + stepsOver (deadline - elapsed) (World.waitMilliseconds poll),
        List.replicate (stepsOver (deadline - elapsed) (World.waitMilliseconds poll)) poll⟩ := by
  induction ids generalizing q rounds empties with
  | nil =>
      rw [List.length_nil, Nat.zero_add] at hrounds
      rw [List.length_nil, Nat.mul_zero, Nat.zero_add]
      exact consumeMessages_idle hvt ht hpoll hids empties hrounds hfew
  | cons id rest ih =>
      rcases Queue.delivery_of_visible hids hidden with ⟨m, hm, -⟩
      have hgone : (q.delete id).2.visibleIds now = rest :=
        Queue.visibleIds_of_gone hids (q.get?_delete id)
      cases rounds with
      | zero =>
          rw [List.length_cons] at hrounds
          omega
      | succ rounds =>
          rw [List.length_cons] at hrounds
          have henough : rest.length +
              stepsOver (deadline - elapsed) (World.waitMilliseconds poll) ≤ rounds := by
            omega
          rw [Queue.noneSpent_cons hm] at hunspent
          have hothers : (q.delete id).2.NoneSpent rest :=
            (Queue.noneSpent_of_gone hids (q.get?_delete id) (List.Subset.refl rest)).2 hunspent.2
          have hmore := (ih hgone hothers 0 henough (by omega)).bind_pure
            fun more => timing .read id :: timing .delete id :: more
          have hthere : (q.marked [id] hidden).live.contains id = true := by
            rw [SortedMap.contains, Queue.get?_marked]
            simp [hm]
          have hdelete : Runs name now elapsed _ _ _ := timedDelete_runs v hthere
          rw [Queue.delete_marked hm hidden] at hdelete
          have hcalls : 2 * (id :: rest).length +
              stepsOver (deadline - elapsed) (World.waitMilliseconds poll) =
              2 * rest.length + stepsOver (deadline - elapsed) (World.waitMilliseconds poll) +
                1 + 1 := by
            rw [List.length_cons]
            omega
          rw [consumeMessages, hcalls]
          refine runs_elapsed.bind_free ?_
          rw [if_neg (Nat.not_le.2 hbefore)]
          exact (timedRead_first v hvt ht hids hm hunspent.1).bind_call (hdelete.bind_call hmore)

/-- A consumer with some time takes what is visible and then polls until its time is up. -/
theorem consume_runs (hvt : 0 ≤ vt) (ht : now.addSeconds? vt = some hidden)
    (hpoll : 0 < World.waitMilliseconds poll) {runFor : Duration}
    (hrun : 0 < runFor.ceilMilliseconds) {elapsed rounds : Nat} {q : Queue}
    (hunspent : q.Unspent now)
    (hrounds : (q.visibleIds now).length +
      stepsOver runFor.ceilMilliseconds (World.waitMilliseconds poll) ≤ rounds)
    (hfew : stepsOver runFor.ceilMilliseconds (World.waitMilliseconds poll) < 4294967296) :
    Runs name now elapsed q (consume ⟨Memory.store, v⟩ name.text runFor poll vt rounds)
      ⟨(q.visibleIds now).flatMap readAndDeleted, q.deleteAll (q.visibleIds now),
        2 * (q.visibleIds now).length +
          stepsOver runFor.ceilMilliseconds (World.waitMilliseconds poll),
        List.replicate (stepsOver runFor.ceilMilliseconds (World.waitMilliseconds poll)) poll⟩ := by
  have hspan : elapsed + runFor.ceilMilliseconds - elapsed = runFor.ceilMilliseconds :=
    Nat.add_sub_cancel_left _ _
  rw [← hspan] at hrounds hfew
  rw [← Nat.zero_add (stepsOver _ _)] at hfew
  have hloop : Runs name now elapsed q
      (consumeMessages ⟨Memory.store, v⟩ name.text _ poll vt rounds 0) _ :=
    consumeMessages_runs hvt ht hpoll (Nat.lt_add_of_pos_right hrun) rfl
      (Queue.noneSpent_visibleIds_iff.2 hunspent) 0 hrounds hfew
  rw [hspan] at hloop
  exact runs_elapsed.bind_free (hloop.then_event _)

/-- A consumer that finds nothing and has time for more reads than 32 bits count fails. -/
theorem consume_stops_of_idle (hvt : 0 ≤ vt) (ht : now.addSeconds? vt = some hidden)
    (hpoll : 0 < World.waitMilliseconds poll) {runFor : Duration} {q : Queue}
    (hnothing : q.visibleIds now = []) {elapsed rounds : Nat}
    (hrounds : stepsOver runFor.ceilMilliseconds (World.waitMilliseconds poll) ≤ rounds)
    (hmany : 4294967296 ≤ stepsOver runFor.ceilMilliseconds (World.waitMilliseconds poll)) :
    Stops name now elapsed q (consume ⟨Memory.store, v⟩ name.text runFor poll vt rounds)
      (.failed .overflow) := by
  have hspan : elapsed + runFor.ceilMilliseconds - elapsed = runFor.ceilMilliseconds :=
    Nat.add_sub_cancel_left _ _
  refine .after runs_elapsed (.bind ?_ _)
  exact consumeMessages_stops_of_idle hvt ht hpoll hnothing (by decide) (by rwa [hspan])
    (by rwa [hspan, Nat.zero_add])

/-- A consumer fails at once when the first visible message is spent. -/
theorem consume_stops_of_spent (hvt : 0 ≤ vt) {runFor : Duration}
    (hrun : 0 < runFor.ceilMilliseconds) {q : Queue} {id : Int} {rest : List Int}
    {m : StoredMessage} (hids : q.visibleIds now = id :: rest) (hm : q.live.get? id = some m)
    (hspent : m.Spent) (elapsed rounds : Nat) :
    Stops name now elapsed q (consume ⟨Memory.store, v⟩ name.text runFor poll vt (rounds + 1))
      (.failed .overflow) := by
  have hbefore : ¬elapsed + runFor.ceilMilliseconds ≤ elapsed := by omega
  refine .after runs_elapsed (.bind ?_ _)
  rw [consumeMessages]
  refine .after runs_elapsed ?_
  rw [if_neg hbefore]
  exact (timedRead_spent v hvt hids hm hspent).bind _

/-! ## Producing -/

/-- A producer sends messages under ids in a row and pauses between them. -/
theorem produceMessages_runs (v : Int) (total left sent elapsed : Nat) (interval : Duration)
    (q : Queue) :
    Runs name now elapsed q
      (produceMessages ⟨Memory.store, v⟩ name.text total interval left sent)
      ⟨(idsFrom q.nextId left).map (timing .write), q.sendAll now payload left, left,
        List.replicate (left - 1) interval⟩ := by
  induction left generalizing q sent elapsed with
  | zero => exact runs_pure []
  | succ left ih =>
      rw [idsFrom_succ, List.map_cons, produceMessages]
      refine (timedSend_runs v).bind_call (Runs.after_event ?_ _)
      have hrest := fun elapsed => (ih (sent + 1) elapsed (q.send now payload).2).bind_pure
        fun rest => timing .write q.nextId :: rest
      rw [(q.send_frame now payload).2.1] at hrest
      cases left with
      | zero =>
         exact hrest elapsed
      | succ left =>
         exact (hrest _).wait_then

/-- A producer makes a call for each message and pauses between them. -/
theorem produce_runs (v : Int) {count : Nat} (hroom : count ≤ maxTimings) (elapsed : Nat)
    (interval : Duration) (q : Queue) :
    Runs name now elapsed q (produce ⟨Memory.store, v⟩ name.text count interval)
      ⟨(idsFrom q.nextId count).map (timing .write), q.sendAll now payload count, count,
        List.replicate (count - 1) interval⟩ :=
  (runs_reserve hroom).bind_free
    ((produceMessages_runs v count count 0 elapsed interval q).then_event _)

end Loops

/-! ## Draining and stopping -/

/-- What a consumer with so many milliseconds and so long a pause comes to: its timings, and the
world and the queue after it. -/
structure Drained (name : QueueName) (runFor poll : Nat) (w : World Memory) (q : Queue)
    (timings : List Timing) (w' : World Memory) (q' : Queue) : Prop where
  /-- Each visible message is read and deleted at once, in the order of the ids. -/
  marks : timings.map Timing.mark =
    (q.visibleIds w.store.now).flatMap fun id => [(.read, id), (.delete, id)]
  ascending : (q.visibleIds w.store.now).Pairwise (· < ·)
  /-- Nothing happens to the store but that the queue is replaced and the calls are counted. -/
  store : w'.store = { w.store with
    queues := w.store.queues.insert name.text q'
    calls := w.store.calls + (2 * (q.visibleIds w.store.now).length + stepsOver runFor poll) }
  waits : w'.waits =
    w.waits ++ (List.replicate (stepsOver runFor poll) (Duration.ofMilliseconds poll)).toArray
  /-- The visible messages are gone, and the hidden ones are as they were. -/
  live : ∀ id, q'.live.get? id = if id ∈ q.visibleIds w.store.now then none else q.live.get? id
  frame : q'.createdAt = q.createdAt ∧ q'.nextId = q.nextId ∧ q'.archived = q.archived

/-- What a producer of so many messages comes to: its timings, and the world and the queue after
it. -/
structure Produced (name : QueueName) (count : Nat) (interval : Duration) (w : World Memory)
    (q : Queue) (timings : List Timing) (w' : World Memory) (q' : Queue) : Prop where
  marks : timings.map Timing.mark = (idsFrom q.nextId count).map (Operation.write, ·)
  store : w'.store = { w.store with
    queues := w.store.queues.insert name.text q'
    calls := w.store.calls + count }
  /-- The pauses are between the messages. -/
  waits : w'.waits = w.waits ++ (List.replicate (count - 1) interval).toArray
  visible : q'.visibleIds w.store.now = q.visibleIds w.store.now ++ idsFrom q.nextId count
  /-- What it sends was not delivered yet. -/
  sent : ∀ id ∈ idsFrom q.nextId count,
    q'.live.get? id = some ⟨0, w.store.now, w.store.now, payload⟩
  live : ∀ id, id ∉ idsFrom q.nextId count → q'.live.get? id = q.live.get? id

/-- Consumers of a queue with so many milliseconds and so long a pause drain it and stop. -/
structure DrainsAndStops (name : QueueName) (runFor poll : Nat) (vt v : Int) (w : World Memory)
    (q : Queue) : Prop where
  /-- The consumer needs a round for each visible message and for each pause. -/
  drains : 0 < runFor → ∀ rounds,
    (q.visibleIds w.store.now).length + stepsOver runFor poll ≤ rounds →
    ∃ timings w' q', consume ⟨Memory.store, v⟩ name.text (.ofMilliseconds runFor)
        (.ofMilliseconds poll) vt rounds w = (.ok timings, w') ∧
      Drained name runFor poll w q timings w' q'
  /-- Without time the consumer makes no call at all. -/
  idle : runFor = 0 → ∀ rounds, ∃ w', consume ⟨Memory.store, v⟩ name.text
      (.ofMilliseconds runFor) (.ofMilliseconds poll) vt rounds w = (.ok [], w') ∧
    w'.store = w.store ∧ w'.waits = w.waits
  /-- After a producer, the consumer deletes exactly what that one sent, in the same order. -/
  produced : 0 < runFor → q.visibleIds w.store.now = [] → ∀ count interval, count ≤ maxTimings →
    ∃ sent w₁ q₁, produce ⟨Memory.store, v⟩ name.text count interval w = (.ok sent, w₁) ∧
      Produced name count interval w q sent w₁ q₁ ∧
      ∀ rounds, count + stepsOver runFor poll ≤ rounds →
        ∃ timings w₂ q₂, consume ⟨Memory.store, v⟩ name.text (.ofMilliseconds runFor)
            (.ofMilliseconds poll) vt rounds w₁ = (.ok timings, w₂) ∧
          Drained name runFor poll w₁ q₁ timings w₂ q₂ ∧
          timings.map Timing.mark = sent.flatMap (fun t => [(.read, t.id), (.delete, t.id)]) ∧
          ∀ id, q₂.live.get? id = q.live.get? id

/-- A whole count of milliseconds is covered by as many. -/
theorem ceilMilliseconds_ofMilliseconds (n : Nat) :
    (Duration.ofMilliseconds n).ceilMilliseconds = n := by
  simp only [Duration.ofMilliseconds, Duration.ceilMilliseconds]
  omega

section Consumers

variable {name : QueueName} {runFor poll : Nat} {vt : Int} {w : World Memory} {q : Queue}

/-- Where nothing was visible before a producer, no visible message is spent after it. -/
theorem Produced.unspent {count : Nat} {interval : Duration} {timings : List Timing}
    {w' : World Memory} {q' : Queue} (h : Produced name count interval w q timings w' q')
    (hnothing : q.visibleIds w.store.now = []) : q'.Unspent w.store.now := by
  rw [← Queue.noneSpent_visibleIds_iff, h.visible, hnothing, List.nil_append]
  intro id hid m hm
  cases (h.sent id hid).symm.trans hm
  simp [StoredMessage.Spent]

/-- A consumer with some time and a pause of at most thirty years drains the queue. -/
theorem exists_drained (honline : w.store.offline = false)
    (hq : w.store.queues.get? name.text = some q) (hunspent : q.Unspent w.store.now)
    (hrun : 0 < runFor) (hpoll : 0 < poll) (hshort : poll ≤ World.longestWait)
    (hfew : stepsOver runFor poll < 4294967296) (hvt : 0 ≤ vt)
    (hrange : (w.store.now.addSeconds? vt).isSome) (v : Int) {rounds : Nat}
    (hrounds : (q.visibleIds w.store.now).length + stepsOver runFor poll ≤ rounds) :
    ∃ timings w' q', consume ⟨Memory.store, v⟩ name.text (.ofMilliseconds runFor)
        (.ofMilliseconds poll) vt rounds w = (.ok timings, w') ∧
      Drained name runFor poll w q timings w' q' := by
  rcases Option.isSome_iff_exists.1 hrange with ⟨hidden, ht⟩
  have hready : Ready name w.store.now w.elapsed q w := ⟨honline, rfl, rfl, hq⟩
  have hceil := ceilMilliseconds_ofMilliseconds runFor
  have hpause : World.waitMilliseconds (.ofMilliseconds poll) = poll := by
    rw [World.waitMilliseconds_of_le] <;> rw [ceilMilliseconds_ofMilliseconds]
    exact hshort
  have hconsume : Runs name w.store.now w.elapsed q (consume ⟨Memory.store, v⟩ name.text
      (.ofMilliseconds runFor) (.ofMilliseconds poll) vt rounds) _ :=
    consume_runs hvt ht (by rwa [hpause]) (by rwa [hceil]) hunspent (by rwa [hceil, hpause])
      (by rwa [hceil, hpause])
  rw [hceil, hpause] at hconsume
  rcases hconsume w hready with ⟨w', hend, hleft⟩
  refine ⟨_, w', q.deleteAll (q.visibleIds w.store.now), hend, ?_⟩
  constructor
  · simp [List.map_flatMap, readAndDeleted, timing, Timing.mark]
  · exact q.visibleIds_pairwise w.store.now
  · exact hleft.store
  · exact hleft.waits
  · exact q.get?_deleteAll _
  · exact q.deleteAll_frame _

/-- A producer sends its messages and pauses between them. -/
theorem exists_produced (horder : q.InOrder) (honline : w.store.offline = false)
    (hq : w.store.queues.get? name.text = some q) {count : Nat} (hroom : count ≤ maxTimings)
    (interval : Duration) (v : Int) :
    ∃ sent w' q', produce ⟨Memory.store, v⟩ name.text count interval w = (.ok sent, w') ∧
      Produced name count interval w q sent w' q' := by
  have hready : Ready name w.store.now w.elapsed q w := ⟨honline, rfl, rfl, hq⟩
  rcases produce_runs v hroom w.elapsed interval q w hready with ⟨w', hend, hleft⟩
  refine ⟨_, w', q.sendAll w.store.now payload count, hend, ?_⟩
  constructor
  · simp [timing, Timing.mark, Function.comp_def]
  · exact hleft.store
  · exact hleft.waits
  · exact Queue.visibleIds_sendAll horder.live w.store.now payload count
  · intro id hid
    rw [Queue.get?_sendAll, if_pos hid]
  · intro id hid
    rw [Queue.get?_sendAll, if_neg hid]

/-- A consumer drains a queue and stops, if its pause is at most thirty years, 32 bits hold the
count of its pauses, and one more delivery of each visible message can be counted; it makes no call
when it has no time.  So it takes all that a producer before it has sent. -/
theorem drains_and_stops (hreach : w.store.Reachable) (honline : w.store.offline = false)
    (hq : w.store.queues.get? name.text = some q)
    (hcounts : ∀ e ∈ q.visible w.store.now, e.2.readCount < 2147483647) (hpoll : 0 < poll)
    (hshort : poll ≤ World.longestWait) (hfew : stepsOver runFor poll < 4294967296) (hvt : 0 ≤ vt)
    (hrange : (w.store.now.addSeconds? vt).isSome) (v : Int) :
    DrainsAndStops name runFor poll vt v w q := by
  have horder : q.InOrder := Queue.inOrder_of_reachable hreach hq
  have hunspent : q.Unspent w.store.now := fun e he => Int.not_le.2 (hcounts e he)
  constructor
  · intro hrun rounds hrounds
    exact exists_drained honline hq hunspent hrun hpoll hshort hfew hvt hrange v hrounds
  · rintro rfl rounds
    exact ⟨_, run_consume_zero _ _ _ vt rounds w, rfl, rfl⟩
  · intro hrun hnothing count interval hroom
    rcases exists_produced horder honline hq hroom interval v with ⟨sent, w₁, q₁, hend, hproduced⟩
    refine ⟨sent, w₁, q₁, hend, hproduced, ?_⟩
    intro rounds hrounds
    have hnow : w₁.store.now = w.store.now := by rw [hproduced.store]
    have honline₁ : w₁.store.offline = false := by rw [hproduced.store]; exact honline
    have hq₁ : w₁.store.queues.get? name.text = some q₁ := by
      rw [hproduced.store]
      simp [SortedMap.get?_insert]
    have hvisible : q₁.visibleIds w₁.store.now = idsFrom q.nextId count := by
      rw [hnow, hproduced.visible, hnothing, List.nil_append]
    have henough : (q₁.visibleIds w₁.store.now).length + stepsOver runFor poll ≤ rounds := by
      rw [hvisible, length_idsFrom]
      exact hrounds
    have hunspent₁ : q₁.Unspent w₁.store.now := by
      rw [hnow]
      exact hproduced.unspent hnothing
    rcases exists_drained honline₁ hq₁ hunspent₁ hrun hpoll hshort hfew hvt (by rwa [hnow]) v
      henough with
      ⟨timings, w₂, q₂, hend₂, hdrained⟩
    refine ⟨timings, w₂, q₂, hend₂, hdrained, ?_, ?_⟩
    · have hsent : sent.map Timing.id = idsFrom q.nextId count := by
        have hids := congrArg (List.map Prod.snd) hproduced.marks
        simpa [Function.comp_def, Timing.mark] using hids
      rw [hdrained.marks, hvisible, ← hsent, List.flatMap_map]
    · intro id
      rw [hdrained.live, hvisible]
      by_cases hid : id ∈ idsFrom q.nextId count
      · -- the ids of what was sent had not been given out before
        have hfresh : q.live.get? id = none := horder.live_of_le (mem_idsFrom.1 hid).1
        rw [if_pos hid, hfresh]
      · rw [if_neg hid, hproduced.live id hid]

end Consumers

/-- Ten milliseconds drain the queue of four jobs, of which one is hidden, with pauses of three. -/
theorem drains_and_stops_fourJobs :
    ∃ q, Client.fourJobs.store.Reachable ∧ Client.fourJobs.store.offline = false ∧
      Client.fourJobs.store.queues.get? jobs.text = some q ∧
      (∀ e ∈ q.visible Client.fourJobs.store.now, e.2.readCount < 2147483647) ∧
      3 ≤ World.longestWait ∧ stepsOver 10 3 < 4294967296 ∧
      (Client.fourJobs.store.now.addSeconds? 5).isSome ∧
      DrainsAndStops jobs 10 3 5 30 Client.fourJobs q := by
  have hthere : (Client.fourJobs.store.queues.get? jobs.text).isSome = true := rfl
  rcases Option.isSome_iff_exists.1 hthere with ⟨q, hq⟩
  have hcounts : ∀ e ∈ q.visible Client.fourJobs.store.now, e.2.readCount < 2147483647 := by
    cases hq
    decide
  have hshort : 3 ≤ World.longestWait := by decide
  have hfew : stepsOver 10 3 < 4294967296 := by decide
  have hrange : (Client.fourJobs.store.now.addSeconds? 5).isSome = true := by decide
  exact ⟨q, fourJobs_reachable, rfl, hq, hcounts, hshort, hfew, hrange,
    drains_and_stops fourJobs_reachable rfl hq hcounts (by decide) hshort hfew (by decide) hrange
      30⟩

/-! ## Beyond the limits -/

/-- A store with a queue without messages. -/
def emptyJobs : World Memory :=
  .ofStore (Memory.perform (.create jobs) (.new .epoch)).2

theorem reachable_emptyJobs : emptyJobs.store.Reachable :=
  ⟨.epoch, [.request (.create jobs)], _, rfl⟩

theorem ready_emptyJobs : Ready jobs .epoch 0 (.new .epoch) emptyJobs := ⟨rfl, rfl, rfl, rfl⟩

/-- A consumer whose time is one pause of more than thirty years reads twice, since the pause ends
before the time does. -/
theorem not_drainsAndStops_longPause :
    ¬DrainsAndStops jobs 1000000000000 1000000000000 1 30 emptyJobs (.new .epoch) := by
  intro h
  rcases h.drains (by decide) 2 (by decide) with ⟨timings, w', q', hend, hdrained⟩
  obtain ⟨hidden, ht⟩ : ∃ hidden, Instant.epoch.addSeconds? 1 = some hidden := ⟨_, rfl⟩
  have hunspent : (Queue.new .epoch).Unspent .epoch := by decide
  have hpause : World.waitMilliseconds (.ofMilliseconds 1000000000000) = 946080000000 := by
    decide
  have hceil := ceilMilliseconds_ofMilliseconds 1000000000000
  have hconsume : Runs jobs .epoch 0 (.new .epoch) (consume ⟨Memory.store, 30⟩
      jobs.text (.ofMilliseconds 1000000000000) (.ofMilliseconds 1000000000000) 1 2) _ :=
    consume_runs (by decide) ht (by rw [hpause]; decide) (by rw [hceil]; decide) hunspent
      (by rw [hpause, hceil]; decide) (by rw [hpause, hceil]; decide)
  rw [hpause, hceil] at hconsume
  rcases hconsume emptyJobs ready_emptyJobs with ⟨w'', hend', hleft⟩
  obtain rfl : w' = w'' := congrArg Prod.snd (hend.symm.trans hend')
  have hcalls : 1 + (2 * 0 + stepsOver 1000000000000 1000000000000) =
      1 + (2 * 0 + stepsOver 1000000000000 946080000000) :=
    congrArg Memory.calls (hdrained.store.symm.trans hleft.store)
  exact absurd hcalls (by decide)

/-- A consumer with time for `2 ^ 32` pauses of two milliseconds, the last of them cut short, cannot
count its reads. -/
theorem not_drainsAndStops_manyPauses :
    ¬DrainsAndStops jobs 8589934591 2 1 30 emptyJobs (.new .epoch) := by
  intro h
  have hsteps : stepsOver 8589934591 2 = 4294967296 := by decide
  rcases h.drains (by decide) 4294967296 (by rw [hsteps]; decide) with ⟨timings, w', q', hend, -⟩
  obtain ⟨hidden, ht⟩ : ∃ hidden, Instant.epoch.addSeconds? 1 = some hidden := ⟨_, rfl⟩
  have hpause : World.waitMilliseconds (.ofMilliseconds 2) = 2 := by decide
  have hceil := ceilMilliseconds_ofMilliseconds 8589934591
  have hstops : Stops jobs .epoch 0 (.new .epoch) (consume ⟨Memory.store, 30⟩
      jobs.text (.ofMilliseconds 8589934591) (.ofMilliseconds 2) 1 4294967296)
      (.failed .overflow) :=
    consume_stops_of_idle (by decide) ht (by rw [hpause]; decide) rfl
      (by rw [hpause, hceil, hsteps]) (by rw [hpause, hceil, hsteps])
  exact hstops.not_ok ready_emptyJobs timings w' hend

/-- A consumer fails at a message that was delivered as often as can be counted. -/
theorem not_drainsAndStops_worn :
    ¬DrainsAndStops jobs 10 3 5 30 (Client.worn 2147483647) (Client.wornQueue 2147483647) := by
  intro h
  rcases h.drains (by decide) 5 (by decide) with ⟨timings, w', q', hend, -⟩
  have hready : Ready jobs .epoch 0 (Client.wornQueue 2147483647) (Client.worn 2147483647) :=
    ⟨rfl, rfl, rfl, rfl⟩
  have hceil := ceilMilliseconds_ofMilliseconds 10
  have hstops : Stops jobs .epoch 0 (Client.wornQueue 2147483647) (consume ⟨Memory.store, 30⟩
      jobs.text (.ofMilliseconds 10) (.ofMilliseconds 3) 5 5) (.failed .overflow) :=
    consume_stops_of_spent (by decide) (by rw [hceil]; decide) rfl rfl (by decide) 0 4
  exact hstops.not_ok hready timings w' hend

/-- No producer finds room for the timings of `2 ^ 58` messages. -/
theorem produce_tooMany :
    (produce ⟨Memory.store, 30⟩ jobs.text 288230376151711744 .zero emptyJobs).1 =
      .error (.noRoom 288230376151711744) := by
  have hroom : ¬288230376151711744 ≤ maxTimings := by decide
  have hreserve : (reserve 288230376151711744 : Loop Memory Unit) emptyJobs =
      (.error (.noRoom 288230376151711744), emptyJobs) := by
    rw [run_reserve, if_neg hroom]
  rw [produce, Session.run_bind_of_error _ hreserve]

/-- Consumers beyond the limits neither drain a queue nor stop as they should: with a pause of more
than thirty years, with too many pauses to count, or before a message that was delivered as often as
can be counted.  Nor does a producer of `2 ^ 58` messages. -/
theorem not_drainsAndStops_beyondLimits :
    emptyJobs.store.Reachable ∧ emptyJobs.store.offline = false ∧
      emptyJobs.store.queues.get? jobs.text = some (.new .epoch) ∧
      (Queue.new .epoch).visibleIds emptyJobs.store.now = [] ∧
      (emptyJobs.store.now.addSeconds? 1).isSome ∧
      ¬DrainsAndStops jobs 1000000000000 1000000000000 1 30 emptyJobs (.new .epoch) ∧
      8589934591 < 4294967296 * 2 ∧
      ¬DrainsAndStops jobs 8589934591 2 1 30 emptyJobs (.new .epoch) ∧
      (produce ⟨Memory.store, 30⟩ jobs.text 288230376151711744 .zero emptyJobs).1 =
        .error (.noRoom 288230376151711744) ∧
      (Client.worn 2147483647).store.Reachable ∧ (Client.worn 2147483647).store.offline = false ∧
      (Client.worn 2147483647).store.queues.get? jobs.text = some (Client.wornQueue 2147483647) ∧
      ((Client.worn 2147483647).store.now.addSeconds? 5).isSome ∧
      ¬DrainsAndStops jobs 10 3 5 30 (Client.worn 2147483647) (Client.wornQueue 2147483647) :=
  ⟨reachable_emptyJobs, rfl, rfl, rfl, by decide, not_drainsAndStops_longPause, by decide,
    not_drainsAndStops_manyPauses, produce_tooMany, Client.reachable_worn (Nat.le_refl _), rfl, rfl,
    by decide, not_drainsAndStops_worn⟩

end Bench
end MessageQueue
