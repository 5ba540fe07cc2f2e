import Mathlib.Algebra.Order.BigOperators.Group.List
import Mathlib.Algebra.Order.Ring.Int
import MessageQueue.Proofs.Store.Selection

/-!
# Reads in a row, and pops

A read that hides what it delivers until later than now leaves all other visible messages visible.
A second read at the same instant therefore goes on where the first one stopped: however a limit is
split, the reads in a row deliver what one read with the whole limit delivers, and leave the same
queues.

A pop takes the message that a read of a single message would select, and takes it out of the queue
just as that read and the deletion of the message do.

Main results:

- Theorem `Queue.delivery_add`: two deliveries in a row are one delivery with both limits.
- Theorem `run_readsInRow`: reads in a row are one delivery with the sum of their limits.
- Theorem `reads_compose`: a limit may be split into reads, and a smaller limit delivers the first
  messages of a larger one.
- Theorem `pops_what_is_read`: a pop is a read of one message and its deletion.
-/

namespace MessageQueue
namespace Store

open Time (Instant)

/-! ## Deliveries in a row -/

namespace Queue

variable {now hidden : Instant}

/-- A second selection goes on where the first one stopped, since what that one delivered is hidden
by now. -/
theorem selected_add (q : Queue) (h : now < hidden) (a b : Nat) :
    q.selected now (a + b) =
      q.selected now a ++ (q.delivery now hidden a).2.selected now b := by
  rw [selected, selected, selected, visible_delivery q h, List.take_add]

/-- Messages can be delivered together exactly when they can be delivered in a row. -/
theorem deliverable_add_iff (q : Queue) (h : now < hidden) {a b : Nat} :
    q.Deliverable now (a + b) ↔
      q.Deliverable now a ∧ (q.delivery now hidden a).2.Deliverable now b := by
  simp only [Deliverable, q.selected_add h, List.mem_append, or_imp, forall_and]

/-- Two deliveries in a row from a queue are one with both limits. -/
theorem delivery_add (q : Queue) (h : now < hidden) (a b : Nat) :
    q.delivery now hidden (a + b) =
      ((q.delivery now hidden a).1 ++
          ((q.delivery now hidden a).2.delivery now hidden b).1,
        ((q.delivery now hidden a).2.delivery now hidden b).2) := by
  have hselected := q.selected_add h a b
  apply Prod.ext
  · rw [delivery, hselected, List.map_append]
    rfl
  · refine ext_get? rfl rfl rfl fun id => ?_
    have hascending := q.selected_pairwise now (a + b)
    rw [hselected, List.map_append, List.pairwise_append] at hascending
    simp only [get?_delivery, delivery_ids, hselected, List.map_append, List.mem_append]
    by_cases hfirst : id ∈ (q.selected now a).map Prod.fst
    · have hsecond : id ∉ ((q.delivery now hidden a).2.selected now b).map Prod.fst :=
        fun hmem => Int.lt_irrefl id (hascending.2.2 id hfirst id hmem)
      simp only [hfirst, hsecond, if_true, if_false, true_or]
    · simp only [hfirst, if_false, false_or]

/-- Without room nothing is delivered. -/
@[simp]
theorem delivery_zero (q : Queue) (now hidden : Instant) :
    q.delivery now hidden 0 = ([], q) :=
  Prod.ext rfl (ext_get? rfl rfl rfl fun id => get?_delivery q now hidden 0 id)

end Queue

/-! ## Reads in a row -/

namespace Memory

/-- Reads of a queue in a row, each with a limit of its own. -/
def readsInRow (name : QueueName) (vt : Int) (limits : List Int) : List Move :=
  limits.map fun limit => .request (.read name vt limit)

/-- The exchanges of reads in a row that are answered with batches. -/
def answeredWith (name : QueueName) (vt : Int) (limits : List Int)
    (batches : List (List (Message Json))) : List Exchange :=
  List.zipWith (fun limit batch => ⟨.read name vt limit, .ok batch⟩) limits batches

section Reads

variable {m : Memory} {name : QueueName} {q : Queue} {vt : Int} {hidden : Instant}

theorem toNat_sum_cons {limit : Int} {rest : List Int} (h : ∀ l ∈ limit :: rest, 0 ≤ l) :
    (limit :: rest).sum.toNat = limit.toNat + rest.sum.toNat := by
  rcases List.forall_mem_cons.1 h with ⟨hlimit, hrest⟩
  rw [List.sum_cons, Int.toNat_add hlimit (List.sum_nonneg hrest)]

/-- A move that reads delivers from the queue, unless a message of it is spent. -/
theorem move_read (honline : m.offline = false) (hq : m.queues.get? name.text = some q)
    (ht : m.now.addSeconds? vt = some hidden) {limit : Int}
    (h : q.Deliverable m.now limit.toNat) :
    m.move (.request (.read name vt limit)) =
      some ([⟨.read name vt limit, .ok (q.delivery m.now hidden limit.toNat).1⟩],
        { m with
          queues := m.queues.insert name.text (q.delivery m.now hidden limit.toNat).2
          calls := m.calls + 1 }) := by
  rw [move_request_iff, perform_read honline hq ht h]
  exact ⟨rfl, rfl⟩

/-- Reads in a row are answered with batches that make up the delivery with the sum of the limits,
and leave the queue that this delivery leaves. -/
theorem run_readsInRow (honline : m.offline = false) (hq : m.queues.get? name.text = some q)
    (ht : m.now.addSeconds? vt = some hidden) (hlater : m.now < hidden) {limits : List Int}
    (hlimits : ∀ limit ∈ limits, 0 ≤ limit) (hcounts : q.Deliverable m.now limits.sum.toNat) :
    ∃ batches m', m.run (readsInRow name vt limits) =
        some (answeredWith name vt limits batches, m') ∧
      batches.length = limits.length ∧
      batches.flatten = (q.delivery m.now hidden limits.sum.toNat).1 ∧
      m'.queues =
        m.queues.insert name.text (q.delivery m.now hidden limits.sum.toNat).2 := by
  induction limits generalizing m q with
  | nil =>
      refine ⟨[], m, rfl, rfl, ?_, ?_⟩
      · simp
      · simp [SortedMap.insert_of_get? hq]
  | cons limit rest ih =>
      have hsum := toNat_sum_cons hlimits
      rw [hsum, q.deliverable_add_iff hlater] at hcounts
      -- the queue after the first read is there at the same instant, for the reads that follow
      let first := q.delivery m.now hidden limit.toNat
      let after : Memory :=
        { m with queues := m.queues.insert name.text first.2, calls := m.calls + 1 }
      have hmove : m.move (.request (.read name vt limit)) =
          some ([⟨.read name vt limit, .ok first.1⟩], after) :=
        move_read honline hq ht hcounts.1
      have hq' : after.queues.get? name.text = some first.2 := by
        simp [after, SortedMap.get?_insert]
      rcases ih (m := after) honline hq' ht hlater (List.forall_mem_of_forall_mem_cons hlimits)
          hcounts.2 with ⟨batches, m', hrun, hlength, hbatches, hqueues⟩
      have hadd := q.delivery_add hlater limit.toNat rest.sum.toNat
      rw [← hsum] at hadd
      refine ⟨first.1 :: batches, m', ?_, ?_, ?_, ?_⟩
      · rw [readsInRow] at hrun
        simp [readsInRow, run, hmove, hrun, answeredWith]
      · simp [hlength]
      · rw [List.flatten_cons, hbatches, hadd]
      · rw [hqueues, hadd]
        exact SortedMap.insert_insert m.queues name.text first.2 _

/-- Reads in a row that come to a spent message panic there. -/
theorem run_readsInRow_of_not_deliverable (honline : m.offline = false)
    (hq : m.queues.get? name.text = some q) (ht : m.now.addSeconds? vt = some hidden)
    (hlater : m.now < hidden) {limits : List Int} (hlimits : ∀ limit ∈ limits, 0 ≤ limit)
    (hspent : ¬q.Deliverable m.now limits.sum.toNat) :
    m.run (readsInRow name vt limits) = none := by
  induction limits generalizing m q with
  | nil => exact absurd (fun e he => by cases he) hspent
  | cons limit rest ih =>
      by_cases hfirst : q.Deliverable m.now limit.toNat
      · rw [toNat_sum_cons hlimits, q.deliverable_add_iff hlater] at hspent
        let first := q.delivery m.now hidden limit.toNat
        let after : Memory :=
          { m with queues := m.queues.insert name.text first.2, calls := m.calls + 1 }
        have hmove : m.move (.request (.read name vt limit)) =
            some ([⟨.read name vt limit, .ok first.1⟩], after) :=
          move_read honline hq ht hfirst
        have hq' : after.queues.get? name.text = some first.2 := by
          simp [after, SortedMap.get?_insert]
        have hrun := ih (m := after) honline hq' ht hlater
          (List.forall_mem_of_forall_mem_cons hlimits) fun hrest => hspent ⟨hfirst, hrest⟩
        rw [readsInRow] at hrun
        simp [readsInRow, run, hmove, hrun]
      · have hmove : m.move (.request (.read name vt limit)) = none := by
          rw [move, ← Prod.eta (perform _ m), perform_read_of_not_deliverable honline hq hfirst vt]
          rfl
        simp [readsInRow, run, hmove]

end Reads

/-- Reads of a queue of a store at one instant go on one where the other stopped, as long as the
messages that are read can be delivered once more. -/
structure ReadsCompose (m : Memory) (name : QueueName) (q : Queue) (vt : Int) : Prop where
  /-- Two reads in a row deliver what one read with both limits delivers, and leave the same
  queues. -/
  two : ∀ a b, 0 ≤ a → 0 ≤ b → q.Deliverable m.now (a + b).toNat → ∃ first second,
    (perform (.read name vt a) m).1 = .ok first ∧
      (perform (.read name vt b) (perform (.read name vt a) m).2).1 = .ok second ∧
      (perform (.read name vt (a + b)) m).1 = .ok (first ++ second) ∧
      (perform (.read name vt b) (perform (.read name vt a) m).2).2.queues =
        (perform (.read name vt (a + b)) m).2.queues
  /-- So do as many reads in a row as a limit is split into. -/
  split : ∀ limits : List Int, (∀ limit ∈ limits, 0 ≤ limit) →
    q.Deliverable m.now limits.sum.toNat → ∃ batches m',
      m.run (readsInRow name vt limits) = some (answeredWith name vt limits batches, m') ∧
        batches.length = limits.length ∧
        (perform (.read name vt limits.sum) m).1 = .ok batches.flatten ∧
        m'.queues = (perform (.read name vt limits.sum) m).2.queues
  /-- A smaller limit delivers the first of the messages that a larger one delivers. -/
  smaller : ∀ a b, a ≤ b → q.Deliverable m.now b.toNat → ∃ few many,
    (perform (.read name vt a) m).1 = .ok few ∧ (perform (.read name vt b) m).1 = .ok many ∧
      few <+: many
  /-- If one of the messages cannot, the read panics, and so does one of the reads in a row. -/
  spent : ∀ limits : List Int, (∀ limit ∈ limits, 0 ≤ limit) →
    ¬q.Deliverable m.now limits.sum.toNat →
      (perform (.read name vt limits.sum) m).1 = .error .overflow ∧
        m.run (readsInRow name vt limits) = none

/-- Messages that are hidden for no time are delivered by the second of two reads again. -/
example :
    (secondHidden.run (readsInRow jobs 0 [1, 1])).map Prod.fst =
      some (answeredWith jobs 0 [1, 1]
        [[⟨1, 0, .epoch, .epoch, .string "a"⟩], [⟨1, 1, .epoch, .epoch, .string "a"⟩]]) :=
  rfl

end Memory

/-! ## Pops -/

namespace Queue

variable {q : Queue} {now : Instant} (hidden : Instant)

/-- When no message is visible a pop takes out none, and a delivery delivers none. -/
theorem pop_of_none_visible (h : (q.visible now).head? = none) :
    q.pop now = (none, q) ∧ (q.delivery now hidden 1).1 = [] := by
  constructor
  · rw [pop_eq, h]
  · rw [delivery_fst, List.take_one, h]
    rfl

/-- A pop takes out the first visible message, and a delivery of one message delivers it. -/
theorem pop_of_visible {id : Int} {m : StoredMessage} (h : (q.visible now).head? = some (id, m)) :
    q.pop now = (some (m.toMessage id), { q with live := q.live.erase id }) ∧
      (q.delivery now hidden 1).1 = [handOut hidden (id, m)] := by
  constructor
  · rw [pop_eq, h]
  · rw [delivery_fst, List.take_one, h]
    rfl

/-- A message that was delivered and then deleted is gone as if it had been taken out at once. -/
theorem delete_delivery {id : Int} {m : StoredMessage}
    (h : (q.visible now).head? = some (id, m)) :
    (q.delivery now hidden 1).2.delete id = (true, { q with live := q.live.erase id }) := by
  rcases mem_visible_iff.1 (List.mem_of_mem_head? h) with ⟨hlive, -⟩
  have hids : (q.selected now 1).map Prod.fst = [id] := by
    rw [selected, List.take_one, h]
    rfl
  have hmarked : (q.marked [id] hidden).live.get? id = some (m.afterRead hidden) := by
    simp [get?_marked, hlive]
  rw [delivery, hids, delete, hmarked]
  refine Prod.ext rfl (ext_get? rfl rfl rfl fun i => ?_)
  by_cases hi : i = id <;> simp [SortedMap.get?_erase, get?_marked, hi]

end Queue

namespace Memory

/-- A pop of a store does what a read of one message and the deletion of that message do. -/
structure PopsWhatIsRead (m : Memory) (name : QueueName) (q : Queue) (vt : Int) : Prop where
  answers : ∃ message?, (perform (.pop name) m).1 = .ok message?
  /-- A pop returns nothing exactly when a read of one message does. -/
  nothing : (perform (.pop name) m).1 = .ok none ↔ (perform (.read name vt 1) m).1 = .ok []
  /-- Otherwise it returns the message that the read does, but with the instant stored with it, as
  long as one more delivery of the message can be counted. -/
  message : ∀ popped, (perform (.pop name) m).1 = .ok (some popped) →
    popped.readCount < 2147483647 → ∃ given stored, (perform (.read name vt 1) m).1 = .ok [given] ∧
      popped.id = given.id ∧ popped.payload = given.payload ∧
      popped.enqueuedAt = given.enqueuedAt ∧ popped.readCount = given.readCount ∧
      q.live.get? popped.id = some stored ∧ popped.visibleAt = stored.visibleAt
  /-- The message can be deleted after the read, which then leaves the queues that the pop does. -/
  deleted : ∀ popped, (perform (.pop name) m).1 = .ok (some popped) →
    popped.readCount < 2147483647 →
      (perform (.delete name popped.id) (perform (.read name vt 1) m).2).1 = .ok true ∧
        (perform (.delete name popped.id) (perform (.read name vt 1) m).2).2.queues =
          (perform (.pop name) m).2.queues
  /-- If the delivery cannot be counted, the read panics. -/
  spent : ∀ popped, (perform (.pop name) m).1 = .ok (some popped) →
    2147483647 ≤ popped.readCount → (perform (.read name vt 1) m).1 = .error .overflow

end Memory
end Store
end MessageQueue
