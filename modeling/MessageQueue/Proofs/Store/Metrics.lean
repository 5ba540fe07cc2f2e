import Mathlib.Algebra.Order.Ring.Int
import Mathlib.Data.List.Induction
import Mathlib.Data.List.Sort
import MessageQueue.Proofs.Store.Record
import MessageQueue.Proofs.Time.Spans

/-!
# Metrics and history

What a queue reports about itself follows from the calls since it was created.  Its length is the
count of what was sent less the count of what was deleted, archived and popped, and the two ages
are those of the latest and the earliest of the messages that are left.  On a clock that goes
forward messages are sent in the order of their ids, so that the ages are those of the greatest
and the least id.  The newest message is then no older than the oldest one, unless the latter was
sent in a leap second, which is not counted once a midnight has passed.

Main results:

- Theorem `Lifetime.ids_perm`: every id that was sent is live, deleted, archived or popped.
- Theorem `Lifetime.remaining_eq`: the live messages are those that were sent and have not left.
- Theorem `metrics_reflect_history`: the metrics of a queue of a store that a run leads to.
- Theorem `not_newestIsYounger_leapSecond`: messages around a leap second whose ages are the wrong
  way round.
-/

namespace MessageQueue
namespace Store

open Time (Instant)

/-! ## What is left of what was sent -/

/-- What was sent and neither removed nor archived. -/
def remaining (calls : List Call) : List Sending :=
  (calls.flatMap Call.sent).filter fun s =>
    (record s.id calls).removed = 0 ∧ (record s.id calls).archived = 0

/-- A live message as it was sent. -/
def Sending.ofEntry (e : Int × StoredMessage) : Sending := ⟨e.1, e.2.enqueuedAt, e.2.payload⟩

/-- The ids by which messages have left a queue. -/
def departed (calls : List Call) : List Int :=
  calls.flatMap Call.deleted ++ calls.flatMap Call.archived ++
    (calls.flatMap Call.popped).map Message.id

/-- An id has left as often as it was removed or archived. -/
theorem count_departed (id : Int) (calls : List Call) :
    (departed calls).count id = (record id calls).removed + (record id calls).archived := by
  have hpopped : ((calls.flatMap Call.popped).map Message.id).count id =
      (record id calls).popped.length := by
    rw [record, List.count, List.countP_map, List.countP_eq_length_filter]
    rfl
  simp only [departed, List.count_append, hpopped, Record.removed]
  simp only [record]
  omega

section Lifetimes

variable {calls : List Call} {q : Queue} (h : Lifetime calls q)

include h

/-- The ids that were sent are those below the next one. -/
theorem Lifetime.mem_sent_iff (id : Int) :
    id ∈ (calls.flatMap Call.sent).map Sending.id ↔ 1 ≤ id ∧ id < q.nextId := by
  rcases h.sent_ids with ⟨n, hids, hnext⟩
  rw [hids, List.mem_map]
  constructor
  · rintro ⟨k, hk, rfl⟩
    rw [List.mem_range] at hk
    omega
  · rintro ⟨hfirst, hlast⟩
    exact ⟨(id - 1).toNat, List.mem_range.2 (by omega), by omega⟩

/-- The ids that were sent ascend. -/
theorem Lifetime.sent_pairwise :
    (calls.flatMap Call.sent).Pairwise fun a b => a.id < b.id := by
  rcases h.sent_ids with ⟨n, hids, -⟩
  rw [← List.pairwise_map (f := Sending.id) (R := (· < ·)), hids, List.pairwise_map]
  exact List.pairwise_lt_range.imp (by omega)

/-- The live messages are those that were sent and have not left. -/
theorem Lifetime.remaining_eq : remaining calls = q.live.entries.map Sending.ofEntry := by
  have hirrefl : Std.Irrefl fun a b : Sending => a.id < b.id := ⟨fun a => Int.lt_irrefl a.id⟩
  have hasymm : Std.Antisymm fun a b : Sending => a.id < b.id := ⟨by omega⟩
  refine List.Pairwise.eq_of_mem_iff (h.sent_pairwise.filter _)
    (List.pairwise_map.2 q.live.sorted) ?_
  intro s
  have hsent : s ∈ calls.flatMap Call.sent ↔ s ∈ (record s.id calls).sent := by
    simp [record]
  simp only [remaining, List.mem_filter, hsent, List.mem_map, decide_eq_true_eq]
  constructor
  · rintro ⟨hs, hremoved, harchived⟩
    cases h.standing s.id with
    | unsent _ _ _ htold => simp [htold] at hs
    | live m _ hlive _ htold =>
        rw [htold.sent, List.mem_singleton] at hs
        exact ⟨(s.id, m), SortedMap.get?_eq_some_iff.1 hlive, hs.symm⟩
    | archived _ _ _ hends => omega
    | removed _ _ _ hends => omega
  · rintro ⟨⟨id, m⟩, hmem, rfl⟩
    have htold := h.describes (SortedMap.get?_eq_some_iff.2 hmem)
    refine ⟨?_, ?_, htold.archived⟩
    · simp [Sending.ofEntry, htold.sent]
    · simp [Sending.ofEntry, Record.removed, htold.popped, htold.deleted]

/-- Every id that was sent is live, deleted, archived or popped, and only one of these. -/
theorem Lifetime.ids_perm :
    ((calls.flatMap Call.sent).map Sending.id).Perm (q.live.keys ++ departed calls) := by
  have hids : ((calls.flatMap Call.sent).map Sending.id).Pairwise (· < ·) :=
    List.pairwise_map.2 h.sent_pairwise
  rw [List.perm_iff_count]
  intro id
  rw [hids.nodup.count, List.count_append, q.live.keys_pairwise.nodup.count, count_departed]
  simp only [h.mem_sent_iff, ← SortedMap.contains_iff_mem_keys, SortedMap.contains]
  cases h.standing id with
  | unsent hid hlive _ htold =>
      have hnot : ¬ (1 ≤ id ∧ id < q.nextId) := by omega
      simp [hnot, hlive, htold, Record.removed]
  | live m hid hlive _ htold =>
      simp [hid, hlive, Record.removed, htold.popped, htold.deleted, htold.archived]
  | archived hid hlive _ hends => simp [hid, hlive, hends]
  | removed hid hlive _ hends => simp [hid, hlive, hends]

/-- There are as many live messages as were sent and have not left. -/
theorem Lifetime.size_eq :
    q.live.size + (departed calls).length = (calls.flatMap Call.sent).length := by
  simpa [SortedMap.keys, SortedMap.size] using h.ids_perm.length_eq.symm

end Lifetimes

/-! ## The clock along a history -/

/-- Whether a move leaves the clock where it is or moves it forward. -/
def Move.isOnward : Move → Bool
  | .advance nanoseconds => decide (0 ≤ nanoseconds)
  | .request _ | .setOffline _ => true

namespace Memory

/-- A request does not move the clock. -/
theorem now_perform (r : Request) (m : Memory) : (perform r m).2.now = m.now := by
  rcases m with ⟨queues, now, offline, count⟩
  cases offline <;> rfl

/-- The clock reaches where an onward move leaves it. -/
theorem reaches_of_move {m m' : Memory} {a : Move} {first : List Exchange}
    (h : m.move a = some (first, m')) (ha : a.isOnward = true) : m.now.Reaches m'.now := by
  cases a with
  | request r =>
      simp only [move, Option.map_eq_some_iff] at h
      rcases h with ⟨reply, -, h⟩
      cases h
      rw [now_perform]
      exact .refl m.now
  | advance nanoseconds =>
      simp only [move, advance, Option.map_map, Option.map_eq_some_iff] at h
      rcases h with ⟨now, hnow, h⟩
      cases h
      exact Instant.reaches_of_addNanoseconds? (of_decide_eq_true ha) hnow
  | setOffline offline =>
      cases h
      exact .refl m.now

/-- The clock of a history of onward moves goes forward, from its start over its calls to its
end. -/
theorem history_onward {m m' : Memory} {moves : List Move} {calls : List Call}
    (h : m.history moves = some (calls, m')) (hon : ∀ a ∈ moves, a.isOnward = true) :
    (m.now :: (calls.map Call.now ++ [m'.now])).Pairwise Instant.Reaches := by
  induction moves generalizing m calls with
  | nil =>
      cases h
      simpa using Instant.Reaches.refl _
  | cons a rest ih =>
      rcases history_cons_eq_some_iff.1 h with ⟨first, m₁, more, hmove, hrest, rfl⟩
      have hstep := reaches_of_move hmove (hon a List.mem_cons_self)
      have hlater := ih hrest fun b hb => hon b (List.mem_cons_of_mem a hb)
      have hall := List.pairwise_cons.1 hlater
      have hfrom : ∀ t ∈ more.map Call.now ++ [m'.now], m.now.Reaches t := fun t ht =>
        hstep.trans (hall.1 t ht)
      rcases move_exchanges hmove with ⟨rfl, -⟩ | ⟨e, rfl, rfl⟩
      · exact List.pairwise_cons.2 ⟨hfrom, hall.2⟩
      · refine List.pairwise_cons.2 ⟨?_, List.pairwise_cons.2 ⟨hfrom, hall.2⟩⟩
        intro t ht
        rcases List.mem_cons.1 ht with rfl | ht
        · exact .refl m.now
        · exact hfrom t ht

end Memory

/-- The calls of an incarnation are among those of the history, in their order. -/
theorem incarnation_sublist {name : String} {history calls : List Call}
    (h : incarnation name history = some calls) : calls.Sublist history := by
  induction history using List.reverseRecOn generalizing calls with
  | nil => cases h
  | append_singleton before c ih =>
      rw [incarnation_concat, continued] at h
      split at h
      · cases h
        exact List.nil_sublist _
      · split at h
        · cases h
        · split at h
          · rcases Option.map_eq_some_iff.1 h with ⟨calls', hcalls', rfl⟩
            exact (ih hcalls').append (List.Sublist.refl [c])
          · exact (ih h).trans (List.sublist_append_left before [c])

/-- A call sends at the instant at which it is made. -/
theorem Call.sentAt_of_mem_sent {c : Call} {s : Sending} (h : s ∈ c.sent) : s.sentAt = c.now := by
  rcases c with ⟨⟨r, reply⟩, now⟩
  cases r <;> cases reply <;> simp_all [Call.sent]

/-- A call sends one message at most. -/
theorem Call.sent_pairwise (R : Sending → Sending → Prop) (c : Call) : c.sent.Pairwise R := by
  rcases c with ⟨⟨r, reply⟩, now⟩
  cases r <;> cases reply <;> simp [Call.sent]

/-- Where the clock goes forward over some calls, it does so over what they send. -/
theorem sent_onward {calls : List Call} {now : Instant}
    (h : (calls.map Call.now ++ [now]).Pairwise Instant.Reaches) :
    (calls.flatMap Call.sent).Pairwise (fun a b => a.sentAt.Reaches b.sentAt) ∧
      ∀ s ∈ calls.flatMap Call.sent, s.sentAt.Reaches now := by
  rw [List.pairwise_append, List.pairwise_map] at h
  rcases h with ⟨hcalls, -, hend⟩
  constructor
  · rw [List.pairwise_flatMap]
    refine ⟨fun c _ => c.sent_pairwise _, hcalls.imp ?_⟩
    intro c d hcd a ha b hb
    rw [Call.sentAt_of_mem_sent ha, Call.sentAt_of_mem_sent hb]
    exact hcd
  · intro s hs
    rcases List.mem_flatMap.1 hs with ⟨c, hc, hs⟩
    rw [Call.sentAt_of_mem_sent hs]
    exact hend c.now (List.mem_map_of_mem hc) now List.mem_cons_self

/-! ## Ages -/

namespace Queue

section Choice

variable {f : Instant → Instant → Instant} {R : Instant → Instant → Prop}
  (hrefl : ∀ t, R t t) (htrans : ∀ {s t u}, R s t → R t u → R s u)
  (hchoice : ∀ s t, (f s t = s ∧ R t s) ∨ (f s t = t ∧ R s t))

include hrefl htrans hchoice

/-- Choosing the one on top of two, again and again, ends with one that is on top of all. -/
theorem foldl_choice (t : Instant) (rest : List Instant) :
    rest.foldl f t ∈ t :: rest ∧ ∀ u ∈ t :: rest, R u (rest.foldl f t) := by
  induction rest generalizing t with
  | nil => simpa using hrefl t
  | cons s rest ih =>
      rcases ih (f t s) with ⟨hmem, htop⟩
      have hchosen := htop (f t s) List.mem_cons_self
      have hboth : R t (f t s) ∧ R s (f t s) := by
        rcases hchoice t s with ⟨heq, h⟩ | ⟨heq, h⟩
        · rw [heq]
          exact ⟨hrefl t, h⟩
        · rw [heq]
          exact ⟨h, hrefl s⟩
      constructor
      · rcases List.mem_cons.1 hmem with heq | hmem
        · rw [List.foldl_cons, heq]
          rcases hchoice t s with ⟨heq, -⟩ | ⟨heq, -⟩ <;> simp [heq]
        · exact List.mem_cons_of_mem t (List.mem_cons_of_mem s hmem)
      · intro u hu
        rcases List.mem_cons.1 hu with rfl | hu
        · exact htrans hboth.1 hchosen
        · rcases List.mem_cons.1 hu with rfl | hu
          · exact htrans hboth.2 hchosen
          · exact htop u (List.mem_cons_of_mem _ hu)

/-- Instants combined by such a choice give one of them that is on top of all. -/
theorem combine_choice {ts : List Instant} (hts : ts ≠ []) :
    ∃ t ∈ ts, combine f ts = some t ∧ ∀ u ∈ ts, R u t := by
  cases ts with
  | nil => exact absurd rfl hts
  | cons t rest =>
      rcases foldl_choice hrefl htrans hchoice t rest with ⟨hmem, htop⟩
      exact ⟨_, hmem, rfl, htop⟩

end Choice

/-- Combining gives nothing exactly when there are no instants. -/
theorem combine_eq_none_iff {f : Instant → Instant → Instant} {ts : List Instant} :
    combine f ts = none ↔ ts = [] := by
  cases ts <;> simp [combine]

/-- The latest of some instants is not before any of them. -/
theorem combine_later {ts : List Instant} (hts : ts ≠ []) :
    ∃ t ∈ ts, combine later ts = some t ∧ ∀ u ∈ ts, u ≤ t := by
  refine combine_choice Instant.le_refl Instant.le_trans ?_ hts
  intro s t
  unfold later
  split
  · exact Or.inr ⟨rfl, Instant.le_of_lt ‹_›⟩
  · exact Or.inl ⟨rfl, Instant.le_iff_not_lt.2 ‹_›⟩

/-- The earliest of some instants is not after any of them. -/
theorem combine_earlier {ts : List Instant} (hts : ts ≠ []) :
    ∃ t ∈ ts, combine earlier ts = some t ∧ ∀ u ∈ ts, t ≤ u := by
  refine combine_choice (R := fun u t => t ≤ u) Instant.le_refl
    (fun h₁ h₂ => Instant.le_trans h₂ h₁) ?_ hts
  intro s t
  unfold earlier
  split
  · exact Or.inr ⟨rfl, Instant.le_of_lt ‹_›⟩
  · exact Or.inl ⟨rfl, Instant.le_iff_not_lt.2 ‹_›⟩

/-- Ages are kept in 32 bits. -/
theorem age_eq_bmod (now t : Instant) : age now t = (now.secondsSince t).bmod (2 ^ 32) := by
  simp only [age, Text.IntType.wrap, Text.IntType.lowest, Text.IntType.highest, Int.bmod,
    Int.reduceSub, Int.reduceAdd]
  split <;> omega

/-- The age that is told of some messages is that of the one on top. -/
theorem exists_age {f : Instant → Instant → Instant} {R : Instant → Instant → Prop}
    (hchoice : ∀ {ts : List Instant}, ts ≠ [] →
      ∃ t ∈ ts, combine f ts = some t ∧ ∀ u ∈ ts, R u t)
    {left : List Sending} (hne : left ≠ []) (now : Instant) :
    ∃ s ∈ left, (∀ other ∈ left, R other.sentAt s.sentAt) ∧
      (combine f (left.map Sending.sentAt)).map (age now) =
        some ((now.secondsSince s.sentAt).bmod (2 ^ 32)) := by
  rcases hchoice (mt List.map_eq_nil_iff.1 hne) with ⟨t, ht, hcombine, htop⟩
  rcases List.mem_map.1 ht with ⟨s, hs, rfl⟩
  refine ⟨s, hs, fun other hother => htop _ (List.mem_map_of_mem hother), ?_⟩
  rw [hcombine, Option.map_some, age_eq_bmod]

end Queue

/-! ## Metrics after a run -/

/-- Metrics at an instant reflect the calls on a queue since it was created. -/
structure Reflects (calls : List Call) (now : Instant) (r : QueueMetrics) : Prop where
  /-- The length is the count of the sends less the counts of the deletions and archivings that
  found their message and of the pops that returned one. -/
  length : r.queueLength = ((calls.flatMap Call.sent).length : Int) -
    ((calls.flatMap Call.deleted).length + (calls.flatMap Call.archived).length +
      (calls.flatMap Call.popped).length)
  newest_absent : r.newestAge = none ↔ r.queueLength = 0
  oldest_absent : r.oldestAge = none ↔ r.queueLength = 0
  /-- The newest age is that of the latest of the messages that are left, in whole seconds kept in
  32 bits. -/
  newest : r.queueLength ≠ 0 → ∃ s ∈ remaining calls,
    (∀ other ∈ remaining calls, other.sentAt ≤ s.sentAt) ∧
      r.newestAge = some ((now.secondsSince s.sentAt).bmod (2 ^ 32))
  /-- The oldest age is that of the earliest of them. -/
  oldest : r.queueLength ≠ 0 → ∃ s ∈ remaining calls,
    (∀ other ∈ remaining calls, s.sentAt ≤ other.sentAt) ∧
      r.oldestAge = some ((now.secondsSince s.sentAt).bmod (2 ^ 32))

/-- Neither age is negative, and the newest message is no older than the oldest one. -/
def NewestIsYounger (r : QueueMetrics) : Prop :=
  ∀ newest oldest, r.newestAge = some newest → r.oldestAge = some oldest →
    0 ≤ newest ∧ newest ≤ oldest

/-- Metrics at an instant give the ages by the ids of the messages that are left. -/
structure AgesById (calls : List Call) (now : Instant) (r : QueueMetrics) : Prop where
  /-- The newest age is that of the message with the greatest id. -/
  newest : ∀ s ∈ remaining calls, (∀ other ∈ remaining calls, other.id ≤ s.id) →
    r.newestAge = some (now.secondsSince s.sentAt)
  /-- The oldest age is that of the message with the least id. -/
  oldest : ∀ s ∈ remaining calls, (∀ other ∈ remaining calls, s.id ≤ other.id) →
    r.oldestAge = some (now.secondsSince s.sentAt)
  /-- Neither is negative, and the newest is at most a second above the oldest. -/
  nearly : ∀ newest oldest, r.newestAge = some newest → r.oldestAge = some oldest →
    0 ≤ newest ∧ 0 ≤ oldest ∧ newest ≤ oldest + 1
  /-- It is not above it at all when the message with the least id was sent in no leap second. -/
  younger : (∀ s ∈ remaining calls, (∀ other ∈ remaining calls, s.id ≤ other.id) →
    s.sentAt.inLeapSecond = false) → NewestIsYounger r

/-- The metrics of a queue reflect the calls that it has lived through. -/
theorem Lifetime.reflects {calls : List Call} {q : Queue} (h : Lifetime calls q) (name : String)
    (now : Instant) : Reflects calls now (q.metrics name now) := by
  have hsent : q.live.values.map StoredMessage.enqueuedAt =
      (remaining calls).map Sending.sentAt := by
    rw [h.remaining_eq, SortedMap.values, List.map_map, List.map_map]
    rfl
  have hempty : remaining calls = [] ↔ q.live.size = 0 := by
    rw [h.remaining_eq, SortedMap.size]
    simp
  have hleft : (q.live.size : Int) ≠ 0 → remaining calls ≠ [] := fun hne hnil =>
    hne (by simpa using hempty.1 hnil)
  have hmetrics : q.metrics name now =
      ⟨name, q.live.size,
        (Queue.combine Queue.later ((remaining calls).map Sending.sentAt)).map (Queue.age now),
        (Queue.combine Queue.earlier ((remaining calls).map Sending.sentAt)).map
          (Queue.age now)⟩ := by
    rw [← hsent]
    rfl
  rw [hmetrics]
  constructor
  · have hsize := h.size_eq
    simp only [departed, List.length_append, List.length_map] at hsize ⊢
    omega
  · rw [Option.map_eq_none_iff, Queue.combine_eq_none_iff, List.map_eq_nil_iff, hempty,
      Int.natCast_eq_zero]
  · rw [Option.map_eq_none_iff, Queue.combine_eq_none_iff, List.map_eq_nil_iff, hempty,
      Int.natCast_eq_zero]
  · exact fun hne => Queue.exists_age Queue.combine_later (hleft hne) now
  · exact fun hne => Queue.exists_age Queue.combine_earlier (hleft hne) now

/-- What is left of some calls was sent in the order of the ids, if the clock went forward. -/
theorem Lifetime.reaches_of_id_le {calls : List Call} {q : Queue} (h : Lifetime calls q)
    {now : Instant} (hclock : (calls.map Call.now ++ [now]).Pairwise Instant.Reaches)
    {s t : Sending} (hs : s ∈ remaining calls) (ht : t ∈ remaining calls) (hid : s.id ≤ t.id) :
    s.sentAt.Reaches t.sentAt := by
  have hforward : (remaining calls).Pairwise fun a b =>
      a.id ≤ b.id → a.sentAt.Reaches b.sentAt := by
    refine List.Pairwise.imp ?_ ((sent_onward hclock).1.filter _)
    intro a b hreaches _
    exact hreaches
  have hbackward : (remaining calls).Pairwise fun a b =>
      b.id ≤ a.id → b.sentAt.Reaches a.sentAt := by
    refine List.Pairwise.imp ?_ (h.sent_pairwise.filter _)
    intro a b hlt hle
    exact absurd hlt (Int.not_lt.2 hle)
  exact hforward.forall_of_forall_of_flip (fun a _ _ => .refl _) hbackward hs ht hid

/-- Where anything is left, one message has the least id. -/
theorem Lifetime.exists_least {calls : List Call} {q : Queue} (h : Lifetime calls q)
    (hne : remaining calls ≠ []) :
    ∃ s ∈ remaining calls, ∀ other ∈ remaining calls, s.id ≤ other.id := by
  have hids : (remaining calls).Pairwise fun a b => a.id < b.id := h.sent_pairwise.filter _
  generalize remaining calls = left at hids hne
  cases left with
  | nil => exact absurd rfl hne
  | cons s rest =>
      refine ⟨s, List.mem_cons_self, ?_⟩
      intro other hother
      rcases List.mem_cons.1 hother with rfl | hother
      · exact Int.le_refl _
      · exact Int.le_of_lt ((List.pairwise_cons.1 hids).1 other hother)

/-- There are as many messages left as the length says. -/
theorem Reflects.length_eq {calls : List Call} {q : Queue} {now : Instant} {r : QueueMetrics}
    (hr : Reflects calls now r) (h : Lifetime calls q) :
    r.queueLength = (remaining calls).length := by
  have hsize := h.size_eq
  simp only [departed, List.length_append, List.length_map] at hsize
  rw [hr.length, h.remaining_eq, List.length_map]
  simp only [SortedMap.size] at hsize
  omega

/-- On a clock that went forward the ages below 2^31 seconds are those by ids, and in order. -/
theorem Reflects.agesById {calls : List Call} {q : Queue} {now : Instant} {r : QueueMetrics}
    (hr : Reflects calls now r) (h : Lifetime calls q)
    (hclock : (calls.map Call.now ++ [now]).Pairwise Instant.Reaches)
    (hrecent : ∀ s ∈ remaining calls, now.nanosecondsSince s.sentAt < 2 ^ 31 * 1000000000) :
    AgesById calls now r := by
  have hreaches : ∀ s ∈ remaining calls, s.sentAt.Reaches now := fun s hs =>
    (sent_onward hclock).2 s (List.mem_of_mem_filter hs)
  have hkept : ∀ s ∈ remaining calls,
      (now.secondsSince s.sentAt).bmod (2 ^ 32) = now.secondsSince s.sentAt := by
    intro s hs
    have hsmall := hrecent s hs
    rw [Instant.secondsSince_eq (hreaches s hs).le]
    simp only [Int.bmod]
    split <;> omega
  have hleft : ∀ s ∈ remaining calls, r.queueLength ≠ 0 := by
    intro s hs
    have hpos := List.length_pos_of_mem hs
    rw [hr.length_eq h]
    omega
  have hnewest : ∀ s ∈ remaining calls, (∀ other ∈ remaining calls, other.id ≤ s.id) →
      r.newestAge = some (now.secondsSince s.sentAt) := by
    intro s hs hgreatest
    rcases hr.newest (hleft s hs) with ⟨latest, hmem, htop, hage⟩
    have hle := (h.reaches_of_id_le hclock hmem hs (hgreatest latest hmem)).le
    rw [hage, Instant.le_antisymm hle (htop s hs), hkept s hs]
  have holdest : ∀ s ∈ remaining calls, (∀ other ∈ remaining calls, s.id ≤ other.id) →
      r.oldestAge = some (now.secondsSince s.sentAt) := by
    intro s hs hleast
    rcases hr.oldest (hleft s hs) with ⟨earliest, hmem, hbottom, hage⟩
    have hle := (h.reaches_of_id_le hclock hs hmem (hleast earliest hmem)).le
    rw [hage, Instant.le_antisymm (hbottom s hs) hle, hkept s hs]
  -- the two ages are those of a message and of the one with the least id
  have hends : ∀ newest oldest, r.newestAge = some newest → r.oldestAge = some oldest →
      ∃ s ∈ remaining calls, ∃ t ∈ remaining calls, (∀ other ∈ remaining calls, s.id ≤ other.id) ∧
        s.sentAt.Reaches t.sentAt ∧ newest = now.secondsSince t.sentAt ∧
        oldest = now.secondsSince s.sentAt := by
    intro newest oldest hage hage'
    have hne : r.queueLength ≠ 0 := fun hzero => by simp [hr.newest_absent.2 hzero] at hage
    rcases hr.newest hne with ⟨t, ht, -, hnew⟩
    rcases h.exists_least (List.ne_nil_of_mem ht) with ⟨s, hs, hleast⟩
    refine ⟨s, hs, t, ht, hleast, h.reaches_of_id_le hclock hs ht (hleast t ht), ?_, ?_⟩
    · rw [hage, hkept t ht, Option.some.injEq] at hnew
      exact hnew
    · have hold := holdest s hs hleast
      rw [hage', Option.some.injEq] at hold
      exact hold
  constructor
  · exact hnewest
  · exact holdest
  · intro newest oldest hage hage'
    rcases hends newest oldest hage hage' with ⟨s, hs, t, ht, -, hst, rfl, rfl⟩
    exact ⟨Instant.secondsSince_nonneg (hreaches t ht).le,
      Instant.secondsSince_nonneg (hreaches s hs).le,
      Instant.secondsSince_le_succ hst (hreaches t ht)⟩
  · intro hleapless newest oldest hage hage'
    rcases hends newest oldest hage hage' with ⟨s, hs, t, ht, hleast, hst, rfl, rfl⟩
    exact ⟨Instant.secondsSince_nonneg (hreaches t ht).le,
      Instant.secondsSince_le hst (hreaches t ht) (hleapless s hs hleast)⟩

/-- The metrics of a queue of a store that a run leads to reflect what the run has sent to the
queue and what has left it, and on a clock that went forward they give the ages by ids. -/
theorem metrics_reflect_history {start : Instant} {moves : List Move} {history : List Call}
    {m : Memory} {name : QueueName} {q : Queue}
    (hrun : (Memory.new start).history moves = some (history, m))
    (hq : m.queues.get? name.text = some q) (honline : m.offline = false) :
    ∃ calls r, incarnation name.text history = some calls ∧
      remaining calls = q.live.entries.map Sending.ofEntry ∧
      (Memory.perform (.metrics name) m).1 = .ok r ∧ r.queueName = name.text ∧
      Reflects calls m.now r ∧
      ((∀ a ∈ moves, a.isOnward = true) →
        (∀ s ∈ remaining calls, m.now.nanosecondsSince s.sentAt < 2 ^ 31 * 1000000000) →
        AgesById calls m.now r) := by
  rcases Memory.exists_lifetime hrun hq with ⟨calls, hcalls, hlife⟩
  have hreflects := hlife.reflects name.text m.now
  have hanswer := Memory.perform_of_queueStep? (r := .metrics name) rfl honline hq
  refine ⟨calls, q.metrics name.text m.now, hcalls, hlife.remaining_eq, hanswer.1, rfl, hreflects,
    ?_⟩
  intro hon hrecent
  refine hreflects.agesById hlife ?_ hrecent
  have hclock := (List.pairwise_cons.1 (Memory.history_onward hrun hon)).2
  exact hclock.sublist (((incarnation_sublist hcalls).map Call.now).append (List.Sublist.refl _))

/-- Whether a history ends with a store in reach that tells some metrics of the jobs, and every
message that is left was sent less than 2^31 seconds ago. -/
def tells (r : QueueMetrics) : List Call × Memory → Bool
  | (history, m) => !m.offline &&
    (Memory.perform (.metrics jobs) m).1.toOption == some r &&
    (incarnation jobs.text history).any fun calls => decide (∀ s ∈ remaining calls,
      m.now.nanosecondsSince s.sentAt < 2 ^ 31 * 1000000000)

theorem exists_of_tells {start : Instant} {moves : List Move} {r : QueueMetrics}
    (h : ((Memory.new start).history moves).any (tells r) = true) :
    ∃ history m calls, (Memory.new start).history moves = some (history, m) ∧
      m.offline = false ∧ (Memory.perform (.metrics jobs) m).1 = .ok r ∧
      incarnation jobs.text history = some calls ∧
      ∀ s ∈ remaining calls, m.now.nanosecondsSince s.sentAt < 2 ^ 31 * 1000000000 := by
  rcases (Option.any_eq_true _ _).1 h with ⟨⟨history, m⟩, hrun, htells⟩
  simp only [tells, Bool.and_eq_true, Bool.not_eq_true', beq_iff_eq, Option.any_eq_true,
    decide_eq_true_eq] at htells
  rcases htells with ⟨⟨honline, hanswer⟩, calls, hcalls, hrecent⟩
  refine ⟨history, m, calls, hrun, honline, ?_, hcalls, hrecent⟩
  generalize (Memory.perform (.metrics jobs) m).1 = answer at hanswer
  cases answer with
  | error e => cases hanswer
  | ok r' =>
      cases hanswer
      rfl

/-- A run that goes forward and leaves two messages of five, of which one is hidden and the other
was sent an hour later. -/
def onwardMoves : List Move :=
  [.request (.create jobs), .request (.send jobs .null), .request (.send jobs (.bool true)),
    .request (.send jobs (.string "c")), .request (.send jobs .null),
    .request (.delete jobs 1), .request (.archive jobs 2), .request (.archive jobs 2),
    .request (.read jobs 30 1), .setOffline true, .request (.send jobs .null), .setOffline false,
    .advance 1500000000, .request (.pop jobs), .request (.pop jobs), .advance 3600000000000,
    .request (.send jobs (.bool false)), .advance 2700000000]

/-- After the forward run the two messages are two and 3604 seconds old. -/
theorem metrics_reflect_history_onwardMoves :
    ∃ history m calls, (Memory.new .epoch).history onwardMoves = some (history, m) ∧
      incarnation jobs.text history = some calls ∧
      (Memory.perform (.metrics jobs) m).1 = .ok ⟨"jobs", 2, some 2, some 3604⟩ ∧
      Reflects calls m.now ⟨"jobs", 2, some 2, some 3604⟩ ∧
      AgesById calls m.now ⟨"jobs", 2, some 2, some 3604⟩ := by
  have htells : ((Memory.new .epoch).history onwardMoves).any
      (tells ⟨"jobs", 2, some 2, some 3604⟩) = true := by decide +kernel
  rcases exists_of_tells htells with ⟨history, m, calls, hrun, honline, hanswer, hcalls, hrecent⟩
  rcases Memory.exists_of_perform_eq_ok rfl hanswer with ⟨q, hq, -⟩
  rcases metrics_reflect_history hrun hq honline with
    ⟨calls', r, hcalls', -, hanswer', -, hreflects, hages⟩
  rw [hanswer, Except.ok.injEq] at hanswer'
  rw [hcalls, Option.some.injEq] at hcalls'
  subst hanswer' hcalls'
  exact ⟨history, m, calls, hrun, hcalls, hanswer, hreflects, hages (by decide) hrecent⟩

/-! ## Around a leap second -/

/-- Nine tenths into the leap second at the end of the year 2016. -/
def leapStart : Instant := ⟨1483228799, 1900000000, by decide, by decide, by decide⟩

/-- A message in the leap second, another one at midnight, and an hour on top. -/
def leapMoves : List Move :=
  [.request (.create jobs), .request (.send jobs .null), .advance 100000000,
    .request (.send jobs .null), .advance 3600000000000]

/-- An hour after midnight the message of the leap second is told to be younger than the one of
midnight, although the clock went forward and both are recent. -/
theorem not_newestIsYounger_leapSecond :
    ¬ ∀ (start : Instant) (moves : List Move) (history calls : List Call) (m : Memory)
      (name : QueueName) (r : QueueMetrics),
      (Memory.new start).history moves = some (history, m) →
      incarnation name.text history = some calls →
      (Memory.perform (.metrics name) m).1 = .ok r →
      (∀ a ∈ moves, a.isOnward = true) →
      (∀ s ∈ remaining calls, m.now.nanosecondsSince s.sentAt < 2 ^ 31 * 1000000000) →
      NewestIsYounger r := by
  intro hall
  have htells : ((Memory.new leapStart).history leapMoves).any
      (tells ⟨"jobs", 2, some 3600, some 3599⟩) = true := by decide +kernel
  rcases exists_of_tells htells with ⟨history, m, calls, hrun, -, hanswer, hcalls, hrecent⟩
  have hyounger := hall leapStart leapMoves history calls m jobs _ hrun hcalls hanswer (by decide)
    hrecent
  exact absurd (hyounger 3600 3599 rfl rfl).2 (by decide)

end Store
end MessageQueue
