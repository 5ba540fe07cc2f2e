import Mathlib.Data.List.Forall2
import Mathlib.Data.List.Nodup
import Mathlib.Data.List.Perm.Basic
import MessageQueue.Proofs.Store.Selection

/-!
# Requests in any order

A change of visibility, a deletion and an archiving touch one id of a queue: what they answer
depends on the live message with that id alone, and under all other ids the queue stays as it is.
So such requests with different ids may be made in any order.  A send may stand at any place among
them, as long as none of them touches the id that it gives out.

Main results:

- Theorem `place_after`: what a request leaves under each id of a queue.
- Theorem `run_asked_iff`: in a run of requests with different ids each is answered as if it came
  first.
- Theorems `afterAll_perm` and `send_afterAll`: the queue after all of them, in any order and with a
  send among them.
- Theorem `touches_commute`: requests with different ids and a send may be made in any order.
-/

namespace MessageQueue
namespace Store

open Time (Instant)

/-! ## Places of a queue -/

/-- What a queue has under an id: a live message or none, and an archived one or none. -/
structure Place where
  live : Option StoredMessage
  archived : Option StoredMessage

namespace Queue

/-- What the queue has under an id. -/
def place (q : Queue) (id : Int) : Place := ⟨q.live.get? id, q.archived.get? id⟩

/-- Queues made at the same instant, with the same next id and the same under every id, are
equal. -/
theorem ext_place {a b : Queue} (hcreated : a.createdAt = b.createdAt)
    (hnext : a.nextId = b.nextId) (h : ∀ id, a.place id = b.place id) : a = b := by
  apply ext_get? hcreated hnext
  · apply SortedMap.ext_get?
    intro id
    exact congrArg Place.archived (h id)
  · intro id
    exact congrArg Place.live (h id)

/-- A send leaves all places but that of the next id. -/
theorem place_send (q : Queue) (now : Instant) (payload : Json) {id : Int} (h : id ≠ q.nextId) :
    (q.send now payload).2.place id = q.place id := by
  rw [place, get?_send, if_neg h, (q.send_frame now payload).2.2, place]

end Queue

/-! ## Touching one place -/

/-- A request that touches one id of a queue. -/
inductive Touch where
  | setVisibility (id vt : Int)
  | delete (id : Int)
  | archive (id : Int)
deriving DecidableEq

namespace Touch

/-- The id that is touched. -/
def id : Touch → Int
  | setVisibility id _ | delete id | archive id => id

/-- The request of a store. -/
def request (name : QueueName) : Touch → Request
  | setVisibility id vt => .setVisibility name id vt
  | delete id => .delete name id
  | archive id => .archive name id

/-- The answer where a message is live under the id, or none. -/
def reply (name : QueueName) (now : Instant) (found : Option StoredMessage) :
    (a : Touch) → Except Failure (a.request name).Reply
  | setVisibility id vt =>
    match found, now.addSeconds? vt with
    | none, _ => .ok none
    | some _, none => .error .overflow
    | some m, some hidden => .ok (some (handOut hidden (id, m)))
  | delete _ => .ok found.isSome
  | archive _ => .ok found.isSome

/-- What is left in the place that is touched. -/
def leave (now : Instant) (p : Place) : Touch → Place
  | setVisibility _ vt =>
    match p.live, now.addSeconds? vt with
    | some m, some hidden => ⟨some (m.hiddenUntil hidden), p.archived⟩
    | _, _ => p
  | delete _ => ⟨none, p.archived⟩
  | archive _ => ⟨none, p.live.or p.archived⟩

/-- The queue that is left. -/
def after (now : Instant) (q : Queue) : Touch → Queue
  | setVisibility id vt => (q.setVisibility now id vt).2
  | delete id => (q.delete id).2
  | archive id => (q.archive id).2

/-- A request leaves all places but the one that it touches. -/
theorem place_after (now : Instant) (q : Queue) (a : Touch) (i : Int) :
    (a.after now q).place i = if i = a.id then a.leave now (q.place i) else q.place i := by
  cases a with
  | setVisibility id vt =>
      simp only [after, Touch.id, leave, Queue.place, Queue.setVisibility]
      cases hlive : q.live.get? id with
      | none => by_cases hi : i = id <;> simp [hi, hlive]
      | some m =>
          cases now.addSeconds? vt with
          | none => by_cases hi : i = id <;> simp [hi, hlive]
          | some hidden => by_cases hi : i = id <;> simp [hi, hlive, SortedMap.get?_insert]
  | delete id =>
      simp only [after, Touch.id, leave, Queue.place, Queue.delete]
      cases hlive : q.live.get? id with
      | none => by_cases hi : i = id <;> simp [hi, hlive]
      | some m => by_cases hi : i = id <;> simp [hi, SortedMap.get?_erase]
  | archive id =>
      simp only [after, Touch.id, leave, Queue.place, Queue.archive]
      cases hlive : q.live.get? id with
      | none => by_cases hi : i = id <;> simp [hi, hlive]
      | some m =>
          by_cases hi : i = id <;>
            simp [hi, hlive, SortedMap.get?_erase, SortedMap.get?_insert]

/-- A request gives out no id. -/
theorem after_frame (now : Instant) (q : Queue) (a : Touch) :
    (a.after now q).createdAt = q.createdAt ∧ (a.after now q).nextId = q.nextId := by
  cases a with
  | setVisibility id vt =>
      simp only [after, Queue.setVisibility]
      cases q.live.get? id with
      | none => exact ⟨rfl, rfl⟩
      | some m => cases now.addSeconds? vt <;> exact ⟨rfl, rfl⟩
  | delete id =>
      simp only [after, Queue.delete]
      cases q.live.get? id <;> exact ⟨rfl, rfl⟩
  | archive id =>
      simp only [after, Queue.archive]
      cases q.live.get? id <;> exact ⟨rfl, rfl⟩

/-- The step of a queue for a request that touches one place. -/
theorem queueStep?_request (name : QueueName) (now : Instant) (a : Touch) :
    Memory.queueStep? now (a.request name) =
      some (name, fun q => (a.reply name now (q.live.get? a.id), a.after now q)) := by
  cases a with
  | setVisibility id vt =>
      refine congrArg (fun step => some (name, step)) (funext fun q => ?_)
      simp only [Queue.setVisibility, reply, after, Touch.id]
      cases q.live.get? id with
      | none => rfl
      | some m => cases now.addSeconds? vt <;> rfl
  | delete id =>
      refine congrArg (fun step => some (name, step)) (funext fun q => ?_)
      exact Prod.ext (congrArg Except.ok (q.delete_eq id)) rfl
  | archive id =>
      refine congrArg (fun step => some (name, step)) (funext fun q => ?_)
      exact Prod.ext (congrArg Except.ok (q.archive_eq id)) rfl

/-- Requests that touch different places commute. -/
theorem after_after (now : Instant) (q : Queue) {a b : Touch} (h : a.id ≠ b.id) :
    b.after now (a.after now q) = a.after now (b.after now q) := by
  have hframe := fun (c : Touch) q => c.after_frame now q
  apply Queue.ext_place
  · simp only [hframe]
  · simp only [hframe]
  · intro i
    simp only [place_after]
    by_cases ha : i = a.id
    · have hb : i ≠ b.id := fun hb => h (ha.symm.trans hb)
      simp only [if_pos ha, if_neg hb]
    · simp only [if_neg ha]

/-- A send commutes with a request that does not touch the place it fills. -/
theorem send_after (now : Instant) (q : Queue) (payload : Json) {a : Touch}
    (h : a.id ≠ q.nextId) :
    ((a.after now q).send now payload).2 = a.after now (q.send now payload).2 := by
  rcases a.after_frame now q with ⟨hcreated, hnext⟩
  rcases a.after_frame now (q.send now payload).2 with ⟨hcreated', hnext'⟩
  apply Queue.ext_place
  · rw [hcreated']
    exact hcreated
  · rw [hnext', (Queue.send_frame _ now payload).2.1, hnext, (q.send_frame now payload).2.1]
  · intro i
    rw [place_after]
    by_cases hi : i = a.id
    · have hplace : i ≠ q.nextId := fun heq => h (hi.symm.trans heq)
      rw [Queue.place_send _ now payload (by rwa [hnext]), place_after,
        q.place_send now payload hplace]
    · rw [if_neg hi]
      simp only [Queue.place, Queue.get?_send, (Queue.send_frame _ now payload).2.2, hnext]
      have hplace := place_after now q a i
      rw [if_neg hi, Queue.place, Queue.place, Place.mk.injEq] at hplace
      rw [hplace.1, hplace.2]

end Touch

/-! ## Touching several places -/

/-- The queue that requests leave, one after the other. -/
def Queue.afterAll (q : Queue) (now : Instant) (acts : List Touch) : Queue :=
  acts.foldl (Touch.after now) q

namespace Queue

variable {now : Instant} {acts order : List Touch}

/-- Requests in a row give out no id. -/
theorem nextId_afterAll (q : Queue) (now : Instant) (acts : List Touch) :
    (q.afterAll now acts).nextId = q.nextId := by
  induction acts generalizing q with
  | nil => rfl
  | cons a rest ih => exact (ih (a.after now q)).trans (a.after_frame now q).2

/-- Requests in a row leave all places but those that they touch. -/
theorem place_afterAll (q : Queue) {i : Int} (h : i ∉ acts.map Touch.id) :
    (q.afterAll now acts).place i = q.place i := by
  induction acts generalizing q with
  | nil => rfl
  | cons a rest ih =>
      rw [List.map_cons, List.mem_cons, not_or] at h
      rw [← (a.place_after now q i).trans (if_neg h.1)]
      exact ih (a.after now q) h.2

/-- Requests with different ids may be made in any order. -/
theorem afterAll_perm (q : Queue) (hnodup : (acts.map Touch.id).Nodup) (h : order.Perm acts) :
    q.afterAll now order = q.afterAll now acts := by
  refine (h.symm.foldl_eq' ?_ q).symm
  intro a ha b hb q
  by_cases hid : a.id = b.id
  · rw [List.inj_on_of_nodup_map hnodup ha hb hid]
  · exact Touch.after_after now q hid

/-- A send may be made before or after requests that do not touch its place. -/
theorem send_afterAll (q : Queue) (payload : Json) (h : ∀ a ∈ acts, a.id ≠ q.nextId) :
    ((q.afterAll now acts).send now payload).2 = (q.send now payload).2.afterAll now acts := by
  induction acts generalizing q with
  | nil => rfl
  | cons a rest ih =>
      have hrest : ∀ b ∈ rest, b.id ≠ (a.after now q).nextId := by
        intro b hb
        rw [(a.after_frame now q).2]
        exact h b (List.mem_cons_of_mem _ hb)
      have hafter := ih (a.after now q) hrest
      rw [Touch.send_after now q payload (h a List.mem_cons_self)] at hafter
      exact hafter

end Queue

/-! ## Runs -/

namespace Memory

/-- The store with another queue of some name, after so many more calls. -/
def withQueue (m : Memory) (name : QueueName) (q : Queue) (calls : Nat) : Memory :=
  { m with queues := m.queues.insert name.text q, calls := m.calls + calls }

/-- Requests as the moves of a run. -/
def asked (name : QueueName) (acts : List Touch) : List Move :=
  acts.map fun a => .request (a.request name)

theorem asked_cons (name : QueueName) (a : Touch) (rest : List Touch) :
    asked name (a :: rest) = .request (a.request name) :: asked name rest := rfl

/-- The exchange that a request leads to, when the queue is as given. -/
def Answers (name : QueueName) (now : Instant) (q : Queue) (a : Touch) (x : Exchange) : Prop :=
  ∃ reply, told? (a.reply name now (q.live.get? a.id)) = some reply ∧ x = ⟨a.request name, reply⟩

section Runs

variable {m m' : Memory} {name : QueueName} {q start : Queue} {acts : List Touch}
  {xs : List Exchange}

@[simp]
theorem get?_withQueue (m : Memory) (name : QueueName) (q : Queue) (calls : Nat) :
    (m.withQueue name q calls).queues.get? name.text = some q := by
  simp [withQueue, SortedMap.get?_insert]

theorem withQueue_withQueue (m : Memory) (name : QueueName) (q q' : Queue) (a b : Nat) :
    (m.withQueue name q a).withQueue name q' b = m.withQueue name q' (a + b) := by
  simp [withQueue, SortedMap.insert_insert, Nat.add_assoc]

theorem withQueue_self (hq : m.queues.get? name.text = some q) : m.withQueue name q 0 = m := by
  simp [withQueue, SortedMap.insert_of_get? hq]

/-- The exchanges are about the requests, one by one. -/
theorem map_request_of_answers {now : Instant}
    (h : List.Forall₂ (Answers name now q) acts xs) :
    xs.map Exchange.request = acts.map (Touch.request name) := by
  induction h with
  | nil => rfl
  | cons hanswers _ ih =>
      rcases hanswers with ⟨reply, -, rfl⟩
      rw [List.map_cons, List.map_cons, ih]

/-- A run that begins with a request goes on from the store that the request leaves. -/
theorem run_request_iff {r : Request} {rest : List Move} :
    m.run (.request r :: rest) = some (xs, m') ↔
      ∃ reply more, told? (perform r m).1 = some reply ∧
        (perform r m).2.run rest = some (more, m') ∧ xs = ⟨r, reply⟩ :: more := by
  cases htold : told? (perform r m).1 with
  | none => simp [run, move, htold]
  | some reply =>
      simp only [run, move, htold, Option.map_some, Option.map_eq_some_iff]
      constructor
      · rintro ⟨⟨more, last⟩, hrun, heq⟩
        cases heq
        exact ⟨reply, more, rfl, hrun, rfl⟩
      · rintro ⟨reply', more, heq, hrun, rfl⟩
        cases heq
        exact ⟨(more, m'), hrun, rfl⟩

/-- In a run of requests with different ids each is answered as if it came first. -/
theorem run_asked_iff (honline : m.offline = false) (hq : m.queues.get? name.text = some q)
    (hnodup : (acts.map Touch.id).Nodup) (hstart : ∀ a ∈ acts, q.place a.id = start.place a.id) :
    m.run (asked name acts) = some (xs, m') ↔
      List.Forall₂ (Answers name m.now start) acts xs ∧
        m' = m.withQueue name (q.afterAll m.now acts) acts.length := by
  induction acts generalizing m q xs with
  | nil =>
      have hsame : m.withQueue name (q.afterAll m.now []) 0 = m := withQueue_self hq
      rw [List.length_nil, hsame, List.forall₂_nil_left_iff]
      simp [asked, run, eq_comm]
  | cons a rest ih =>
      rw [List.map_cons, List.nodup_cons] at hnodup
      have hperform : perform (a.request name) m =
          (a.reply name m.now (q.live.get? a.id), m.withQueue name (a.after m.now q) 1) :=
        perform_eq_of_queueStep? (a.queueStep?_request name m.now) honline hq
      have hlive : q.live.get? a.id = start.live.get? a.id :=
        congrArg Place.live (hstart a List.mem_cons_self)
      -- what the request leaves is as it was under the ids of the requests that follow
      have hrest : ∀ b ∈ rest, (a.after m.now q).place b.id = start.place b.id := by
        intro b hb
        have hne : b.id ≠ a.id := fun heq => hnodup.1 (heq ▸ List.mem_map_of_mem hb)
        rw [Touch.place_after, if_neg hne]
        exact hstart b (List.mem_cons_of_mem _ hb)
      have hmore : ∀ more,
          (m.withQueue name (a.after m.now q) 1).run (asked name rest) = some (more, m') ↔ _ :=
        fun more => ih honline (get?_withQueue m name _ 1) hnodup.2 hrest
      rw [asked_cons, run_request_iff, hperform, hlive, List.forall₂_cons_left_iff]
      simp only [hmore, withQueue_withQueue, Nat.add_comm 1]
      constructor
      · rintro ⟨reply, more, htold, ⟨hanswers, hafter⟩, rfl⟩
        exact ⟨⟨_, more, ⟨reply, htold, rfl⟩, hanswers, rfl⟩, hafter⟩
      · rintro ⟨⟨x, more, ⟨reply, htold, rfl⟩, hanswers, rfl⟩, hafter⟩
        exact ⟨reply, more, htold, ⟨hanswers, hafter⟩, rfl⟩

/-- A run may be put together from two. -/
theorem run_append_of_run {m₁ : Memory} {as bs : List Move} {ys : List Exchange}
    (hfirst : m.run as = some (xs, m₁)) (hsecond : m₁.run bs = some (ys, m')) :
    m.run (as ++ bs) = some (xs ++ ys, m') := by
  rw [run_append, hfirst, Option.bind_some]
  simp only [hsecond, Option.map_some]

/-- A send is answered with the next id. -/
theorem perform_send (honline : m.offline = false) (hq : m.queues.get? name.text = some q)
    (payload : Json) :
    perform (.send name payload) m =
      (.ok q.nextId, m.withQueue name (q.send m.now payload).2 1) := by
  rw [perform_eq_of_queueStep? (r := .send name payload) rfl honline hq]
  exact Prod.ext (congrArg Except.ok (q.send_frame m.now payload).1) rfl

/-- Among requests that do not touch the next id, a send is answered with that id, and the others as
if it were not there. -/
theorem run_around_send (honline : m.offline = false) (hq : m.queues.get? name.text = some q)
    {before after : List Touch} {ys zs : List Exchange}
    (hnodup : ((before ++ after).map Touch.id).Nodup)
    (hnext : ∀ a ∈ before ++ after, a.id ≠ q.nextId) (payload : Json)
    (hys : List.Forall₂ (Answers name m.now q) before ys)
    (hzs : List.Forall₂ (Answers name m.now q) after zs) :
    m.run (asked name before ++ .request (.send name payload) :: asked name after) =
      some (ys ++ ⟨.send name payload, .ok q.nextId⟩ :: zs,
        m.withQueue name ((q.send m.now payload).2.afterAll m.now (before ++ after))
          ((before ++ after).length + 1)) := by
  rw [List.map_append, List.nodup_append] at hnodup
  rcases hnodup with ⟨hbefore, hafter, hapart⟩
  let q₁ := q.afterAll m.now before
  let q₂ := (q₁.send m.now payload).2
  let m₁ := m.withQueue name q₁ before.length
  have hid : q₁.nextId = q.nextId := q.nextId_afterAll m.now before
  have hfirst : m.run (asked name before) = some (ys, m₁) :=
    (run_asked_iff honline hq hbefore fun _ _ => rfl).2 ⟨hys, rfl⟩
  have hsend : perform (.send name payload) m₁ = (.ok q.nextId, m₁.withQueue name q₂ 1) := by
    rw [perform_send (m := m₁) honline (get?_withQueue m name q₁ _) payload, hid]
    rfl
  have hq₂ : ∀ a ∈ after, q₂.place a.id = q.place a.id := by
    intro a ha
    have hnot : a.id ∉ before.map Touch.id := fun hmem =>
      hapart _ hmem _ (List.mem_map_of_mem ha) rfl
    have hne : a.id ≠ q₁.nextId := by
      rw [hid]
      exact hnext a (List.mem_append_right _ ha)
    rw [q₁.place_send m.now payload hne, q.place_afterAll hnot]
  have hlast : (m₁.withQueue name q₂ 1).run (asked name after) =
      some (zs, (m₁.withQueue name q₂ 1).withQueue name (q₂.afterAll m.now after) after.length) :=
    (run_asked_iff (m := m₁.withQueue name q₂ 1) honline (get?_withQueue m₁ name q₂ 1) hafter hq₂).2
      ⟨hzs, rfl⟩
  have hsecond := run_request_iff.2 ⟨_, zs, by rw [hsend]; rfl, by rw [hsend]; exact hlast, rfl⟩
  have hqueue : q₂.afterAll m.now after =
      (q.send m.now payload).2.afterAll m.now (before ++ after) := by
    have hsent : q₂ = (q.send m.now payload).2.afterAll m.now before :=
      q.send_afterAll payload fun a ha => hnext a (List.mem_append_left _ ha)
    rw [hsent, Queue.afterAll, Queue.afterAll, Queue.afterAll, List.foldl_append]
  have hcalls : before.length + (1 + after.length) = (before ++ after).length + 1 := by
    rw [List.length_append]
    omega
  rw [run_append_of_run hfirst hsecond, withQueue_withQueue, withQueue_withQueue, hqueue, hcalls]

end Runs

/-! ## Any order -/

/-- Requests of a queue that touch different ids, with the exchanges that they lead to in some order
and the store after them, may be made in any order. -/
structure InAnyOrder (m : Memory) (name : QueueName) (q : Queue) (acts : List Touch)
    (xs : List Exchange) (m' : Memory) : Prop where
  /-- In another order each request leads to the same exchange, and all lead to the same store. -/
  permuted : ∀ order, order.Perm acts → ∃ ys, m.run (asked name order) = some (ys, m') ∧
    ys.map Exchange.request = order.map (Touch.request name) ∧ ys.Perm xs
  /-- A send may stand at any place among them, if none touches the id that it gives out. -/
  withSend : (∀ a ∈ acts, a.id ≠ q.nextId) → ∀ payload, ∃ m'', ∀ before after,
    (before ++ after).Perm acts → ∃ ys zs,
      m.run (asked name before ++ .request (.send name payload) :: asked name after) =
        some (ys ++ ⟨.send name payload, .ok q.nextId⟩ :: zs, m'') ∧
      ys.map Exchange.request = before.map (Touch.request name) ∧
      zs.map Exchange.request = after.map (Touch.request name) ∧ (ys ++ zs).Perm xs

/-- Changes of visibility, deletions and archivings of different ids may be made in any order, and a
send at any place among them. -/
theorem touches_commute {m m' : Memory} {name : QueueName} {q : Queue} {acts : List Touch}
    {xs : List Exchange} (honline : m.offline = false)
    (hq : m.queues.get? name.text = some q) (hnodup : (acts.map Touch.id).Nodup)
    (hrun : m.run (asked name acts) = some (xs, m')) : InAnyOrder m name q acts xs m' := by
  rcases (run_asked_iff honline hq hnodup fun _ _ => rfl).1 hrun with ⟨hanswers, rfl⟩
  constructor
  · intro order horder
    have hnodup' : (order.map Touch.id).Nodup := (horder.map Touch.id).nodup_iff.2 hnodup
    rcases List.perm_comp_forall₂ horder hanswers with ⟨ys, hys, hperm⟩
    refine ⟨ys, ?_, map_request_of_answers hys, hperm⟩
    rw [run_asked_iff honline hq hnodup' fun _ _ => rfl, q.afterAll_perm hnodup horder,
      horder.length_eq]
    exact ⟨hys, rfl⟩
  · intro hnext payload
    refine ⟨m.withQueue name ((q.send m.now payload).2.afterAll m.now acts) (acts.length + 1), ?_⟩
    intro before after horder
    have hnodup' : ((before ++ after).map Touch.id).Nodup :=
      (horder.map Touch.id).nodup_iff.2 hnodup
    have hnext' : ∀ a ∈ before ++ after, a.id ≠ q.nextId := fun a ha => hnext a (horder.subset ha)
    rcases List.perm_comp_forall₂ horder hanswers with ⟨both, hboth, hperm⟩
    have hys := List.forall₂_take before.length hboth
    have hzs := List.forall₂_drop before.length hboth
    rw [List.take_left] at hys
    rw [List.drop_left] at hzs
    refine ⟨_, _, ?_, map_request_of_answers hys, map_request_of_answers hzs, ?_⟩
    · rw [run_around_send honline hq hnodup' hnext' payload hys hzs,
        Queue.afterAll_perm _ hnodup horder, horder.length_eq]
    · rw [List.take_append_drop]
      exact hperm

/-- Two live messages, one that is hidden and an id that was never given out. -/
def scattered : List Touch := [.setVisibility 1 60, .delete 3, .archive 2, .delete 9]

/-- In the queue of four messages, of which the second is hidden, they may be touched in any order,
and a send beside them. -/
theorem touches_commute_secondHidden :
    ∃ q xs m', secondHidden.offline = false ∧ secondHidden.queues.get? jobs.text = some q ∧
      (scattered.map Touch.id).Nodup ∧ (∀ a ∈ scattered, a.id ≠ q.nextId) ∧
      secondHidden.run (asked jobs scattered) = some (xs, m') ∧
      InAnyOrder secondHidden jobs q scattered xs m' :=
  ⟨_, _, _, rfl, rfl, by decide, by decide, rfl, touches_commute rfl rfl (by decide) rfl⟩

end Memory
end Store
end MessageQueue
