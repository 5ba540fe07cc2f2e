import Mathlib.Data.Fintype.Card
import Mathlib.Data.List.Flatten
import MessageQueue.Proofs.Client.Operations
import MessageQueue.Proofs.Store.Lifetime

/-!
# Draining a queue

Some clients read a queue in batches, each until it gets an empty batch, while the clock stands
still and nobody else is at work.  Every read takes the first of the messages that are still
visible and hides them until later than now, so what has been delivered and what is still visible
always make up, in this order, what was visible at the start.  From this it follows in every
order of the reads that the clients share out the visible messages, each to one of them and once,
and that they stop.

A read panics whose messages would be hidden beyond the last instant, or of which one was delivered
as often as can be counted.  So all this holds as far as the timeouts of the reads stay in the range
of instants and the counts in theirs.

Main results:

- Theorem `visibleIds_delivery`: a delivery takes the first visible messages and leaves the others
  visible.
- Theorem `Drain.progress`: delivered and still visible messages make up the visible ones of the
  start.
- Theorem `sharedOut_of_drain`: draining clients share out the visible messages.
- Theorem `not_sharedOut_atLimits`: at the last instant they do not, nor at the last delivery.
-/

namespace MessageQueue

namespace Store

open Time (Instant)

/-! ## Visible messages after a read -/

namespace Queue

/-- The ids of the messages that are visible at an instant, in ascending order. -/
def visibleIds (q : Queue) (now : Instant) : List Int := (q.visible now).map Prod.fst

/-- A delivery takes the first visible messages and leaves the others visible. -/
theorem visibleIds_delivery (q : Queue) {now hidden : Instant} (h : now < hidden) (limit : Nat) :
    (q.delivery now hidden limit).1.map Message.id = (q.visibleIds now).take limit ∧
      (q.delivery now hidden limit).2.visibleIds now = (q.visibleIds now).drop limit := by
  constructor
  · rw [delivery_ids, selected, List.map_take, visibleIds]
  · rw [visibleIds, visible_delivery q h, List.map_drop, visibleIds]

end Queue
end Store

namespace Client

open Store
open Time (Instant)

/-! ## Drains -/

/-- A read of a batch by one of the clients, with what came of it. -/
structure Draw (κ : Type) where
  client : κ
  vt : Option Int
  limit : Int
  result : Except Failure (List (Message Json))

namespace Draw

variable {κ : Type}

/-- The ids of the messages that the client got. -/
def ids (d : Draw κ) : List Int :=
  match d.result with
  | .ok batch => batch.map Message.id
  | .error _ => []

/-- Whether the client got an empty batch. -/
def foundNone (d : Draw κ) : Bool :=
  match d.result with
  | .ok [] => true
  | _ => false

end Draw

section Drains

variable {κ : Type}

/-- A client stops when it gets an empty batch. -/
def Stopped (draws : List (Draw κ)) (k : κ) : Prop :=
  ∃ d ∈ draws, d.client = k ∧ d.foundNone = true

instance [DecidableEq κ] (draws : List (Draw κ)) (k : κ) : Decidable (Stopped draws k) :=
  inferInstanceAs (Decidable (∃ d ∈ draws, _))

/-- All ids that a client got, in their order. -/
def collected [DecidableEq κ] (draws : List (Draw κ)) (k : κ) : List Int :=
  (draws.filter fun d => d.client = k).flatMap Draw.ids

/-- What comes of a read of a batch from a store in memory, and the world after it. -/
def draw (defaultVisibility : Int) (name : QueueName) (vt : Option Int) (limit : Int)
    (w : World Memory) : Except Failure (List (Message Json)) × World Memory :=
  readBatch ⟨Memory.store, defaultVisibility⟩ Message.anyPayload name.text vt limit w

/-- Clients that drain a queue, in any order of their reads: one that has not stopped reads again,
with a timeout and a limit of at least one. -/
inductive Drain (defaults : κ → Int) (name : QueueName) (start : World Memory) :
    List (Draw κ) → World Memory → Prop where
  | start : Drain defaults name start [] start
  | draw {draws : List (Draw κ)} {w : World Memory} (before : Drain defaults name start draws w)
      (k : κ) (vt : Option Int) (limit : Int) (hvt : 1 ≤ vt.getD (defaults k))
      (hlimit : 1 ≤ limit) (hgoing : ¬ Stopped draws k) :
      Drain defaults name start
        (draws ++ [⟨k, vt, limit, (draw (defaults k) name vt limit w).1⟩])
        (draw (defaults k) name vt limit w).2

/-! ## One read -/

/-- A read takes the first visible messages and leaves the others visible. -/
theorem draw_takes_first {v : Int} {name : QueueName} {vt : Option Int} {limit : Int}
    {w : World Memory} {q : Queue} (honline : w.store.offline = false)
    (hq : w.store.queues.get? name.text = some q) (hcounts : q.Unspent w.store.now)
    (hvt : 1 ≤ vt.getD v) (hlimit : 1 ≤ limit)
    (hrange : (w.store.now.addSeconds? (vt.getD v)).isSome) :
    ∃ batch q', (draw v name vt limit w).1 = .ok batch ∧
      (draw v name vt limit w).2.store.offline = false ∧
      (draw v name vt limit w).2.store.now = w.store.now ∧
      (draw v name vt limit w).2.store.queues.get? name.text = some q' ∧
      q'.Unspent w.store.now ∧
      batch.map Message.id = (q.visibleIds w.store.now).take limit.toNat ∧
      q'.visibleIds w.store.now = (q.visibleIds w.store.now).drop limit.toNat := by
  rcases Option.isSome_iff_exists.1 hrange with ⟨hidden, ht⟩
  have hfault : Operation.visibilityFault (vt.getD v) = none :=
    Operation.faultIf_eq_none_iff.2 (by omega)
  have hlater : w.store.now < hidden := Instant.lt_of_addSeconds? hvt ht
  rcases Memory.perform_of_queueStep? (r := .read name (vt.getD v) limit) rfl honline hq with
    ⟨hreply, hafter, hnow, hoffline⟩
  simp only [Queue.read_eq_delivery ht (hcounts.deliverable _)] at hreply hafter
  rcases q.visibleIds_delivery hlater limit.toNat with ⟨htaken, hleft⟩
  have hrun : draw v name vt limit w = _ :=
    Operation.run_readBatch_batch (c := ⟨Memory.store, v⟩) (d := Message.anyPayload) (w := w) name
      hfault hlimit
  simp only [Memory.store, Session.run_onStore, hreply, Operation.Plan.finish,
    ← Operation.decodeAll_eq_mapM, decodeAll_any] at hrun
  rw [hrun]
  exact ⟨_, _, rfl, hoffline, hnow, hafter, hcounts.delivery hlater _, htaken, hleft⟩

/-! ## All reads -/

/-- How far the clients have come. -/
structure Progress (name : QueueName) (now : Instant) (visible : List Int) (draws : List (Draw κ))
    (w : World Memory) : Prop where
  online : w.store.offline = false
  clock : w.store.now = now
  answered : ∀ d ∈ draws, ∃ batch, d.result = .ok batch
  /-- What was delivered and what is still visible make up what was visible at the start. -/
  split : ∃ q, w.store.queues.get? name.text = some q ∧ q.Unspent now ∧
    draws.flatMap Draw.ids ++ q.visibleIds now = visible
  /-- No client stops before everything is delivered. -/
  delivered : ∀ k, Stopped draws k → draws.flatMap Draw.ids = visible
  /-- No client gets an empty batch twice. -/
  once : ((draws.filter Draw.foundNone).map Draw.client).Nodup

/-- A client has stopped after one more read if it had before, or if it is the one that read and
got nothing. -/
theorem stopped_concat {draws : List (Draw κ)} {d : Draw κ} {k : κ} :
    Stopped (draws ++ [d]) k ↔ Stopped draws k ∨ (d.client = k ∧ d.foundNone = true) := by
  simp only [Stopped, List.mem_append, List.mem_singleton, or_and_right, exists_or,
    exists_eq_left]

/-- A client has stopped exactly when it is among those that got an empty batch. -/
theorem stopped_iff_mem {draws : List (Draw κ)} {k : κ} :
    Stopped draws k ↔ k ∈ (draws.filter Draw.foundNone).map Draw.client := by
  simp only [Stopped, List.mem_map, List.mem_filter]
  constructor
  · rintro ⟨d, hd, hk, hnone⟩
    exact ⟨d, ⟨hd, hnone⟩, hk⟩
  · rintro ⟨d, ⟨hd, hnone⟩, hk⟩
    exact ⟨d, hd, hk, hnone⟩

/-- A read of a client that has not stopped keeps the progress. -/
theorem Progress.draw {name : QueueName} {now : Instant} {visible : List Int}
    {draws : List (Draw κ)} {w : World Memory} (h : Progress name now visible draws w) {v : Int}
    {k : κ} {vt : Option Int} {limit : Int} (hvt : 1 ≤ vt.getD v) (hlimit : 1 ≤ limit)
    (hgoing : ¬ Stopped draws k) (hrange : (now.addSeconds? (vt.getD v)).isSome) :
    Progress name now visible (draws ++ [⟨k, vt, limit, (Client.draw v name vt limit w).1⟩])
      (Client.draw v name vt limit w).2 := by
  rcases h.split with ⟨q, hq, hcounts, hsplit⟩
  rw [← h.clock] at hrange hcounts
  rcases draw_takes_first h.online hq hcounts hvt hlimit hrange with
    ⟨batch, q', hresult, honline, hnow, hq', hcounts', htaken, hleft⟩
  rw [h.clock] at hnow htaken hleft hcounts'
  rw [hresult]
  let d : Draw κ := ⟨k, vt, limit, .ok batch⟩
  have hids : (draws ++ [d]).flatMap Draw.ids =
      draws.flatMap Draw.ids ++ (q.visibleIds now).take limit.toNat := by
    rw [List.flatMap_append, List.flatMap_singleton, ← htaken]
    rfl
  constructor
  · exact honline
  · exact hnow
  · intro d hd
    rcases List.mem_append.1 hd with hd | hd
    · exact h.answered d hd
    · rw [List.mem_singleton.1 hd]
      exact ⟨batch, rfl⟩
  · refine ⟨q', hq', hcounts', ?_⟩
    rw [hids, hleft, List.append_assoc, List.take_append_drop]
    exact hsplit
  · intro k' hstopped
    have hnothing : q.visibleIds now = [] := by
      rcases stopped_concat.1 hstopped with hbefore | ⟨-, hempty⟩
      · rw [← h.delivered k' hbefore] at hsplit
        exact List.append_right_eq_self.1 hsplit
      · cases batch with
        | nil =>
            rcases List.take_eq_nil_iff.1 htaken.symm with hzero | hnil
            · omega
            · exact hnil
        | cons message rest => cases hempty
    rw [hids, ← hsplit, hnothing, List.take_nil]
  · rw [List.filter_append, List.map_append]
    cases hnone : d.foundNone with
    | false =>
        have hfound : ¬ d.foundNone = true := by
          rw [hnone]
          exact Bool.false_ne_true
        rw [List.filter_cons_of_neg hfound, List.filter_nil, List.map_nil, List.append_nil]
        exact h.once
    | true =>
        rw [List.filter_cons_of_pos hnone, List.filter_nil, List.map_singleton]
        refine List.nodup_append.2 ⟨h.once, List.nodup_singleton k, ?_⟩
        intro k' hk' k'' hk''
        rw [List.mem_singleton.1 hk'']
        rintro rfl
        exact hgoing (stopped_iff_mem.2 hk')

/-- Clients that drain a queue make progress with every read. -/
theorem Drain.progress {defaults : κ → Int} {name : QueueName} {start w : World Memory}
    {draws : List (Draw κ)} {q : Queue} (hrun : Drain defaults name start draws w)
    (honline : start.store.offline = false)
    (hq : start.store.queues.get? name.text = some q) (hcounts : q.Unspent start.store.now)
    (hrange : ∀ d ∈ draws, (start.store.now.addSeconds? (d.vt.getD (defaults d.client))).isSome) :
    Progress name start.store.now (q.visibleIds start.store.now) draws w := by
  induction hrun with
  | start =>
      refine ⟨honline, rfl, by simp, ⟨q, hq, hcounts, rfl⟩, ?_, by simp⟩
      rintro k ⟨d, hd, -⟩
      cases hd
  | draw before k vt limit hvt hlimit hgoing ih =>
      have hearlier := ih fun d hd => hrange d (List.mem_append_left _ hd)
      have hnow := hrange _ (List.mem_append_right _ (List.mem_singleton_self _))
      exact hearlier.draw hvt hlimit hgoing hnow

/-! ## Sharing out -/

/-- Every answered read gives a message or stops its client. -/
theorem length_le_of_answered {draws : List (Draw κ)}
    (h : ∀ d ∈ draws, ∃ batch, d.result = .ok batch) :
    draws.length ≤ (draws.flatMap Draw.ids).length + (draws.filter Draw.foundNone).length := by
  induction draws with
  | nil => simp
  | cons d rest ih =>
      have hrest := ih fun d' hd' => h d' (List.mem_cons_of_mem _ hd')
      rcases h d List.mem_cons_self with ⟨batch, hbatch⟩
      rw [List.flatMap_cons, List.length_append, List.filter_cons, List.length_cons]
      cases batch with
      | nil =>
          have hnone : d.foundNone = true := by rw [Draw.foundNone, hbatch]
          rw [if_pos hnone, List.length_cons]
          omega
      | cons message more =>
          have hids : 1 ≤ d.ids.length := by simp [Draw.ids, hbatch]
          split
          · rw [List.length_cons]
            omega
          · omega

/-- Clients share out the messages that were visible: each client gets some of them in ascending
order, no message is delivered twice or without having been visible, and all is delivered by the
time that a client stops, which all of them do. -/
structure SharedOut [Fintype κ] [DecidableEq κ] (visible : List Int) (draws : List (Draw κ)) :
    Prop where
  /-- Every read is answered with a batch. -/
  answered : ∀ d ∈ draws, ∃ batch, d.result = .ok batch
  /-- There are at most as many reads as visible messages and clients together. -/
  bounded : draws.length ≤ visible.length + Fintype.card κ
  /-- After as many reads all clients have stopped. -/
  ends : draws.length = visible.length + Fintype.card κ → ∀ k, Stopped draws k
  /-- No hidden message is delivered. -/
  only : ∀ d ∈ draws, ∀ id ∈ d.ids, id ∈ visible
  /-- No message is delivered twice. -/
  once : (draws.flatMap Draw.ids).Nodup
  /-- When a client has stopped, each visible message has been delivered to exactly one client
  exactly once. -/
  complete : ∀ k, Stopped draws k → ∀ id ∈ visible,
    ∃ k', (collected draws k').count id = 1 ∧ ∀ l, l ≠ k' → id ∉ collected draws l
  /-- The ids that a client gets ascend over all its batches. -/
  ascending : ∀ k, (collected draws k).Pairwise (· < ·)

/-- The ids that one client gets are some of those that all get. -/
theorem collected_sublist [DecidableEq κ] (draws : List (Draw κ)) (k : κ) :
    (collected draws k).Sublist (draws.flatMap Draw.ids) :=
  List.filter_sublist.flatMap Draw.ids

/-- A client gets the ids of its own reads. -/
theorem mem_collected_iff [DecidableEq κ] {draws : List (Draw κ)} {k : κ} {id : Int} :
    id ∈ collected draws k ↔ ∃ d ∈ draws, d.client = k ∧ id ∈ d.ids := by
  simp only [collected, List.mem_flatMap, List.mem_filter, decide_eq_true_eq, and_assoc]

/-- When all ids are different, no two clients get the same. -/
theorem eq_of_mem_collected [DecidableEq κ] {draws : List (Draw κ)}
    (h : (draws.flatMap Draw.ids).Nodup) {k l : κ} {id : Int} (hk : id ∈ collected draws k)
    (hl : id ∈ collected draws l) : l = k := by
  rcases mem_collected_iff.1 hk with ⟨d, hd, rfl, hid⟩
  rcases mem_collected_iff.1 hl with ⟨d', hd', rfl, hid'⟩
  by_contra hne
  have hdiff : d ≠ d' := by
    rintro rfl
    exact hne rfl
  have hsymm : Std.Symm (Function.onFun List.Disjoint (Draw.ids : Draw κ → List Int)) :=
    ⟨fun _ _ hdisjoint => hdisjoint.symm⟩
  have hdisjoint := (List.nodup_flatMap.1 h).2.forall hd hd' hdiff
  exact hdisjoint hid hid'

/-- Clients that have made progress share out the visible messages. -/
theorem Progress.sharedOut [Fintype κ] [DecidableEq κ] {name : QueueName} {now : Instant}
    {visible : List Int} {draws : List (Draw κ)} {w : World Memory}
    (h : Progress name now visible draws w) (hvisible : visible.Pairwise (· < ·)) :
    SharedOut visible draws := by
  rcases h.split with ⟨q, -, -, hsplit⟩
  have hdelivered : (draws.flatMap Draw.ids).Sublist visible := by
    rw [← hsplit]
    exact List.sublist_append_left _ _
  have hascending : (draws.flatMap Draw.ids).Pairwise (· < ·) := hvisible.sublist hdelivered
  have hcount := length_le_of_answered h.answered
  have hlength := hdelivered.length_le
  have hclients := h.once.length_le_card
  rw [List.length_map] at hclients
  constructor
  · exact h.answered
  · omega
  · intro hall k
    have hfull : ((draws.filter Draw.foundNone).map Draw.client).length = Fintype.card κ := by
      rw [List.length_map]
      omega
    have huniv : ((draws.filter Draw.foundNone).map Draw.client).toFinset = Finset.univ := by
      apply Finset.eq_univ_of_card
      rw [List.toFinset_card_of_nodup h.once, hfull]
    rw [stopped_iff_mem, ← List.mem_toFinset, huniv]
    exact Finset.mem_univ k
  · intro d hd id hid
    exact hdelivered.subset (List.mem_flatMap.2 ⟨d, hd, hid⟩)
  · exact hascending.nodup
  · intro k hstopped id hid
    rw [← h.delivered k hstopped, List.mem_flatMap] at hid
    rcases hid with ⟨d, hd, hid⟩
    have hmem : id ∈ collected draws d.client := mem_collected_iff.2 ⟨d, hd, rfl, hid⟩
    have hnodup : (collected draws d.client).Nodup :=
      hascending.nodup.sublist (collected_sublist draws d.client)
    refine ⟨d.client, List.count_eq_one_of_mem hnodup hmem, ?_⟩
    intro l hl hother
    exact hl (eq_of_mem_collected hascending.nodup hmem hother)
  · intro k
    exact hascending.sublist (collected_sublist draws k)

end Drains

/-- In every order of their reads, clients that drain a queue of a store in reach share out the
messages that were visible, as long as one more delivery of each can be counted and the timeouts of
the reads stay in the range of instants. -/
theorem sharedOut_of_drain {κ : Type} [Fintype κ] [DecidableEq κ] {defaults : κ → Int}
    {name : QueueName} {start w : World Memory} {draws : List (Draw κ)} {q : Queue}
    (honline : start.store.offline = false) (hq : start.store.queues.get? name.text = some q)
    (hcounts : ∀ e ∈ q.visible start.store.now, e.2.readCount < 2147483647)
    (hrun : Drain defaults name start draws w)
    (hrange : ∀ d ∈ draws, (start.store.now.addSeconds? (d.vt.getD (defaults d.client))).isSome) :
    SharedOut (q.visibleIds start.store.now) draws :=
  (hrun.progress honline hq (fun e he => Int.not_le.2 (hcounts e he)) hrange).sharedOut
    (q.visible_pairwise start.store.now)

/-! ## Two clients -/

/-- A queue of four messages, the second of them hidden. -/
def fourJobs : World Memory :=
  .ofStore (Memory.perform (.setVisibility jobs 2 60) (Memory.perform (.send jobs .null)
    (Memory.perform (.send jobs (.bool true)) (Memory.perform (.send jobs .null)
      (Memory.perform (.send jobs (.string "a")) (Memory.perform (.create jobs)
        (.new .epoch)).2).2).2).2).2).2

/-- Two clients drain the queue: one gets two messages in one batch, the other the third. -/
theorem exists_drain_fourJobs :
    ∃ draws w q, Drain (fun _ : Bool => 30) jobs fourJobs draws w ∧
      fourJobs.store.queues.get? jobs.text = some q ∧
      (∀ e ∈ q.visible fourJobs.store.now, e.2.readCount < 2147483647) ∧
      (∀ k, Stopped draws k) ∧
      ∀ d ∈ draws, (fourJobs.store.now.addSeconds? (d.vt.getD 30)).isSome := by
  have h₀ : Drain (fun _ : Bool => 30) jobs fourJobs [] fourJobs := .start
  have h₁ := h₀.draw true (some 5) 2 (by decide) (by decide) (by decide)
  have h₂ := h₁.draw false none 7 (by decide) (by decide) (by decide)
  have h₃ := h₂.draw true (some 1) 1 (by decide) (by decide) (by decide)
  have h₄ := h₃.draw false (some 9) 3 (by decide) (by decide) (by decide)
  exact ⟨_, _, _, h₄, rfl, by decide, by decide, by decide⟩

/-- The two clients share out the visible messages of the queue. -/
theorem sharedOut_fourJobs :
    ∃ draws w q, Drain (fun _ : Bool => 30) jobs fourJobs draws w ∧ (∀ k, Stopped draws k) ∧
      fourJobs.store.queues.get? jobs.text = some q ∧
      SharedOut (q.visibleIds fourJobs.store.now) draws := by
  rcases exists_drain_fourJobs with ⟨draws, w, q, hrun, hq, hcounts, hstopped, hrange⟩
  exact ⟨draws, w, q, hrun, hstopped, hq, sharedOut_of_drain rfl hq hcounts hrun hrange⟩

/-! ## At the last instant -/

/-- The last instant but for fractions of a second. -/
def lastInstant : Instant :=
  { Instant.epoch with
    second := Time.lastSecond
    first_le := Int.le_trans Instant.epoch.first_le Instant.epoch.le_last
    le_last := Int.le_refl Time.lastSecond }

/-- A queue of one message at the last instant. -/
def lastMoment : World Memory :=
  .ofStore (Memory.perform (.send jobs .null) (Memory.perform (.create jobs)
    (.new lastInstant)).2).2

/-- At the last instant a client gets no batch at all, so it goes on reading beyond every bound
and the message is delivered to nobody. -/
theorem exists_drain_lastMoment :
    ∃ draws w q, lastMoment.store.Reachable ∧ lastMoment.store.offline = false ∧
      lastMoment.store.queues.get? jobs.text = some q ∧
      Drain (fun _ : Unit => 30) jobs lastMoment draws w ∧
      (q.visibleIds lastMoment.store.now).length + Fintype.card Unit < draws.length ∧
      ¬ SharedOut (q.visibleIds lastMoment.store.now) draws := by
  have h₀ : Drain (fun _ : Unit => 30) jobs lastMoment [] lastMoment := .start
  have h₁ := h₀.draw () (some 1) 1 (by decide) (by decide) (by decide)
  have h₂ := h₁.draw () (some 1) 1 (by decide) (by decide) (by decide)
  have h₃ := h₂.draw () (some 1) 1 (by decide) (by decide) (by decide)
  have hreach : lastMoment.store.Reachable :=
    ⟨lastInstant, [.request (.create jobs), .request (.send jobs .null)], _, rfl⟩
  refine ⟨_, _, _, hreach, rfl, rfl, h₃, by decide, ?_⟩
  intro h
  exact absurd h.bounded (by decide)

/-! ## At the last delivery -/

/-- A queue of one visible message that was delivered so often. -/
def wornQueue (deliveries : Nat) : Queue where
  createdAt := .epoch
  nextId := 2
  live := SortedMap.empty.insert 1 ⟨deliveries, .epoch, .epoch, .null⟩
  archived := .empty

/-- A store with one queue alone, after so many calls. -/
def storeOf (q : Queue) (calls : Nat) : Memory :=
  ⟨SortedMap.empty.insert jobs.text q, .epoch, false, calls⟩

/-- The store with the queue whose message was delivered so often. -/
def worn (deliveries : Nat) : World Memory :=
  .ofStore (storeOf (wornQueue deliveries) (2 + deliveries))

/-- A read whose timeout is over at once leaves the message visible, with one more delivery. -/
theorem read_wornQueue {deliveries : Nat} (h : deliveries < 2147483647) :
    ∃ ms, (wornQueue deliveries).read .epoch 0 1 = (.ok ms, wornQueue (deliveries + 1)) := by
  have ht : Instant.epoch.addSeconds? 0 = some .epoch := by decide
  have hdeliverable : (wornQueue deliveries).Deliverable .epoch 1 := by
    intro e he
    obtain rfl : e = (1, ⟨deliveries, .epoch, .epoch, .null⟩) := List.mem_singleton.1 he
    simp only [StoredMessage.Spent]
    omega
  exact ⟨_, Queue.read_eq_delivery ht hdeliverable⟩

/-- A read of the one queue of a store. -/
theorem perform_read_storeOf {q q' : Queue} {ms : List (Message Json)}
    (h : q.read .epoch 0 1 = (.ok ms, q')) (calls : Nat) :
    Memory.perform (.read jobs 0 1) (storeOf q calls) = (.ok ms, storeOf q' (calls + 1)) := by
  rw [Memory.perform_eq_of_queueStep? (m := storeOf q calls) (r := .read jobs 0 1) (q := q)
    rfl rfl rfl]
  simp only [storeOf, h, SortedMap.insert_insert]

/-- So the message can be delivered again and again, until its deliveries are as many as can be
counted. -/
theorem reachable_worn {deliveries : Nat} (h : deliveries ≤ 2147483647) :
    (worn deliveries).store.Reachable := by
  induction deliveries with
  | zero =>
      have hsent : (Memory.perform (.send jobs .null) (Memory.perform (.create jobs)
          (.new .epoch)).2).2 = (worn 0).store := by decide
      have hempty : (Memory.new .epoch).Reachable := ⟨.epoch, [], [], rfl⟩
      rw [← hsent]
      exact (hempty.perform _ rfl).perform _ rfl
  | succ deliveries ih =>
      rcases read_wornQueue h with ⟨ms, hread⟩
      have hperform := perform_read_storeOf hread (2 + deliveries)
      have hmore := (ih (Nat.le_of_succ_le h)).perform (.read jobs 0 1)
      rw [worn, World.ofStore, hperform] at hmore
      exact hmore rfl

/-- A client that comes to a message with a full count gets no batch, and the message is delivered
to nobody. -/
theorem exists_drain_worn :
    ∃ draws w, Drain (fun _ : Unit => 30) jobs (worn 2147483647) draws w ∧
      ¬ SharedOut ((wornQueue 2147483647).visibleIds .epoch) draws := by
  have h₀ : Drain (fun _ : Unit => 30) jobs (worn 2147483647) [] (worn 2147483647) := .start
  refine ⟨_, _, h₀.draw () (some 1) 1 (by decide) (by decide) (by decide), fun h => ?_⟩
  rcases h.answered _ (List.mem_singleton_self _) with ⟨batch, hbatch⟩
  cases hbatch

/-- Neither at the last instant nor at the last delivery of a message do clients share out a
queue. -/
theorem not_sharedOut_atLimits :
    (∃ draws w q, lastMoment.store.Reachable ∧ lastMoment.store.offline = false ∧
      lastMoment.store.queues.get? jobs.text = some q ∧
      Drain (fun _ : Unit => 30) jobs lastMoment draws w ∧
      (q.visibleIds lastMoment.store.now).length + Fintype.card Unit < draws.length ∧
      ¬ SharedOut (q.visibleIds lastMoment.store.now) draws) ∧
    (worn 2147483647).store.Reachable ∧ (worn 2147483647).store.offline = false ∧
      (worn 2147483647).store.queues.get? jobs.text = some (wornQueue 2147483647) ∧
      ∃ draws w, Drain (fun _ : Unit => 30) jobs (worn 2147483647) draws w ∧
        ¬ SharedOut ((wornQueue 2147483647).visibleIds .epoch) draws :=
  ⟨exists_drain_lastMoment, reachable_worn (Nat.le_refl _), rfl, rfl, exists_drain_worn⟩

end Client
end MessageQueue
