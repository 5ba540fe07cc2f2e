import Mathlib.Data.List.Sort
import MessageQueue.Proofs.Client.Draining
import MessageQueue.Proofs.Client.Lease
import MessageQueue.Proofs.Store.Batches

/-!
# Turning a queue over

Messages that are sent in a row get ids in a row.  Messages that are deleted in a row are gone and
all others are as they were, and the same for messages that are read and archived in a row, which
are in the archive afterwards.  What is live, archived or visible after all this is read off the ids
alone.

Main results:

- Theorem `visibleIds_sendAll`: messages sent in a row are visible after all others.
- Theorem `get?_deleteAll`: what becomes of each live message when some are deleted in a row.
- Theorems `get?_fileAll` and `get?_archived_fileAll`: the same when some are read and archived.
- Theorem `turnedOver`: what sending, archiving, sending and deleting equally many messages leaves.
-/

namespace MessageQueue
namespace Store

open Time (Instant)

/-! ## Ids in a row -/

/-- So many ids in a row. -/
def idsFrom (first : Int) (count : Nat) : List Int :=
  (List.range count).map fun i : Nat => first + i

@[simp]
theorem length_idsFrom (first : Int) (count : Nat) : (idsFrom first count).length = count := by
  simp [idsFrom]

@[simp]
theorem mem_idsFrom {first id : Int} {count : Nat} :
    id ∈ idsFrom first count ↔ first ≤ id ∧ id < first + count := by
  rw [idsFrom, List.mem_map]
  constructor
  · rintro ⟨i, hi, rfl⟩
    rw [List.mem_range] at hi
    omega
  · rintro ⟨hfirst, hlast⟩
    exact ⟨(id - first).toNat, List.mem_range.2 (by omega), by omega⟩

/-- The ids in a row are the first one and those in a row from the next one on. -/
theorem idsFrom_succ (first : Int) (count : Nat) :
    idsFrom first (count + 1) = first :: idsFrom (first + 1) count := by
  rw [idsFrom, List.range_succ_eq_map, List.map_cons, List.map_map, idsFrom]
  congr 1
  · omega
  · apply List.map_congr_left
    intro i _
    rw [Function.comp_apply]
    omega

/-- Ids in a row ascend. -/
theorem idsFrom_pairwise (first : Int) (count : Nat) :
    (idsFrom first count).Pairwise (· < ·) := by
  rw [idsFrom, List.pairwise_map]
  refine List.pairwise_lt_range.imp ?_
  intro i j hij
  omega

namespace Queue

variable {q q' : Queue} {now hidden : Instant} {payload : Json} {id : Int} {ids rest : List Int}

/-! ## Visible ids -/

/-- The ids of the visible messages ascend. -/
theorem visibleIds_pairwise (q : Queue) (now : Instant) : (q.visibleIds now).Pairwise (· < ·) :=
  q.visible_pairwise now

/-- An id is visible when it is that of a live message which is no longer hidden. -/
theorem mem_visibleIds_iff :
    id ∈ q.visibleIds now ↔ ∃ m, q.live.get? id = some m ∧ m.visibleAt ≤ now := by
  rw [visibleIds, List.mem_map]
  constructor
  · rintro ⟨⟨i, m⟩, hmem, rfl⟩
    exact ⟨m, mem_visible_iff.1 hmem⟩
  · rintro ⟨m, hm⟩
    exact ⟨(id, m), mem_visible_iff.2 hm, rfl⟩

/-- Ids that ascend are the visible ids when they have the same members. -/
theorem visibleIds_eq_of_mem_iff (hids : ids.Pairwise (· < ·))
    (h : ∀ i, i ∈ q.visibleIds now ↔ i ∈ ids) : q.visibleIds now = ids :=
  (q.visibleIds_pairwise now).eq_of_mem_iff hids h

/-- Without the first visible message the others are left. -/
theorem visibleIds_of_gone (h : q.visibleIds now = id :: rest)
    (hgone : ∀ i, q'.live.get? i = if i = id then none else q.live.get? i) :
    q'.visibleIds now = rest := by
  have hsorted := q.visibleIds_pairwise now
  rw [h, List.pairwise_cons] at hsorted
  rcases hsorted with ⟨hfirst, hrest⟩
  apply visibleIds_eq_of_mem_iff hrest
  intro i
  have hmem : i ∈ q.visibleIds now ↔ i = id ∨ i ∈ rest := by rw [h, List.mem_cons]
  rw [mem_visibleIds_iff] at hmem
  rw [mem_visibleIds_iff, hgone]
  by_cases hi : i = id
  · subst hi
    simpa using fun hagain => absurd (hfirst i hagain) (Int.lt_irrefl i)
  · simpa [hi] using hmem

/-- When no message is visible a delivery changes nothing. -/
theorem delivery_of_nothing (h : q.visibleIds now = []) (hidden : Instant) :
    q.delivery now hidden 1 = ([], q) := by
  have hvisible : q.visible now = [] := List.map_eq_nil_iff.1 h
  have hselected : q.selected now 1 = [] := by rw [selected, hvisible, List.take_nil]
  rw [delivery, hselected]
  apply Prod.ext
  · rfl
  · apply ext_get?
    · rfl
    · rfl
    · rfl
    · intro i
      simp [get?_marked]

/-- A delivery of one message takes the first visible one and marks it. -/
theorem delivery_of_visible (h : q.visibleIds now = id :: rest) (hidden : Instant) :
    ∃ m, q.live.get? id = some m ∧
      q.delivery now hidden 1 = ([handOut hidden (id, m)], q.marked [id] hidden) := by
  rcases List.map_eq_cons_iff.1 h with ⟨⟨i, m⟩, others, hvisible, rfl, -⟩
  have hmem : (i, m) ∈ q.visible now := by simp [hvisible]
  have hselected : q.selected now 1 = [(i, m)] := by rw [selected, hvisible]; rfl
  refine ⟨m, (mem_visible_iff.1 hmem).1, ?_⟩
  rw [delivery, hselected]
  rfl

/-! ## Spent messages -/

/-- Of the live messages with some ids none is spent. -/
def NoneSpent (q : Queue) (ids : List Int) : Prop :=
  ∀ id ∈ ids, ∀ m, q.live.get? id = some m → ¬m.Spent

theorem noneSpent_cons {m : StoredMessage} (hm : q.live.get? id = some m) :
    q.NoneSpent (id :: ids) ↔ ¬m.Spent ∧ q.NoneSpent ids := by
  simp [NoneSpent, hm]

/-- Where the live messages are the same, so are the spent ones. -/
theorem noneSpent_congr (h : ∀ i ∈ ids, q'.live.get? i = q.live.get? i) :
    q'.NoneSpent ids ↔ q.NoneSpent ids := by
  refine forall₂_congr fun i hi => ?_
  rw [h i hi]

/-- Without the first visible message the others are spent or not as before. -/
theorem noneSpent_of_gone (h : q.visibleIds now = id :: rest)
    (hgone : ∀ i, q'.live.get? i = if i = id then none else q.live.get? i) (hids : ids ⊆ rest) :
    q'.NoneSpent ids ↔ q.NoneSpent ids := by
  have hsorted := q.visibleIds_pairwise now
  rw [h, List.pairwise_cons] at hsorted
  apply noneSpent_congr
  intro i hi
  have hlt := hsorted.1 i (hids hi)
  rw [hgone, if_neg (Int.ne_of_gt hlt)]

/-- Where nothing is visible nothing has to be counted. -/
theorem deliverable_of_nothing (h : q.visibleIds now = []) (limit : Nat) :
    q.Deliverable now limit := by
  have hvisible : q.visible now = [] := List.map_eq_nil_iff.1 h
  intro e he
  rw [selected, hvisible, List.take_nil] at he
  exact absurd he List.not_mem_nil

/-- One message can be delivered when the first visible one is not spent. -/
theorem deliverable_one_iff {m : StoredMessage} (h : q.visibleIds now = id :: rest)
    (hm : q.live.get? id = some m) : q.Deliverable now 1 ↔ ¬m.Spent := by
  rcases List.map_eq_cons_iff.1 h with ⟨⟨i, m'⟩, others, hvisible, rfl, -⟩
  have hmem : (i, m') ∈ q.visible now := by simp [hvisible]
  obtain rfl : m' = m := Option.some.inj ((mem_visible_iff.1 hmem).1.symm.trans hm)
  simp [Deliverable, selected, hvisible]

/-- The visible messages are spent or not under their ids. -/
theorem noneSpent_visibleIds_iff : q.NoneSpent (q.visibleIds now) ↔ q.Unspent now := by
  constructor
  · rintro h ⟨i, m⟩ hmem
    exact h i (List.mem_map_of_mem hmem) m (mem_visible_iff.1 hmem).1
  · intro h i hi m hm
    rcases mem_visibleIds_iff.1 hi with ⟨m', hm', hvisible⟩
    cases hm'.symm.trans hm
    exact h (i, m) (mem_visible_iff.2 ⟨hm, hvisible⟩)

/-! ## Sending in a row -/

/-- The queue after so many sends of a payload. -/
def sendAll (q : Queue) (now : Instant) (payload : Json) : Nat → Queue
  | 0 => q
  | count + 1 => (q.send now payload).2.sendAll now payload count

/-- Sends in a row take ids in a row and leave the archive as it is. -/
theorem sendAll_frame (q : Queue) (now : Instant) (payload : Json) (count : Nat) :
    (q.sendAll now payload count).nextId = q.nextId + count ∧
      (q.sendAll now payload count).archived = q.archived := by
  induction count generalizing q with
  | zero => exact ⟨by simp [sendAll], rfl⟩
  | succ count ih =>
      rcases q.send_frame now payload with ⟨-, hnext, harchived⟩
      rcases ih (q.send now payload).2 with ⟨hnext', harchived'⟩
      rw [sendAll, hnext', harchived', hnext, harchived]
      exact ⟨by omega, rfl⟩

/-- Messages sent in a row are live under ids in a row. -/
theorem get?_sendAll (q : Queue) (now : Instant) (payload : Json) (count : Nat) (id : Int) :
    (q.sendAll now payload count).live.get? id =
      if id ∈ idsFrom q.nextId count then some ⟨0, now, now, payload⟩ else q.live.get? id := by
  induction count generalizing q with
  | zero => simp [sendAll, idsFrom]
  | succ count ih =>
      rcases q.send_frame now payload with ⟨-, hnext, -⟩
      rw [sendAll, ih, hnext, get?_send, idsFrom_succ]
      by_cases hid : id = q.nextId
      · simp [hid]
      · simp only [hid, List.mem_cons, false_or, if_false]

/-- Messages sent in a row are visible after all others. -/
theorem visibleIds_sendAll (hlive : ∀ i, q.live.contains i = true → i < q.nextId) (now : Instant)
    (payload : Json) (count : Nat) :
    (q.sendAll now payload count).visibleIds now =
      q.visibleIds now ++ idsFrom q.nextId count := by
  have hbelow : ∀ i ∈ q.visibleIds now, i < q.nextId := by
    intro i hi
    rcases mem_visibleIds_iff.1 hi with ⟨m, hm, -⟩
    exact hlive i (by rw [SortedMap.contains, hm]; rfl)
  apply visibleIds_eq_of_mem_iff
  · refine List.pairwise_append.2 ⟨q.visibleIds_pairwise now, idsFrom_pairwise _ count, ?_⟩
    intro i hi j hj
    exact Int.lt_of_lt_of_le (hbelow i hi) (mem_idsFrom.1 hj).1
  · intro i
    rw [mem_visibleIds_iff, List.mem_append, mem_visibleIds_iff, get?_sendAll]
    by_cases hi : i ∈ idsFrom q.nextId count
    · have hnow : now ≤ now := by
        rw [Instant.le_iff_not_lt, Instant.lt_iff]
        omega
      simp [hi, hnow]
    · simp [hi]

/-! ## Deleting in a row -/

/-- The queue after messages were deleted one after the other. -/
def deleteAll (q : Queue) : List Int → Queue
  | [] => q
  | id :: rest => (q.delete id).2.deleteAll rest

/-- A deleted message is not live, and a deletion leaves the other live messages as they are. -/
theorem get?_delete (q : Queue) (id i : Int) :
    (q.delete id).2.live.get? i = if i = id then none else q.live.get? i := by
  unfold delete
  cases hlive : q.live.get? id with
  | none => by_cases hi : i = id <;> simp [hi, hlive]
  | some m => exact q.live.get?_erase id i

/-- A deletion leaves everything but the live messages as it is. -/
theorem delete_frame (q : Queue) (id : Int) :
    (q.delete id).2.createdAt = q.createdAt ∧ (q.delete id).2.nextId = q.nextId ∧
      (q.delete id).2.archived = q.archived := by
  unfold delete
  cases q.live.get? id <;> exact ⟨rfl, rfl, rfl⟩

/-- Deletions in a row leave the live messages with other ids as they are. -/
theorem get?_deleteAll (q : Queue) (ids : List Int) (i : Int) :
    (q.deleteAll ids).live.get? i = if i ∈ ids then none else q.live.get? i := by
  induction ids generalizing q with
  | nil => simp [deleteAll]
  | cons id rest ih =>
      rw [deleteAll, ih, get?_delete]
      by_cases hi : i = id <;> simp [hi]

/-- Deletions in a row leave everything but the live messages as it is. -/
theorem deleteAll_frame (q : Queue) (ids : List Int) :
    (q.deleteAll ids).createdAt = q.createdAt ∧ (q.deleteAll ids).nextId = q.nextId ∧
      (q.deleteAll ids).archived = q.archived := by
  induction ids generalizing q with
  | nil => exact ⟨rfl, rfl, rfl⟩
  | cons id rest ih =>
      rcases q.delete_frame id with ⟨hcreated, hnext, harchived⟩
      rw [deleteAll, ← hcreated, ← hnext, ← harchived]
      exact ih (q.delete id).2

/-- A message that was marked and then deleted is gone as if it had been deleted at once. -/
theorem delete_marked {m : StoredMessage} (h : q.live.get? id = some m) (hidden : Instant) :
    (q.marked [id] hidden).delete id = (true, (q.delete id).2) := by
  have hmarked : (q.marked [id] hidden).live.get? id = some (m.afterRead hidden) := by
    simp [get?_marked, h]
  rw [delete, hmarked, delete, h]
  apply Prod.ext
  · rfl
  · apply ext_get?
    · rfl
    · rfl
    · rfl
    · intro i
      by_cases hi : i = id <;> simp [SortedMap.get?_erase, get?_marked, hi]

/-! ## Filing in a row -/

/-- The queue after a message was read, which hides it until an instant, and archived. -/
def file (q : Queue) (hidden : Instant) (id : Int) : Queue :=
  ((q.marked [id] hidden).archive id).2

/-- The queue after messages were read and archived one after the other. -/
def fileAll (q : Queue) (hidden : Instant) : List Int → Queue
  | [] => q
  | id :: rest => (q.file hidden id).fileAll hidden rest

/-- A filed message is not live, and filing leaves the other live messages as they are. -/
theorem get?_file (q : Queue) (hidden : Instant) (id i : Int) :
    (q.file hidden id).live.get? i = if i = id then none else q.live.get? i := by
  have hmarked := q.get?_marked [id] hidden
  unfold file archive
  cases hlive : q.live.get? id with
  | none => by_cases hi : i = id <;> simp [hmarked, hi, hlive]
  | some m => by_cases hi : i = id <;> simp [hmarked, hi, hlive, SortedMap.get?_erase]

/-- A filed message is in the archive as the read left it, if it was live. -/
theorem get?_archived_file (q : Queue) (hidden : Instant) (id i : Int) :
    (q.file hidden id).archived.get? i =
      if i = id then
        ((q.live.get? i).map (StoredMessage.afterRead hidden)).or (q.archived.get? i)
      else q.archived.get? i := by
  have hmarked := q.get?_marked [id] hidden
  have harchived : (q.marked [id] hidden).archived = q.archived := rfl
  unfold file archive
  cases hlive : q.live.get? id with
  | none => by_cases hi : i = id <;> simp [hmarked, harchived, hi, hlive]
  | some m => by_cases hi : i = id <;> simp [hmarked, harchived, hi, hlive, SortedMap.get?_insert]

/-- Filing a message gives out no id. -/
theorem nextId_file (q : Queue) (hidden : Instant) (id : Int) :
    (q.file hidden id).nextId = q.nextId := by
  unfold file archive
  split <;> rfl

/-- Filing in a row leaves the live messages with other ids as they are. -/
theorem get?_fileAll (q : Queue) (hidden : Instant) (ids : List Int) (i : Int) :
    (q.fileAll hidden ids).live.get? i = if i ∈ ids then none else q.live.get? i := by
  induction ids generalizing q with
  | nil => simp [fileAll]
  | cons id rest ih =>
      rw [fileAll, ih, get?_file]
      by_cases hi : i = id <;> simp [hi]

/-- Live messages that are filed in a row are in the archive as the reads left them. -/
theorem get?_archived_fileAll (q : Queue) (hidden : Instant) (ids : List Int) (i : Int) :
    (q.fileAll hidden ids).archived.get? i =
      if i ∈ ids then
        ((q.live.get? i).map (StoredMessage.afterRead hidden)).or (q.archived.get? i)
      else q.archived.get? i := by
  induction ids generalizing q with
  | nil => simp [fileAll]
  | cons id rest ih =>
      rw [fileAll, ih, get?_file, get?_archived_file]
      by_cases hi : i = id
      · simp [hi]
      · simp [hi]

/-- Filing messages in a row gives out no id. -/
theorem nextId_fileAll (q : Queue) (hidden : Instant) (ids : List Int) :
    (q.fileAll hidden ids).nextId = q.nextId := by
  induction ids generalizing q with
  | nil => rfl
  | cons id rest ih => rw [fileAll, ih, nextId_file]

/-- A live message that was marked can be archived. -/
theorem archive_marked {m : StoredMessage} (h : q.live.get? id = some m) (hidden : Instant) :
    (q.marked [id] hidden).archive id = (true, q.file hidden id) := by
  have hfound : ((q.marked [id] hidden).archive id).1 = true := by
    rw [archive_eq, SortedMap.contains, get?_marked]
    simp [h]
  exact Prod.ext hfound rfl

/-! ## Turning over -/

/-- A queue keeps order when its messages have ids that were given out, and none is live and
archived at once. -/
structure InOrder (q : Queue) : Prop where
  live : ∀ i, q.live.contains i = true → i < q.nextId
  archived : ∀ i, q.archived.contains i = true → i < q.nextId
  apart : ∀ i, q.live.contains i = true → q.archived.get? i = none

/-- An id that was not given out yet is of no live message. -/
theorem InOrder.live_of_le (hq : q.InOrder) (h : q.nextId ≤ id) : q.live.get? id = none := by
  rw [← Option.not_isSome_iff_eq_none]
  intro hlive
  exact absurd (hq.live id hlive) (Int.not_lt.2 h)

/-- Nor is it of an archived one. -/
theorem InOrder.archived_of_le (hq : q.InOrder) (h : q.nextId ≤ id) :
    q.archived.get? id = none := by
  rw [← Option.not_isSome_iff_eq_none]
  intro hold
  exact absurd (hq.archived id hold) (Int.not_lt.2 h)

/-- What is sent was not delivered yet, so it is not spent. -/
theorem InOrder.noneSpent_sendAll (hq : q.InOrder) (now : Instant) (payload : Json) (count : Nat)
    (ids : List Int) : (q.sendAll now payload count).NoneSpent ids ↔ q.NoneSpent ids := by
  refine forall₂_congr fun i _ => ?_
  rw [get?_sendAll]
  by_cases hi : i ∈ idsFrom q.nextId count
  · have hnone : q.live.get? i = none := hq.live_of_le (mem_idsFrom.1 hi).1
    simp [hi, hnone, StoredMessage.Spent]
  · rw [if_neg hi]

/-- A queue that has lived through calls is in order. -/
theorem inOrder_of_lifetime {calls : List Call} (h : Lifetime calls q) : q.InOrder := by
  have hstanding := h.standing
  constructor
  · intro i hi
    rcases Option.isSome_iff_exists.1 hi with ⟨m, hm⟩
    exact Client.lt_nextId_of_lived ⟨calls, h⟩ hm
  · intro i hi
    rw [SortedMap.contains] at hi
    cases hstanding i with
    | archived hid _ _ _ => exact hid.2
    | unsent _ _ hnot | live _ _ _ hnot | removed _ _ hnot => simp [hnot] at hi
  · intro i hi
    rw [SortedMap.contains] at hi
    cases hstanding i with
    | live _ _ _ hnot => exact hnot
    | unsent _ hnot | archived _ hnot | removed _ hnot => simp [hnot] at hi

/-- The queues of a store that was reached by a run are in order. -/
theorem inOrder_of_reachable {m : Memory} {n : String} (h : m.Reachable)
    (hq : m.queues.get? n = some q) : q.InOrder := by
  rcases h with ⟨start, moves, exchanges, hrun⟩
  rw [Memory.run_eq_history, Option.map_eq_some_iff] at hrun
  rcases hrun with ⟨⟨history, m'⟩, hhistory, heq⟩
  cases heq
  rcases Memory.exists_lifetime hhistory hq with ⟨calls, -, hlife⟩
  exact inOrder_of_lifetime hlife

/-- What is left of a queue when some messages were written to it, as many were read and archived,
and as many again were written and deleted. -/
structure TurnedOver (q q' : Queue) (written read : List Int) : Prop where
  /-- The messages that were read were live or written, and none of them was in the archive. -/
  found : ∀ id ∈ read, (q.live.contains id = true ∨ id ∈ written) ∧ q.archived.get? id = none
  /-- The archive has gained exactly these. -/
  gained : ∀ id, q'.archived.contains id = true ↔ q.archived.contains id = true ∨ id ∈ read
  kept : ∀ id, id ∉ read → q'.archived.get? id = q.archived.get? id
  /-- Live are those that were live or written and were not archived. -/
  live : ∀ id, q'.live.contains id = true ↔
    (q.live.contains id = true ∨ id ∈ written) ∧ id ∉ read
  /-- What was live and was not archived is as it was. -/
  spared : ∀ id, q.live.contains id = true → id ∉ read → q'.live.get? id = q.live.get? id
  size : q'.live.size = q.live.size
  nextId : q'.nextId = q.nextId + 2 * written.length

/-- The first of the visible messages, after so many were written. -/
def readIds (q : Queue) (now : Instant) (count : Nat) : List Int :=
  (q.visibleIds now ++ idsFrom q.nextId count).take count

/-- The queue after so many messages were written, as many read and archived, and as many written
and deleted. -/
def turnOver (q : Queue) (now hidden : Instant) (payload : Json) (count : Nat) : Queue :=
  (((q.sendAll now payload count).fileAll hidden (q.readIds now count)).sendAll now payload
    count).deleteAll (idsFrom (q.nextId + count) count)

/-- Exactly the messages that were written first and not archived are left beside the earlier
ones. -/
theorem get?_turnOver (hq : q.InOrder) (now hidden : Instant) (payload : Json) (count : Nat)
    (id : Int) :
    (q.turnOver now hidden payload count).live.get? id =
      if id ∈ q.readIds now count then none
      else if id ∈ idsFrom q.nextId count then some ⟨0, now, now, payload⟩
      else q.live.get? id := by
  rcases q.sendAll_frame now payload count with ⟨hnext, -⟩
  rw [turnOver, get?_deleteAll, get?_sendAll, nextId_fileAll, hnext, get?_fileAll, get?_sendAll]
  by_cases hlast : id ∈ idsFrom (q.nextId + count) count
  · -- what was written last is deleted, and its ids had not been given out before
    have hnot : id ∉ idsFrom q.nextId count := by
      simp only [mem_idsFrom] at hlast ⊢
      omega
    have hle := (mem_idsFrom.1 hlast).1
    have hnone : q.live.get? id = none := hq.live_of_le (by omega)
    simp [hlast, hnot, hnone]
  · simp [hlast]

/-- The archive after a turnover has the messages that were read, as the reads left them. -/
theorem get?_archived_turnOver (q : Queue) (now hidden : Instant) (payload : Json) (count : Nat)
    (id : Int) :
    (q.turnOver now hidden payload count).archived.get? id =
      if id ∈ q.readIds now count then
        (((q.sendAll now payload count).live.get? id).map
          (StoredMessage.afterRead hidden)).or (q.archived.get? id)
      else q.archived.get? id := by
  rw [turnOver, (deleteAll_frame _ _).2.2, (sendAll_frame _ _ _ _).2, get?_archived_fileAll,
    (q.sendAll_frame now payload count).2]

/-- As many are read as were written. -/
theorem length_readIds (q : Queue) (now : Instant) (count : Nat) :
    (q.readIds now count).length = count := by
  simp [readIds]

/-- What is read ascends, when the queue is in order. -/
theorem readIds_pairwise (hq : q.InOrder) (now : Instant) (count : Nat) :
    (q.readIds now count).Pairwise (· < ·) := by
  rw [readIds, ← visibleIds_sendAll hq.live now .null count]
  exact (visibleIds_pairwise _ now).take

/-- What is read was live or written. -/
theorem contains_or_of_mem_readIds {count : Nat} (h : id ∈ q.readIds now count) :
    q.live.contains id = true ∨ id ∈ idsFrom q.nextId count := by
  rcases List.mem_append.1 (List.mem_of_mem_take h) with hvisible | hwritten
  · rcases mem_visibleIds_iff.1 hvisible with ⟨m, hm, -⟩
    exact .inl (by rw [SortedMap.contains, hm]; rfl)
  · exact .inr hwritten

/-- Live after a turnover is what was live or written and was not archived. -/
theorem contains_turnOver (hq : q.InOrder) (now hidden : Instant) (payload : Json) (count : Nat)
    (id : Int) :
    (q.turnOver now hidden payload count).live.contains id = true ↔
      (q.live.contains id = true ∨ id ∈ idsFrom q.nextId count) ∧ id ∉ q.readIds now count := by
  rw [SortedMap.contains, get?_turnOver hq, SortedMap.contains]
  by_cases hread : id ∈ q.readIds now count
  · simp [hread]
  · by_cases hwritten : id ∈ idsFrom q.nextId count <;> simp [hread, hwritten]

/-- There are as many live messages after a turnover as before. -/
theorem size_turnOver (hq : q.InOrder) (now hidden : Instant) (payload : Json) (count : Nat) :
    (q.turnOver now hidden payload count).live.size = q.live.size := by
  have hlive := contains_turnOver hq now hidden payload count
  generalize q.turnOver now hidden payload count = q' at hlive ⊢
  simp only [SortedMap.contains_iff_mem_keys] at hlive
  have hbefore : (q.live.keys ++ idsFrom q.nextId count).Nodup := by
    refine List.nodup_append.2
      ⟨q.live.keys_pairwise.nodup, (idsFrom_pairwise _ count).nodup, ?_⟩
    rintro i hi j hj rfl
    have hlt := hq.live i (SortedMap.contains_iff_mem_keys.2 hi)
    have hle := (mem_idsFrom.1 hj).1
    omega
  have hafter : (q'.live.keys ++ q.readIds now count).Nodup := by
    refine List.nodup_append.2
      ⟨q'.live.keys_pairwise.nodup, (readIds_pairwise hq now count).nodup, ?_⟩
    rintro i hi j hj rfl
    exact ((hlive i).1 hi).2 hj
  have hperm : (q'.live.keys ++ q.readIds now count).Perm
      (q.live.keys ++ idsFrom q.nextId count) := by
    refine (List.perm_ext_iff_of_nodup hafter hbefore).2 fun i => ?_
    rw [List.mem_append, List.mem_append, hlive]
    by_cases hread : i ∈ q.readIds now count
    · have hfound := contains_or_of_mem_readIds hread
      rw [SortedMap.contains_iff_mem_keys] at hfound
      simp only [hread, or_true, true_iff]
      exact hfound
    · simp [hread]
  have hlength := hperm.length_eq
  simpa [length_readIds, SortedMap.keys, SortedMap.size] using hlength

/-- What a turnover leaves of a queue in order. -/
theorem turnedOver (hq : q.InOrder) (now hidden : Instant) (payload : Json) (count : Nat) :
    TurnedOver q (q.turnOver now hidden payload count) (idsFrom q.nextId count)
      (q.readIds now count) := by
  have harchived := q.get?_archived_turnOver now hidden payload count
  constructor
  · intro id hid
    have hfound := contains_or_of_mem_readIds hid
    refine ⟨hfound, ?_⟩
    rcases hfound with hlive | hwritten
    · exact hq.apart id hlive
    · exact hq.archived_of_le (mem_idsFrom.1 hwritten).1
  · intro id
    rw [SortedMap.contains, harchived, SortedMap.contains]
    by_cases hread : id ∈ q.readIds now count
    · have hfound := contains_or_of_mem_readIds hread
      have hthere : ((q.sendAll now payload count).live.get? id).isSome = true := by
        rw [get?_sendAll]
        rw [SortedMap.contains] at hfound
        by_cases hwritten : id ∈ idsFrom q.nextId count
        · simp [hwritten]
        · simpa [hwritten] using hfound
      simp [hread, hthere]
    · simp [hread]
  · intro id hid
    rw [harchived, if_neg hid]
  · exact contains_turnOver hq now hidden payload count
  · intro id hlive hid
    have hnot : id ∉ idsFrom q.nextId count := by
      intro hwritten
      rw [SortedMap.contains, hq.live_of_le (mem_idsFrom.1 hwritten).1] at hlive
      cases hlive
    rw [get?_turnOver hq, if_neg hid, if_neg hnot]
  · exact size_turnOver hq now hidden payload count
  · rw [turnOver, (deleteAll_frame _ _).2.1, (sendAll_frame _ _ _ _).1, nextId_fileAll,
      (sendAll_frame _ _ _ _).1, length_idsFrom]
    omega

end Queue
end Store
end MessageQueue
