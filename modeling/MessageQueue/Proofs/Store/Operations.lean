import MessageQueue.Store.Queue
import Mathlib.Data.List.Basic
import Mathlib.Data.List.Pairwise

/-!
# What the operations of a queue do

Each operation is described by the messages that it hands out and by what it leaves under
every id.  Later developments use these descriptions and do not open the operations again.
A read is a selection: of the messages that are visible it takes the first ones and marks them as
delivered, unless one of them is spent, so that its deliveries cannot be counted any further.

Main results:

- Theorem `entryOf_eq_some_iff`: looking up a key and being an entry are the same.
- Theorems `deliverUntil_of_deliverable` and `get?_delivery`: a delivery takes the first visible
  messages in the order of their ids and touches no other message.
- Theorems `read_eq_ok_iff` and `read_fst_eq_overflow_iff`: when a read answers, and when it panics.
- Theorem `pop_eq`: a pop takes out the first visible message.
-/

namespace MessageQueue

variable {κ α : Type}

/-! ## Entries of sorted maps -/

/-- Looking up a key gives a value exactly when the two are an entry. -/
theorem entryOf_eq_some_iff [LT κ] [Std.Irrefl (fun a b : κ => a < b)] [DecidableEq κ]
    {entries : List (κ × α)} (h : SortedKeys entries) {k : κ} {v : α} :
    entryOf k entries = some v ↔ (k, v) ∈ entries := by
  induction entries with
  | nil => simp [entryOf]
  | cons hd tl ih =>
      rcases hd with ⟨l, w⟩
      rcases List.pairwise_cons.1 h with ⟨hall, htl⟩
      by_cases hk : k = l
      · subst hk
        have hnot : (k, v) ∉ tl := fun hmem => Std.lt_irrefl (hall (k, v) hmem)
        simp [entryOf, hnot, eq_comm]
      · simp [entryOf, hk, ih htl]

namespace SortedMap

/-- Looking up a key gives a value exactly when the two are an entry of the map. -/
theorem get?_eq_some_iff [LT κ] [Std.Irrefl (fun a b : κ => a < b)] [DecidableEq κ]
    {m : SortedMap κ α} {k : κ} {v : α} : m.get? k = some v ↔ (k, v) ∈ m.entries :=
  entryOf_eq_some_iff m.sorted

/-- A key has a value exactly when it is one of the keys. -/
theorem contains_iff_mem_keys [LT κ] [Std.Irrefl (fun a b : κ => a < b)] [DecidableEq κ]
    {m : SortedMap κ α} {k : κ} : m.contains k = true ↔ k ∈ m.keys := by
  rw [contains, Option.isSome_iff_exists, keys, List.mem_map]
  constructor
  · rintro ⟨v, hv⟩
    exact ⟨(k, v), get?_eq_some_iff.1 hv, rfl⟩
  · rintro ⟨⟨l, v⟩, hmem, rfl⟩
    exact ⟨v, get?_eq_some_iff.2 hmem⟩

/-- The keys of a map ascend strictly. -/
theorem keys_pairwise [LT κ] (m : SortedMap κ α) : m.keys.Pairwise (· < ·) := by
  rw [keys, List.pairwise_map]
  exact m.sorted

end SortedMap

namespace Store

open Time (Instant)

/-! ## Reads -/

/-- A message that was delivered as often as can be counted. -/
def StoredMessage.Spent (m : StoredMessage) : Prop := 2147483647 ≤ m.readCount

instance StoredMessage.decidableSpent (m : StoredMessage) : Decidable m.Spent :=
  inferInstanceAs (Decidable (2147483647 ≤ m.readCount))

/-- The message as a read leaves it: hidden until an instant, with one more delivery counted. -/
def StoredMessage.afterRead (hidden : Instant) (m : StoredMessage) : StoredMessage :=
  ⟨m.readCount + 1, m.enqueuedAt, hidden, m.payload⟩

theorem StoredMessage.counted?_hiddenUntil (m : StoredMessage) (hidden : Instant) :
    (m.hiddenUntil hidden).counted? = if m.Spent then none else some (m.afterRead hidden) := by
  by_cases h : m.Spent
  · rw [if_pos h]
    exact if_neg (Int.not_lt.2 h)
  · rw [if_neg h]
    exact if_pos (Int.not_le.1 h)

/-- The entry of a message as a read hands it out. -/
def handOut (hidden : Instant) (e : Int × StoredMessage) : Message Json :=
  (e.2.hiddenUntil hidden).toMessage e.1

/-- The entries of the messages that are visible at an instant, in the order of their ids. -/
def visibleEntries (now : Instant) (entries : List (Int × StoredMessage)) :
    List (Int × StoredMessage) :=
  entries.filter fun e => decide (e.2.visibleAt ≤ now)

section Deliver

variable {now hidden : Instant} {limit : Nat} {entries : List (Int × StoredMessage)}

theorem visibleEntries_cons_of_lt {id : Int} {m : StoredMessage} (h : now < m.visibleAt) :
    visibleEntries now ((id, m) :: entries) = visibleEntries now entries := by
  have hnot : ¬m.visibleAt ≤ now := fun hle => Instant.le_iff_not_lt.1 hle h
  simp [visibleEntries, hnot]

theorem visibleEntries_cons_of_not_lt {id : Int} {m : StoredMessage} (h : ¬now < m.visibleAt) :
    visibleEntries now ((id, m) :: entries) = (id, m) :: visibleEntries now entries := by
  have hle : m.visibleAt ≤ now := Instant.le_iff_not_lt.2 h
  simp [visibleEntries, hle]

/-- A delivery hands out the first visible messages, unless one of them is spent. -/
theorem deliver_fst (now hidden : Instant) (limit : Nat) (entries : List (Int × StoredMessage)) :
    (deliver now hidden limit entries).1 =
      if ∃ e ∈ (visibleEntries now entries).take limit, e.2.Spent then none
      else some (((visibleEntries now entries).take limit).map (handOut hidden)) := by
  fun_induction deliver now hidden limit entries with
  | case1 entries => simp
  | case2 limit => simp [visibleEntries]
  | case3 limit id m rest hlt ms after heq ih =>
      rw [heq] at ih
      rw [visibleEntries_cons_of_lt hlt]
      exact ih
  | case4 limit id m rest hlt hcounted =>
      have hspent : m.Spent := by
        simpa [StoredMessage.counted?_hiddenUntil] using hcounted
      rw [visibleEntries_cons_of_not_lt hlt, List.take_succ_cons, if_pos]
      exact ⟨(id, m), List.mem_cons_self, hspent⟩
  | case5 limit id m rest hlt counted hcounted ms after heq ih =>
      have hspent : ¬m.Spent := by
        intro h
        simp [StoredMessage.counted?_hiddenUntil, h] at hcounted
      rw [heq] at ih
      simp only at ih
      rw [visibleEntries_cons_of_not_lt hlt, List.take_succ_cons, ih]
      simp only [List.mem_cons, exists_eq_or_imp, hspent, false_or]
      split <;> rfl

/-- Only ids of the entries are handed out. -/
theorem mem_keys_of_deliver {ms : List (Message Json)}
    (hms : (deliver now hidden limit entries).1 = some ms) {id : Int}
    (h : id ∈ ms.map Message.id) : id ∈ entries.map Prod.fst := by
  rw [deliver_fst] at hms
  split at hms <;> cases hms
  rw [List.map_map] at h
  rcases List.mem_map.1 h with ⟨e, he, rfl⟩
  exact List.mem_map_of_mem (List.mem_of_mem_filter (List.mem_of_mem_take he))

/-- A delivery of messages changes these and no others. -/
theorem entryOf_deliver (h : SortedKeys entries) {ms : List (Message Json)}
    (hms : (deliver now hidden limit entries).1 = some ms) (id : Int) :
    entryOf id (deliver now hidden limit entries).2 =
      if id ∈ ms.map Message.id then (entryOf id entries).map (StoredMessage.afterRead hidden)
      else entryOf id entries := by
  fun_induction deliver now hidden limit entries generalizing ms with
  | case1 entries =>
      cases hms
      simp
  | case2 limit => simp [entryOf]
  | case3 limit i m rest hlt ms? after heq ih =>
      rcases List.pairwise_cons.1 h with ⟨hall, hrest⟩
      rw [heq] at ih
      have ih := ih hrest hms
      by_cases hi : id = i
      · -- the keys behind this entry are greater, so none of them is handed out under its id
        subst hi
        have hnot : id ∉ ms.map Message.id := by
          intro hmem
          have hkey : id ∈ rest.map Prod.fst :=
            mem_keys_of_deliver (show (deliver now hidden (limit + 1) rest).1 = some ms by
              rw [heq]; exact hms) hmem
          rcases List.mem_map.1 hkey with ⟨e, he, heid⟩
          have := hall e he
          omega
        simp only [if_neg hnot, entryOf, if_true]
      · simp only [entryOf, if_neg hi]
        exact ih
  | case4 limit i m rest hlt hcounted => cases hms
  | case5 limit i m rest hlt counted hcounted ms? after heq ih =>
      rcases List.pairwise_cons.1 h with ⟨hall, hrest⟩
      rw [heq] at ih
      obtain ⟨later, rfl, rfl⟩ := Option.map_eq_some_iff.1 hms
      have ih := ih hrest rfl
      have hafter : counted = m.afterRead hidden := by
        rw [StoredMessage.counted?_hiddenUntil] at hcounted
        split at hcounted <;> cases hcounted
        rfl
      by_cases hi : id = i
      · subst hi
        simp [entryOf, StoredMessage.toMessage, hafter]
      · simp only [entryOf, List.map_cons, List.mem_cons, StoredMessage.toMessage, hi, false_or]
        exact ih

end Deliver

namespace Queue

/-- The live messages that are visible at an instant, in the order of their ids. -/
def visible (q : Queue) (now : Instant) : List (Int × StoredMessage) :=
  visibleEntries now q.live.entries

/-- A message is among the visible ones exactly when it is live and no longer hidden. -/
theorem mem_visible_iff {q : Queue} {now : Instant} {id : Int} {m : StoredMessage} :
    (id, m) ∈ q.visible now ↔ q.live.get? id = some m ∧ m.visibleAt ≤ now := by
  rw [visible, visibleEntries, List.mem_filter, SortedMap.get?_eq_some_iff, decide_eq_true_iff]

/-- There are at most as many visible messages as live ones. -/
theorem length_visible_le (q : Queue) (now : Instant) :
    (q.visible now).length ≤ q.live.size :=
  List.length_filter_le _ _

/-- The ids of the visible messages ascend strictly. -/
theorem visible_pairwise (q : Queue) (now : Instant) :
    ((q.visible now).map Prod.fst).Pairwise (· < ·) := by
  rw [List.pairwise_map]
  exact List.Pairwise.filter _ q.live.sorted

/-! ### Selecting and marking -/

/-- Queues made at the same instant, with the same next id, the same archive and the same live
messages are equal. -/
theorem ext_get? {a b : Queue} (hcreated : a.createdAt = b.createdAt) (hnext : a.nextId = b.nextId)
    (harchived : a.archived = b.archived) (hlive : ∀ id, a.live.get? id = b.live.get? id) :
    a = b := by
  cases a
  cases b
  simp only at hcreated hnext harchived hlive
  rw [hcreated, hnext, harchived, SortedMap.ext_get? hlive]

/-- The first messages that are visible at an instant, at most `limit` of them. -/
def selected (q : Queue) (now : Instant) (limit : Nat) : List (Int × StoredMessage) :=
  (q.visible now).take limit

/-- The queue with the messages of some ids marked as delivered: each is hidden until an instant,
with one more delivery counted. -/
def marked (q : Queue) (ids : List Int) (hidden : Instant) : Queue :=
  { q with live := q.live.mapValues fun id m => if id ∈ ids then m.afterRead hidden else m }

/-- The first visible messages as they are handed out, and the queue with these marked. -/
def delivery (q : Queue) (now hidden : Instant) (limit : Nat) : List (Message Json) × Queue :=
  ((q.selected now limit).map (handOut hidden),
    q.marked ((q.selected now limit).map Prod.fst) hidden)

/-- The first visible messages can be delivered once more. -/
def Deliverable (q : Queue) (now : Instant) (limit : Nat) : Prop :=
  ∀ e ∈ q.selected now limit, ¬e.2.Spent

/-- Every visible message can be delivered once more. -/
def Unspent (q : Queue) (now : Instant) : Prop :=
  ∀ e ∈ q.visible now, ¬e.2.Spent

instance decidableDeliverable (q : Queue) (now : Instant) (limit : Nat) :
    Decidable (q.Deliverable now limit) :=
  inferInstanceAs (Decidable (∀ e ∈ q.selected now limit, ¬e.2.Spent))

instance decidableUnspent (q : Queue) (now : Instant) : Decidable (q.Unspent now) :=
  inferInstanceAs (Decidable (∀ e ∈ q.visible now, ¬e.2.Spent))

theorem Unspent.deliverable {q : Queue} {now : Instant} (h : q.Unspent now) (limit : Nat) :
    q.Deliverable now limit :=
  fun e he => h e (List.mem_of_mem_take he)

variable {q : Queue} {now hidden : Instant} {limit : Nat}

/-- The ids of the selected messages ascend strictly. -/
theorem selected_pairwise (q : Queue) (now : Instant) (limit : Nat) :
    ((q.selected now limit).map Prod.fst).Pairwise (· < ·) := by
  rw [selected, List.map_take]
  exact (q.visible_pairwise now).take

/-- What is selected is live and visible. -/
theorem live_of_mem_selected {e : Int × StoredMessage} (h : e ∈ q.selected now limit) :
    q.live.get? e.1 = some e.2 ∧ e.2.visibleAt ≤ now :=
  mem_visible_iff.1 (List.mem_of_mem_take h)

/-- Marking changes the live messages of the given ids and no others. -/
theorem get?_marked (q : Queue) (ids : List Int) (hidden : Instant) (id : Int) :
    (q.marked ids hidden).live.get? id =
      if id ∈ ids then (q.live.get? id).map (StoredMessage.afterRead hidden)
      else q.live.get? id := by
  rw [marked, SortedMap.get?_mapValues]
  by_cases hid : id ∈ ids
  · simp [hid]
  · simp [hid]

/-- Marking neither adds nor removes ids. -/
theorem keys_marked (q : Queue) (ids : List Int) (hidden : Instant) :
    (q.marked ids hidden).live.keys = q.live.keys :=
  q.live.keys_mapValues _

/-! ### Deliveries -/

/-- A delivery hands out the first visible messages of the queue. -/
theorem delivery_fst (q : Queue) (now hidden : Instant) (limit : Nat) :
    (q.delivery now hidden limit).1 = ((q.visible now).take limit).map (handOut hidden) :=
  rfl

theorem delivery_ids (q : Queue) (now hidden : Instant) (limit : Nat) :
    (q.delivery now hidden limit).1.map Message.id = (q.selected now limit).map Prod.fst := by
  rw [delivery, List.map_map]
  rfl

/-- The ids that a delivery hands out ascend strictly. -/
theorem delivery_ids_pairwise (q : Queue) (now hidden : Instant) (limit : Nat) :
    ((q.delivery now hidden limit).1.map Message.id).Pairwise (· < ·) := by
  rw [delivery_ids]
  exact q.selected_pairwise now limit

/-- A message that a delivery hands out was live and visible. -/
theorem exists_of_mem_delivery {msg : Message Json} (h : msg ∈ (q.delivery now hidden limit).1) :
    ∃ m, q.live.get? msg.id = some m ∧ m.visibleAt ≤ now ∧ msg = handOut hidden (msg.id, m) := by
  rcases List.mem_map.1 h with ⟨⟨id, m⟩, he, rfl⟩
  rcases live_of_mem_selected he with ⟨hlive, hvisible⟩
  exact ⟨m, hlive, hvisible, rfl⟩

/-- A delivery of enough messages hands out every visible one. -/
theorem mem_delivery_of_visible (hidden : Instant) {id : Int} {m : StoredMessage}
    (hlimit : q.live.size ≤ limit) (hlive : q.live.get? id = some m)
    (hvisible : m.visibleAt ≤ now) :
    handOut hidden (id, m) ∈ (q.delivery now hidden limit).1 := by
  refine List.mem_map_of_mem (?_ : (id, m) ∈ (q.visible now).take limit)
  rw [List.take_of_length_le (Nat.le_trans (q.length_visible_le now) hlimit)]
  exact mem_visible_iff.2 ⟨hlive, hvisible⟩

/-- A delivery changes the live messages that it hands out and no others. -/
theorem get?_delivery (q : Queue) (now hidden : Instant) (limit : Nat) (id : Int) :
    (q.delivery now hidden limit).2.live.get? id =
      if id ∈ (q.delivery now hidden limit).1.map Message.id then
        (q.live.get? id).map (StoredMessage.afterRead hidden)
      else q.live.get? id := by
  rw [delivery_ids]
  exact q.get?_marked _ hidden id

/-- A delivery leaves everything but the live messages as it is. -/
theorem delivery_frame (q : Queue) (now hidden : Instant) (limit : Nat) :
    (q.delivery now hidden limit).2.createdAt = q.createdAt ∧
      (q.delivery now hidden limit).2.nextId = q.nextId ∧
      (q.delivery now hidden limit).2.archived = q.archived :=
  ⟨rfl, rfl, rfl⟩

/-- A message that is marked as hidden until later than now is not visible any more. -/
theorem visible_marked (q : Queue) (h : now < hidden) (ids : List Int) :
    (q.marked ids hidden).visible now = (q.visible now).filter fun e => decide (e.1 ∉ ids) := by
  have hlater : ¬hidden ≤ now := fun hle => Instant.le_iff_not_lt.1 hle h
  simp only [visible, visibleEntries, marked, SortedMap.mapValues]
  induction q.live.entries with
  | nil => rfl
  | cons e rest ih =>
      rw [List.map_cons, List.filter_cons, List.filter_cons, ih]
      by_cases hid : e.1 ∈ ids
      · have hmarked : ¬(e.2.afterRead hidden).visibleAt ≤ now := hlater
        by_cases hv : e.2.visibleAt ≤ now <;> simp [hid, hmarked, hv]
      · by_cases hv : e.2.visibleAt ≤ now <;> simp [hid, hv]

/-- What a delivery hides until later than now is not visible any more, and the other messages still
are. -/
theorem visible_delivery (q : Queue) (h : now < hidden) (limit : Nat) :
    (q.delivery now hidden limit).2.visible now = (q.visible now).drop limit := by
  have hnodup : ((q.visible now).map Prod.fst).Nodup := (q.visible_pairwise now).imp Int.ne_of_lt
  rw [delivery, visible_marked q h, selected]
  rw [← List.take_append_drop limit (q.visible now), List.map_append,
    List.nodup_append] at hnodup
  obtain ⟨-, -, hapart⟩ := hnodup
  calc (q.visible now).filter (fun e => decide (e.1 ∉ ((q.visible now).take limit).map Prod.fst))
    _ = ((q.visible now).take limit ++ (q.visible now).drop limit).filter
          (fun e => decide (e.1 ∉ ((q.visible now).take limit).map Prod.fst)) := by
        rw [List.take_append_drop]
    _ = [] ++ (q.visible now).drop limit := by
        rw [List.filter_append]
        congr 1
        · rw [List.filter_eq_nil_iff]
          intro e he
          rw [decide_eq_true_eq, not_not]
          exact List.mem_map_of_mem he
        · rw [List.filter_eq_self]
          intro e he
          refine decide_eq_true fun hmem => ?_
          exact hapart e.1 hmem e.1 (List.mem_map_of_mem he) rfl
    _ = (q.visible now).drop limit := List.nil_append _

/-- What is visible after a delivery was not delivered by it. -/
theorem Unspent.delivery (hq : q.Unspent now) (h : now < hidden) (limit : Nat) :
    (q.delivery now hidden limit).2.Unspent now := by
  rw [Unspent, q.visible_delivery h]
  exact fun e he => hq e (List.mem_of_mem_drop he)

/-- A spent message among the first visible ones ends a delivery. -/
theorem deliverUntil_of_not_deliverable (h : ¬q.Deliverable now limit) (hidden : Instant) :
    (q.deliverUntil now hidden limit).1 = none := by
  rcases q with ⟨createdAt, nextId, ⟨live, sorted⟩, archived⟩
  have hfst := deliver_fst now hidden limit live
  rw [if_pos] at hfst
  · exact hfst
  · simpa [Deliverable, selected, visible] using h

/-- The first visible messages are delivered as long as none of them is spent. -/
theorem deliverUntil_of_deliverable (h : q.Deliverable now limit) (hidden : Instant) :
    q.deliverUntil now hidden limit =
      (some (q.delivery now hidden limit).1, (q.delivery now hidden limit).2) := by
  have hfst : (q.deliverUntil now hidden limit).1 = some (q.delivery now hidden limit).1 := by
    rcases q with ⟨createdAt, nextId, ⟨live, sorted⟩, archived⟩
    refine (deliver_fst now hidden limit live).trans (if_neg ?_)
    rintro ⟨e, he, hspent⟩
    exact h e he hspent
  refine Prod.ext hfst (ext_get? rfl rfl rfl fun id => ?_)
  rw [get?_delivery]
  rcases q with ⟨createdAt, nextId, ⟨live, sorted⟩, archived⟩
  exact entryOf_deliver sorted hfst id

/-- A read delivers, if it finds the instant until which it hides messages and none of these is
spent. -/
theorem read_eq_delivery {vt limit : Int} (ht : now.addSeconds? vt = some hidden)
    (h : q.Deliverable now limit.toNat) :
    q.read now vt limit = (.ok (q.delivery now hidden limit.toNat).1,
      (q.delivery now hidden limit.toNat).2) := by
  simp only [read, ht, deliverUntil_of_deliverable h]

/-- A read that would deliver a spent message panics. -/
theorem read_of_not_deliverable {limit : Int} (h : ¬q.Deliverable now limit.toNat) (vt : Int) :
    (q.read now vt limit).1 = .error .overflow := by
  unfold read
  cases now.addSeconds? vt with
  | none => rfl
  | some hidden =>
      have hnone := deliverUntil_of_not_deliverable h hidden
      rcases hdeliver : q.deliverUntil now hidden limit.toNat with ⟨ms?, after⟩
      rw [hdeliver] at hnone
      cases hnone
      simp only [hdeliver]

/-- A read that answers has found the instant until which it hides what it delivers, and nothing
that it delivers was spent. -/
theorem read_eq_ok_iff {q' : Queue} {vt limit : Int} {ms : List (Message Json)} :
    q.read now vt limit = (.ok ms, q') ↔
      ∃ hidden, now.addSeconds? vt = some hidden ∧ q.Deliverable now limit.toNat ∧
        q.delivery now hidden limit.toNat = (ms, q') := by
  constructor
  · intro hread
    have hdeliverable : q.Deliverable now limit.toNat := by
      by_contra hnot
      cases (read_of_not_deliverable hnot vt).symm.trans (congrArg Prod.fst hread)
    cases ht : now.addSeconds? vt with
    | none => simp [read, ht] at hread
    | some hidden =>
        rw [read_eq_delivery ht hdeliverable] at hread
        cases hread
        exact ⟨hidden, rfl, hdeliverable, rfl⟩
  · rintro ⟨hidden, ht, hdeliverable, hdelivery⟩
    rw [read_eq_delivery ht hdeliverable, hdelivery]

/-- A read panics exactly when it finds no instant until which to hide messages, or one of those
that it would deliver is spent. -/
theorem read_fst_eq_overflow_iff {vt limit : Int} :
    (q.read now vt limit).1 = .error .overflow ↔
      now.addSeconds? vt = none ∨ ¬q.Deliverable now limit.toNat := by
  by_cases h : q.Deliverable now limit.toNat
  · cases ht : now.addSeconds? vt with
    | none => simp [read, ht]
    | some hidden => simp [read_eq_delivery ht h, h]
  · simp [read_of_not_deliverable h, h]

/-- A read reports no error. -/
theorem read_ne_reported (q : Queue) (now : Instant) (vt limit : Int) (e : QueueError) :
    (q.read now vt limit).1 ≠ .error (.reported e) := by
  unfold read
  split
  · simp
  · split <;> simp

/-! ## The other operations -/

/-- A sent message is live under the next id, and visible from the instant it was sent at. -/
theorem get?_send (q : Queue) (now : Instant) (payload : Json) (id : Int) :
    (q.send now payload).2.live.get? id =
      if id = q.nextId then some ⟨0, now, now, payload⟩ else q.live.get? id := by
  rcases q with ⟨createdAt, nextId, live, archived⟩
  exact SortedMap.get?_insert live nextId id _

/-- A send leaves the archive as it is. -/
theorem send_frame (q : Queue) (now : Instant) (payload : Json) :
    (q.send now payload).1 = q.nextId ∧ (q.send now payload).2.nextId = q.nextId + 1 ∧
      (q.send now payload).2.archived = q.archived := by
  rcases q with ⟨createdAt, nextId, live, archived⟩
  exact ⟨rfl, rfl, rfl⟩

/-- A pop takes out the first visible message. -/
theorem pop_eq (q : Queue) (now : Instant) :
    q.pop now =
      match (q.visible now).head? with
      | none => (none, q)
      | some (id, m) => (some (m.toMessage id), { q with live := q.live.erase id }) := by
  have hfind : q.live.entries.find? (fun e => decide (e.2.visibleAt ≤ now)) =
      (q.visible now).head? := by
    rw [visible, visibleEntries, List.head?_filter]
  cases hhead : (q.visible now).head? with
  | none => simp only [pop, hfind, hhead]
  | some e => simp only [pop, hfind, hhead]

/-- A change of visibility that answers with a message has hidden that message. -/
theorem setVisibility_eq_ok_some_iff {q q' : Queue} {now : Instant} {id vt : Int}
    {msg : Message Json} :
    q.setVisibility now id vt = (.ok (some msg), q') ↔
      ∃ m hidden, q.live.get? id = some m ∧ now.addSeconds? vt = some hidden ∧
        msg = handOut hidden (id, m) ∧
        q' = { q with live := q.live.insert id (m.hiddenUntil hidden) } := by
  unfold setVisibility
  cases hm : q.live.get? id with
  | none => simp
  | some m =>
      cases ht : now.addSeconds? vt with
      | none => simp
      | some hidden => simp [handOut, Prod.ext_iff, eq_comm]

/-- A change of visibility that answers with no message has found none and changed nothing. -/
theorem setVisibility_eq_ok_none_iff {q q' : Queue} {now : Instant} {id vt : Int} :
    q.setVisibility now id vt = (.ok none, q') ↔ q.live.get? id = none ∧ q' = q := by
  unfold setVisibility
  cases hm : q.live.get? id with
  | none => simp [Prod.ext_iff, eq_comm]
  | some m => cases ht : now.addSeconds? vt <;> simp

/-- A change of visibility reports no error; all that can go wrong is that an instant does not
exist. -/
theorem setVisibility_ne_reported (q : Queue) (now : Instant) (id vt : Int) (e : QueueError) :
    (q.setVisibility now id vt).1 ≠ .error (.reported e) := by
  unfold setVisibility
  cases q.live.get? id with
  | none => simp
  | some m => cases now.addSeconds? vt <;> simp

/-- A change of visibility answers with a message exactly when the message is live, unless the
instant does not exist. -/
theorem setVisibility_fst (q : Queue) {now : Instant} {id vt : Int}
    (h : q.live.contains id = true → (now.addSeconds? vt).isSome) :
    ∃ msg?, (q.setVisibility now id vt).1 = .ok msg? ∧ msg?.isSome = q.live.contains id := by
  unfold setVisibility
  rw [SortedMap.contains] at h ⊢
  cases hm : q.live.get? id with
  | none => exact ⟨none, rfl, rfl⟩
  | some m =>
      rw [hm] at h
      rcases Option.isSome_iff_exists.1 (h rfl) with ⟨hidden, ht⟩
      rw [ht]
      exact ⟨_, rfl, rfl⟩

/-- A message can be archived exactly when it is live. -/
theorem archive_eq (q : Queue) (id : Int) : (q.archive id).1 = q.live.contains id := by
  simp only [archive, SortedMap.contains]
  split <;> simp_all

end Queue
end Store
end MessageQueue
