import MessageQueue.Proofs.Store.Lifetime

/-!
# Records of messages

The calls on a queue tell of every id when and with what payload it was sent, which messages
were handed out under it, how often it was removed and how often archived.  This module
says what one call does to one id, in the queue and in its record, and sets the two beside
each other for whole lifetimes: every id is unsent, live, archived or removed, and a live
message is as its record tells.

Main results:

- Theorem `Queue.Step.fate`: the seven things that can happen to an id in one call.
- Theorem `Lifetime.sent_ids`: the ids are given out in ascending order from one on.
- Theorem `Lifetime.standing`: where each id stands after a lifetime, and what its record
  then tells.
-/

namespace MessageQueue
namespace Store

open Time (Instant)

/-! ## What calls tell -/

/-- A payload with the id that it was sent under and the instant of that. -/
structure Sending where
  id : Int
  sentAt : Instant
  payload : Json

namespace Call

/-- What the call sent. -/
def sent : Call → List Sending
  | ⟨⟨.send _ payload, .ok id⟩, now⟩ => [⟨id, now, payload⟩]
  | _ => []

/-- The messages that the call read. -/
def delivered : Call → List (Message Json)
  | ⟨⟨.read _ _ _, .ok ms⟩, _⟩ => ms
  | _ => []

/-- The messages that the call hid, by reading them or by changing their visibility. -/
def hidden : Call → List (Message Json)
  | ⟨⟨.read _ _ _, .ok ms⟩, _⟩ => ms
  | ⟨⟨.setVisibility _ _ _, .ok msg?⟩, _⟩ => msg?.toList
  | _ => []

/-- The message that the call popped. -/
def popped : Call → List (Message Json)
  | ⟨⟨.pop _, .ok msg?⟩, _⟩ => msg?.toList
  | _ => []

/-- The id that the call deleted. -/
def deleted : Call → List Int
  | ⟨⟨.delete _ id, .ok true⟩, _⟩ => [id]
  | _ => []

/-- The id that the call archived. -/
def archived : Call → List Int
  | ⟨⟨.archive _ id, .ok true⟩, _⟩ => [id]
  | _ => []

end Call

/-- What some calls tell about one id. -/
structure Record where
  sent : List Sending := []
  delivered : List (Message Json) := []
  hidden : List (Message Json) := []
  popped : List (Message Json) := []
  deleted : Nat := 0
  archived : Nat := 0

/-- What calls tell about an id. -/
def record (id : Int) (calls : List Call) : Record where
  sent := (calls.flatMap Call.sent).filter fun s => s.id = id
  delivered := (calls.flatMap Call.delivered).filter fun m => m.id = id
  hidden := (calls.flatMap Call.hidden).filter fun m => m.id = id
  popped := (calls.flatMap Call.popped).filter fun m => m.id = id
  deleted := (calls.flatMap Call.deleted).count id
  archived := (calls.flatMap Call.archived).count id

namespace Record

/-- A record continued by a later one. -/
def append (a b : Record) : Record where
  sent := a.sent ++ b.sent
  delivered := a.delivered ++ b.delivered
  hidden := a.hidden ++ b.hidden
  popped := a.popped ++ b.popped
  deleted := a.deleted + b.deleted
  archived := a.archived + b.archived

/-- How often a message was removed for good, by popping or by deleting it. -/
def removed (r : Record) : Nat := r.popped.length + r.deleted

/-- The instant from which a message is visible: the one told with the message when it was
last hidden, or else the one at which it was sent. -/
def horizon (r : Record) : Option Instant :=
  match r.hidden.getLast? with
  | some m => some m.visibleAt
  | none => r.sent.getLast?.map Sending.sentAt

end Record

/-- A record continued by one that tells of nothing stays what it is. -/
@[simp]
theorem Record.append_empty (r : Record) : r.append {} = r := by
  simp [Record.append]

/-- The message that was hidden last tells until when. -/
theorem Record.horizon_of_getLast? {r : Record} {m : Message Json}
    (h : r.hidden.getLast? = some m) : r.horizon = some m.visibleAt := by
  rw [horizon, h]

/-- Later calls continue the record. -/
theorem record_append (id : Int) (before after : List Call) :
    record id (before ++ after) = (record id before).append (record id after) := by
  simp [record, Record.append, List.filter_append, List.count_append]

section OneCall

variable (id i : Int) (name : QueueName) (now : Instant)

theorem record_send (payload : Json) :
    record id [⟨⟨.send name payload, .ok i⟩, now⟩] =
      { sent := if i = id then [⟨i, now, payload⟩] else [] } := by
  simp [record, Call.sent, Call.delivered, Call.hidden, Call.popped, Call.deleted,
    Call.archived, List.filter_singleton]

theorem record_read (vt limit : Int) (ms : List (Message Json)) :
    record id [⟨⟨.read name vt limit, .ok ms⟩, now⟩] =
      { delivered := ms.filter fun m => m.id = id, hidden := ms.filter fun m => m.id = id } := by
  simp [record, Call.sent, Call.delivered, Call.hidden, Call.popped, Call.deleted,
    Call.archived]

theorem record_pop (m : Message Json) :
    record id [⟨⟨.pop name, .ok (some m)⟩, now⟩] =
      { popped := if m.id = id then [m] else [] } := by
  simp [record, Call.sent, Call.delivered, Call.hidden, Call.popped, Call.deleted,
    Call.archived, List.filter_singleton]

theorem record_setVisibility (vt : Int) (m : Message Json) :
    record id [⟨⟨.setVisibility name i vt, .ok (some m)⟩, now⟩] =
      { hidden := if m.id = id then [m] else [] } := by
  simp [record, Call.sent, Call.delivered, Call.hidden, Call.popped, Call.deleted,
    Call.archived, List.filter_singleton]

theorem record_delete :
    record id [⟨⟨.delete name i, .ok true⟩, now⟩] = { deleted := if i = id then 1 else 0 } := by
  simp [record, Call.sent, Call.delivered, Call.hidden, Call.popped, Call.deleted,
    Call.archived, List.count_singleton]

theorem record_archive :
    record id [⟨⟨.archive name i, .ok true⟩, now⟩] = { archived := if i = id then 1 else 0 } := by
  simp [record, Call.sent, Call.delivered, Call.hidden, Call.popped, Call.deleted,
    Call.archived, List.count_singleton]

end OneCall

/-! ## What one call does to one id -/

/-- What a call does to an id in a queue, and tells of it. -/
inductive Fate (id : Int) (q : Queue) (c : Call) (q' : Queue) : Prop where
  | spared (hlive : q'.live.get? id = q.live.get? id)
      (harchived : q'.archived.get? id = q.archived.get? id)
      (hnext : q.nextId ≤ q'.nextId ∧ (q.nextId ≤ id → q'.nextId ≤ id))
      (htold : record id [c] = {})
  | sent (payload : Json) (hid : id = q.nextId)
      (hlive : q'.live.get? id = some ⟨0, c.now, c.now, payload⟩)
      (harchived : q'.archived = q.archived) (hnext : q'.nextId = q.nextId + 1)
      (htold : record id [c] = { sent := [⟨id, c.now, payload⟩] })
  | delivered (name : QueueName) (vt limit : Int) (m : StoredMessage) (t : Instant)
      (hrequest : c.request = .read name vt limit) (ht : c.now.addSeconds? vt = some t)
      (hvisible : m.visibleAt ≤ c.now) (hbefore : q.live.get? id = some m)
      (hlive : q'.live.get? id = some (m.afterRead t))
      (harchived : q'.archived = q.archived) (hnext : q'.nextId = q.nextId)
      (htold : record id [c] =
        { delivered := [handOut t (id, m)], hidden := [handOut t (id, m)] })
  | hidden (name : QueueName) (vt : Int) (m : StoredMessage) (t : Instant)
      (hrequest : c.request = .setVisibility name id vt) (ht : c.now.addSeconds? vt = some t)
      (hbefore : q.live.get? id = some m) (hlive : q'.live.get? id = some (m.hiddenUntil t))
      (harchived : q'.archived = q.archived) (hnext : q'.nextId = q.nextId)
      (htold : record id [c] = { hidden := [handOut t (id, m)] })
  | popped (name : QueueName) (m : StoredMessage) (hrequest : c.request = .pop name)
      (hvisible : m.visibleAt ≤ c.now) (hbefore : q.live.get? id = some m)
      (hlive : q'.live.get? id = none) (harchived : q'.archived = q.archived)
      (hnext : q'.nextId = q.nextId) (htold : record id [c] = { popped := [m.toMessage id] })
  | deleted (name : QueueName) (m : StoredMessage) (hrequest : c.request = .delete name id)
      (hbefore : q.live.get? id = some m) (hlive : q'.live.get? id = none)
      (harchived : q'.archived = q.archived) (hnext : q'.nextId = q.nextId)
      (htold : record id [c] = { deleted := 1 })
  | archived (name : QueueName) (m : StoredMessage) (hrequest : c.request = .archive name id)
      (hbefore : q.live.get? id = some m) (hlive : q'.live.get? id = none)
      (harchived : q'.archived.get? id = some m) (hnext : q'.nextId = q.nextId)
      (htold : record id [c] = { archived := 1 })

/-- A call that leaves the queue as it is and tells of no id spares them all. -/
theorem Fate.of_unchanged {id : Int} {q : Queue} {c : Call} (htold : record id [c] = {}) :
    Fate id q c q :=
  .spared rfl rfl ⟨Int.le_refl _, fun h => h⟩ htold

/-- Among messages with ascending ids, one is alone with its id. -/
theorem filter_id_eq_singleton {ms : List (Message Json)} {m : Message Json}
    (h : (ms.map Message.id).Pairwise (· < ·)) (hm : m ∈ ms) :
    ms.filter (fun x => x.id = m.id) = [m] := by
  induction ms with
  | nil => simp at hm
  | cons x rest ih =>
      rw [List.map_cons, List.pairwise_cons] at h
      rcases h with ⟨hall, hrest⟩
      rcases List.mem_cons.1 hm with rfl | hm
      · have hnone : rest.filter (fun x => x.id = m.id) = [] := by
          rw [List.filter_eq_nil_iff]
          intro y hy
          have := hall y.id (List.mem_map_of_mem hy)
          simp only [decide_eq_true_eq]
          omega
        rw [List.filter_cons_of_pos (by simp), hnone]
      · have hlt := hall m.id (List.mem_map_of_mem hm)
        have hne : ¬ x.id = m.id := by omega
        rw [List.filter_cons_of_neg (by simpa using hne)]
        exact ih hrest hm

namespace Queue

variable {q q' : Queue} {now : Instant}

/-- A call sends one message under the next id or none at all. -/
theorem Step.sent_cases {c : Call} (h : q.Step c q') :
    (c.sent = [] ∧ q'.nextId = q.nextId) ∨
      ∃ s, c.sent = [s] ∧ s.id = q.nextId ∧ q'.nextId = q.nextId + 1 := by
  cases h with
  | refused r e now => exact Or.inl ⟨by cases r <;> rfl, rfl⟩
  | send name payload now =>
      rcases q.send_frame now payload with ⟨hsent, hnext, -⟩
      exact Or.inr ⟨_, rfl, hsent, hnext⟩
  | read name h =>
      rcases read_eq_ok_iff.1 h with ⟨t, -, -, hdeliver⟩
      rcases q.delivery_frame _ t _ with ⟨-, hnext, -⟩
      rw [hdeliver] at hnext
      exact Or.inl ⟨rfl, hnext⟩
  | pop name now =>
      rw [pop_eq]
      split <;> exact Or.inl ⟨rfl, rfl⟩
  | @setVisibility _ _ _ msg? _ name h =>
      cases msg? with
      | none =>
          rcases setVisibility_eq_ok_none_iff.1 h with ⟨-, rfl⟩
          exact Or.inl ⟨rfl, rfl⟩
      | some msg =>
          rcases setVisibility_eq_ok_some_iff.1 h with ⟨m, t, -, -, -, rfl⟩
          exact Or.inl ⟨rfl, rfl⟩
  | delete name id now =>
      unfold Queue.delete
      split <;> exact Or.inl ⟨rfl, rfl⟩
  | archive name id now =>
      unfold Queue.archive
      split <;> exact Or.inl ⟨rfl, rfl⟩
  | metrics name now => exact Or.inl ⟨rfl, rfl⟩

theorem fate_refused (q : Queue) (r : Request) (e : QueueError) (now : Instant) (id : Int) :
    Fate id q ⟨⟨r, .error e⟩, now⟩ q := by
  apply Fate.of_unchanged
  cases r <;> rfl

theorem fate_send (q : Queue) (name : QueueName) (payload : Json) (now : Instant) (id : Int) :
    Fate id q ⟨⟨.send name payload, .ok (q.send now payload).1⟩, now⟩ (q.send now payload).2 := by
  rcases q.send_frame now payload with ⟨hsent, hnext, harchived⟩
  have hlive := q.get?_send now payload id
  rw [hsent]
  by_cases hid : id = q.nextId
  · rw [if_pos hid] at hlive
    refine .sent payload hid hlive harchived hnext ?_
    rw [record_send, if_pos hid.symm, hid]
  · rw [if_neg hid] at hlive
    have hne : ¬ q.nextId = id := fun h => hid h.symm
    refine .spared hlive (by rw [harchived]) (by omega) ?_
    rw [record_send, if_neg hne]

theorem fate_read {vt limit : Int} {ms : List (Message Json)} (name : QueueName)
    (h : q.read now vt limit = (.ok ms, q')) (id : Int) :
    Fate id q ⟨⟨.read name vt limit, .ok ms⟩, now⟩ q' := by
  rcases read_eq_ok_iff.1 h with ⟨t, ht, -, hdeliver⟩
  rcases q.delivery_frame now t limit.toNat with ⟨-, hnext, harchived⟩
  have hlive := q.get?_delivery now t limit.toNat id
  have hids := q.delivery_ids_pairwise now t limit.toNat
  rw [hdeliver] at hnext harchived hlive hids
  by_cases hid : id ∈ ms.map Message.id
  · rw [if_pos hid] at hlive
    rcases List.mem_map.1 hid with ⟨msg, hmsg, rfl⟩
    have hsingle := filter_id_eq_singleton hids hmsg
    have hmem : msg ∈ (q.delivery now t limit.toNat).1 := by rwa [hdeliver]
    rcases exists_of_mem_delivery hmem with ⟨m, hbefore, hvisible, hmsg⟩
    rw [hbefore, Option.map_some] at hlive
    refine .delivered name vt limit m t rfl ht hvisible hbefore hlive harchived hnext ?_
    rw [record_read, hsingle, ← hmsg]
  · rw [if_neg hid] at hlive
    refine .spared hlive (by rw [harchived]) (by simp_all) ?_
    have hnone : ms.filter (fun m => m.id = id) = [] := by
      rw [List.filter_eq_nil_iff]
      intro m hm
      simp only [decide_eq_true_eq]
      rintro rfl
      exact hid (List.mem_map_of_mem hm)
    rw [record_read, hnone]

theorem fate_pop (q : Queue) (name : QueueName) (now : Instant) (id : Int) :
    Fate id q ⟨⟨.pop name, .ok (q.pop now).1⟩, now⟩ (q.pop now).2 := by
  rw [pop_eq]
  cases hhead : (q.visible now).head? with
  | none => exact .of_unchanged rfl
  | some e =>
      rcases e with ⟨i, m⟩
      rcases mem_visible_iff.1 (List.mem_of_mem_head? hhead) with ⟨hbefore, hvisible⟩
      have hlive : (q.live.erase i).get? id = _ := q.live.get?_erase i id
      by_cases hid : id = i
      · subst hid
        rw [if_pos rfl] at hlive
        refine .popped name m rfl hvisible hbefore hlive rfl rfl ?_
        rw [record_pop, StoredMessage.toMessage, if_pos rfl]
      · rw [if_neg hid] at hlive
        refine .spared hlive rfl (by simp) ?_
        have hne : ¬ i = id := fun h => hid h.symm
        rw [record_pop, StoredMessage.toMessage, if_neg hne]

theorem fate_setVisibility {i vt : Int} {msg? : Option (Message Json)} (name : QueueName)
    (h : q.setVisibility now i vt = (.ok msg?, q')) (id : Int) :
    Fate id q ⟨⟨.setVisibility name i vt, .ok msg?⟩, now⟩ q' := by
  cases msg? with
  | none =>
      rcases setVisibility_eq_ok_none_iff.1 h with ⟨-, rfl⟩
      exact .of_unchanged rfl
  | some msg =>
      rcases setVisibility_eq_ok_some_iff.1 h with ⟨m, t, hbefore, ht, rfl, rfl⟩
      have hlive : (q.live.insert i (m.hiddenUntil t)).get? id = _ :=
        q.live.get?_insert i id (m.hiddenUntil t)
      by_cases hid : id = i
      · subst hid
        rw [if_pos rfl] at hlive
        refine .hidden name vt m t rfl ht hbefore hlive rfl rfl ?_
        rw [record_setVisibility, handOut, StoredMessage.toMessage, if_pos rfl]
      · rw [if_neg hid] at hlive
        refine .spared hlive rfl (by simp) ?_
        have hne : ¬ i = id := fun h => hid h.symm
        rw [record_setVisibility, handOut, StoredMessage.toMessage, if_neg hne]

theorem fate_delete (q : Queue) (name : QueueName) (i : Int) (now : Instant) (id : Int) :
    Fate id q ⟨⟨.delete name i, .ok (q.delete i).1⟩, now⟩ (q.delete i).2 := by
  unfold delete
  cases hbefore : q.live.get? i with
  | none => exact .of_unchanged rfl
  | some m =>
      have hlive : (q.live.erase i).get? id = _ := q.live.get?_erase i id
      by_cases hid : id = i
      · subst hid
        rw [if_pos rfl] at hlive
        refine .deleted name m rfl hbefore hlive rfl rfl ?_
        rw [record_delete, if_pos rfl]
      · rw [if_neg hid] at hlive
        refine .spared hlive rfl (by simp) ?_
        have hne : ¬ i = id := fun h => hid h.symm
        rw [record_delete, if_neg hne]

theorem fate_archive (q : Queue) (name : QueueName) (i : Int) (now : Instant) (id : Int) :
    Fate id q ⟨⟨.archive name i, .ok (q.archive i).1⟩, now⟩ (q.archive i).2 := by
  unfold archive
  cases hbefore : q.live.get? i with
  | none => exact .of_unchanged rfl
  | some m =>
      have hlive : (q.live.erase i).get? id = _ := q.live.get?_erase i id
      have harchived : (q.archived.insert i m).get? id = _ := q.archived.get?_insert i id m
      by_cases hid : id = i
      · subst hid
        rw [if_pos rfl] at hlive harchived
        refine .archived name m rfl hbefore hlive harchived rfl ?_
        rw [record_archive, if_pos rfl]
      · rw [if_neg hid] at hlive harchived
        refine .spared hlive harchived (by simp) ?_
        have hne : ¬ i = id := fun h => hid h.symm
        rw [record_archive, if_neg hne]

/-- A call does one of seven things to an id. -/
theorem Step.fate {c : Call} (h : q.Step c q') (id : Int) : Fate id q c q' := by
  cases h with
  | refused r e now => exact fate_refused q r e now id
  | send name payload now => exact fate_send q name payload now id
  | read name h => exact fate_read name h id
  | pop name now => exact fate_pop q name now id
  | setVisibility name h => exact fate_setVisibility name h id
  | delete name i now => exact fate_delete q name i now id
  | archive name i now => exact fate_archive q name i now id
  | metrics name now => exact .of_unchanged rfl

end Queue

/-! ## The messages that calls hand out -/

namespace Call

variable {c : Call} {msg : Message Json}

theorem mem_record_delivered (h : msg ∈ c.delivered) : msg ∈ (record msg.id [c]).delivered := by
  simpa [record] using h

theorem mem_record_hidden (h : msg ∈ c.hidden) : msg ∈ (record msg.id [c]).hidden := by
  simpa [record] using h

theorem mem_record_popped (h : msg ∈ c.popped) : msg ∈ (record msg.id [c]).popped := by
  simpa [record] using h

end Call

namespace Queue.Step

variable {q q' : Queue} {c : Call} {msg : Message Json}

/-- A delivered message was live and visible, and is handed out once, with the instant until which
the read hides it. -/
theorem mem_delivered (h : q.Step c q') (hmsg : msg ∈ c.delivered) :
    ∃ name vt limit t m, c.request = .read name vt limit ∧ c.now.addSeconds? vt = some t ∧
      q.live.get? msg.id = some m ∧ m.visibleAt ≤ c.now ∧ msg = handOut t (msg.id, m) ∧
      record msg.id [c] = { delivered := [msg], hidden := [msg] } := by
  have hmem := Call.mem_record_delivered hmsg
  cases h.fate msg.id with
  | delivered name vt limit m t hrequest ht hvisible hbefore _ _ _ htold =>
      rw [htold] at hmem
      have hout := List.mem_singleton.1 hmem
      rw [← hout] at htold
      exact ⟨name, vt, limit, t, m, hrequest, ht, hbefore, hvisible, hout, htold⟩
  | spared _ _ _ htold | sent _ _ _ _ _ htold | hidden _ _ _ _ _ _ _ _ _ _ htold
  | popped _ _ _ _ _ _ _ _ htold | deleted _ _ _ _ _ _ _ htold
  | archived _ _ _ _ _ _ _ htold =>
      rw [htold] at hmem
      exact absurd hmem List.not_mem_nil

/-- A popped message was live and visible, and is handed out as it was. -/
theorem mem_popped (h : q.Step c q') (hmsg : msg ∈ c.popped) :
    ∃ m, q.live.get? msg.id = some m ∧ m.visibleAt ≤ c.now ∧ msg = m.toMessage msg.id := by
  have hmem := Call.mem_record_popped hmsg
  cases h.fate msg.id with
  | popped name m _ hvisible hbefore _ _ _ htold =>
      rw [htold] at hmem
      exact ⟨m, hbefore, hvisible, List.mem_singleton.1 hmem⟩
  | spared _ _ _ htold | sent _ _ _ _ _ htold | hidden _ _ _ _ _ _ _ _ _ _ htold
  | delivered _ _ _ _ _ _ _ _ _ _ _ _ htold | deleted _ _ _ _ _ _ _ htold
  | archived _ _ _ _ _ _ _ htold =>
      rw [htold] at hmem
      exact absurd hmem List.not_mem_nil

/-- A message that a call hid was live. -/
theorem mem_hidden (h : q.Step c q') (hmsg : msg ∈ c.hidden) :
    ∃ m t, q.live.get? msg.id = some m ∧ msg = handOut t (msg.id, m) := by
  have hmem := Call.mem_record_hidden hmsg
  cases h.fate msg.id with
  | delivered _ _ _ m t _ _ _ hbefore _ _ _ htold | hidden _ _ m t _ _ hbefore _ _ _ htold =>
      rw [htold] at hmem
      exact ⟨m, t, hbefore, List.mem_singleton.1 hmem⟩
  | spared _ _ _ htold | sent _ _ _ _ _ htold | popped _ _ _ _ _ _ _ _ htold
  | deleted _ _ _ _ _ _ _ htold | archived _ _ _ _ _ _ _ htold =>
      rw [htold] at hmem
      exact absurd hmem List.not_mem_nil

end Queue.Step

/-! ## Where an id stands -/

/-- Ids are given out in ascending order from one on, and the next one follows the last. -/
theorem Lifetime.sent_ids {calls : List Call} {q : Queue} (h : Lifetime calls q) :
    ∃ n : Nat, (calls.flatMap Call.sent).map Sending.id =
        (List.range n).map (fun k : Nat => (k : Int) + 1) ∧ q.nextId = n + 1 := by
  induction h with
  | created now => exact ⟨0, rfl, rfl⟩
  | @step calls q q' c hcalls hstep ih =>
      rcases ih with ⟨n, hids, hnext⟩
      rw [List.flatMap_append, List.map_append, hids, List.flatMap_singleton]
      rcases hstep.sent_cases with ⟨hsent, hsame⟩ | ⟨s, hsent, hid, hgrown⟩
      · exact ⟨n, by simp [hsent], by rw [hsame, hnext]⟩
      · refine ⟨n + 1, ?_, by omega⟩
        simp [hsent, hid, hnext, List.range_succ]

/-- A call delivers a message at most once. -/
theorem Lifetime.length_delivered_le {calls : List Call} {q : Queue} (h : Lifetime calls q)
    (id : Int) : (record id calls).delivered.length ≤ calls.length := by
  induction h with
  | created now => exact Nat.le_refl 0
  | @step calls q q' c hcalls hstep ih =>
      have honce : (record id [c]).delivered.length ≤ 1 := by
        cases hstep.fate id with
        | delivered _ _ _ _ _ _ _ _ _ _ _ _ htold =>
            rw [htold]
            exact Nat.le_refl 1
        | spared _ _ _ htold | sent _ _ _ _ _ htold | hidden _ _ _ _ _ _ _ _ _ _ htold
        | popped _ _ _ _ _ _ _ _ htold | deleted _ _ _ _ _ _ _ htold
        | archived _ _ _ _ _ _ _ htold =>
            rw [htold]
            exact Nat.zero_le 1
      rw [record_append, Record.append, List.length_append, List.length_append]
      exact Nat.add_le_add ih honce

/-- A record tells of a live message as it is. -/
structure Record.Describes (r : Record) (id : Int) (m : StoredMessage) : Prop where
  sent : r.sent = [⟨id, m.enqueuedAt, m.payload⟩]
  delivered : m.readCount = r.delivered.length
  horizon : r.horizon = some m.visibleAt
  popped : r.popped = []
  deleted : r.deleted = 0
  archived : r.archived = 0

namespace Record.Describes

variable {r : Record} {id : Int} {m : StoredMessage}

/-- The record of a send describes the message as it was sent. -/
theorem of_sent (id : Int) (now : Instant) (payload : Json) :
    Describes { sent := [⟨id, now, payload⟩] } id ⟨0, now, now, payload⟩ :=
  ⟨rfl, rfl, rfl, rfl, rfl, rfl⟩

/-- A record continued by a delivery describes the message as the delivery left it. -/
theorem deliver (h : r.Describes id m) (t : Instant) :
    (r.append { delivered := [handOut t (id, m)], hidden := [handOut t (id, m)] }).Describes id
      (m.afterRead t) where
  sent := by
    rw [append, h.sent]
    rfl
  delivered := by
    rw [append, List.length_append, Int.natCast_add, ← h.delivered]
    rfl
  horizon := horizon_of_getLast? (m := handOut t (id, m)) (by simp [append])
  popped := by rw [append, h.popped]; rfl
  deleted := h.deleted
  archived := h.archived

/-- A record continued by a change of visibility describes the message as the change left it. -/
theorem hide (h : r.Describes id m) (t : Instant) :
    (r.append { hidden := [handOut t (id, m)] }).Describes id (m.hiddenUntil t) where
  sent := by
    rw [append, h.sent]
    rfl
  delivered := h.delivered.trans (by simp [append])
  horizon := horizon_of_getLast? (m := handOut t (id, m)) (by simp [append])
  popped := by rw [append, h.popped]; rfl
  deleted := h.deleted
  archived := h.archived

end Record.Describes

/-- Where an id stands after some calls, and what its record then tells. -/
inductive Standing (id : Int) (calls : List Call) (q : Queue) : Prop where
  | unsent (hid : id < 1 ∨ q.nextId ≤ id) (hlive : q.live.get? id = none)
      (harchived : q.archived.get? id = none) (htold : record id calls = {})
  | live (m : StoredMessage) (hid : 1 ≤ id ∧ id < q.nextId) (hlive : q.live.get? id = some m)
      (harchived : q.archived.get? id = none) (htold : (record id calls).Describes id m)
  | archived (hid : 1 ≤ id ∧ id < q.nextId) (hlive : q.live.get? id = none)
      (harchived : (q.archived.get? id).isSome)
      (hends : (record id calls).removed = 0 ∧ (record id calls).archived = 1)
  | removed (hid : 1 ≤ id ∧ id < q.nextId) (hlive : q.live.get? id = none)
      (harchived : q.archived.get? id = none)
      (hends : (record id calls).removed = 1 ∧ (record id calls).archived = 0)

/-- Under an id without a live message a call can only send. -/
theorem Fate.of_not_live {id : Int} {q q' : Queue} {c : Call} (h : Fate id q c q')
    (hnot : q.live.get? id = none) :
    (q'.live.get? id = none ∧ q'.archived.get? id = q.archived.get? id ∧
        (q.nextId ≤ q'.nextId ∧ (q.nextId ≤ id → q'.nextId ≤ id)) ∧ record id [c] = {}) ∨
      ∃ payload, id = q.nextId ∧ q'.live.get? id = some ⟨0, c.now, c.now, payload⟩ ∧
        q'.archived = q.archived ∧ q'.nextId = q.nextId + 1 ∧
        record id [c] = { sent := [⟨id, c.now, payload⟩] } := by
  cases h with
  | spared hlive harchived hnext htold => exact Or.inl ⟨hlive.trans hnot, harchived, hnext, htold⟩
  | sent payload hid hlive harchived hnext htold =>
      exact Or.inr ⟨payload, hid, hlive, harchived, hnext, htold⟩
  | delivered _ _ _ _ _ _ _ _ hbefore => simp [hnot] at hbefore
  | hidden _ _ _ _ _ _ hbefore => simp [hnot] at hbefore
  | popped _ _ _ _ hbefore => simp [hnot] at hbefore
  | deleted _ _ _ hbefore => simp [hnot] at hbefore
  | archived _ _ _ hbefore => simp [hnot] at hbefore

/-- One more call takes an id from where it stands to where it may go from there. -/
theorem Standing.step {id : Int} {calls : List Call} {q q' : Queue} {c : Call}
    (h : Standing id calls q) (hfirst : 1 ≤ q.nextId) (hfate : Fate id q c q') :
    Standing id (calls ++ [c]) q' := by
  have hrecord := record_append id calls [c]
  cases h with
  | unsent hid hlive harchived htold =>
      rw [htold] at hrecord
      rcases hfate.of_not_live hlive with
        ⟨hlive', harchived', hnext, htold'⟩ | ⟨payload, hid', hlive', harchived', hnext, htold'⟩
      · rw [htold', Record.append_empty] at hrecord
        exact .unsent (by omega) hlive' (harchived'.trans harchived) hrecord
      · rw [htold'] at hrecord
        refine .live _ (by omega) hlive' (by rw [harchived', harchived]) ?_
        rw [hrecord]
        exact .of_sent id c.now payload
  | live m hid hlive harchived htold =>
      cases hfate with
      | spared hlive' harchived' hnext htold' =>
          rw [htold', Record.append_empty] at hrecord
          refine .live m (by omega) (hlive'.trans hlive) (harchived'.trans harchived) ?_
          rw [hrecord]
          exact htold
      | sent payload hid' _ _ _ _ => omega
      | delivered name vt limit m' t _ _ _ hbefore hlive' harchived' hnext htold' =>
          rw [hlive, Option.some.injEq] at hbefore
          subst hbefore
          refine .live (m.afterRead t) (by omega) hlive' (by rw [harchived', harchived]) ?_
          rw [hrecord, htold']
          exact htold.deliver t
      | hidden name vt m' t _ _ hbefore hlive' harchived' hnext htold' =>
          rw [hlive, Option.some.injEq] at hbefore
          subst hbefore
          refine .live (m.hiddenUntil t) (by omega) hlive' (by rw [harchived', harchived]) ?_
          rw [hrecord, htold']
          exact htold.hide t
      | popped name m' _ _ _ hlive' harchived' hnext htold' =>
          refine .removed (by omega) hlive' (by rw [harchived', harchived]) ?_
          rw [hrecord, htold']
          exact ⟨by simp [Record.removed, Record.append, htold.popped, htold.deleted],
            htold.archived⟩
      | deleted name m' _ _ hlive' harchived' hnext htold' =>
          refine .removed (by omega) hlive' (by rw [harchived', harchived]) ?_
          rw [hrecord, htold']
          exact ⟨by simp [Record.removed, Record.append, htold.popped, htold.deleted],
            htold.archived⟩
      | archived name m' _ _ hlive' harchived' hnext htold' =>
          refine .archived (by omega) hlive' (by rw [harchived']; rfl) ?_
          rw [hrecord, htold']
          exact ⟨by simp [Record.removed, Record.append, htold.popped, htold.deleted],
            congrArg (· + 1) htold.archived⟩
  | archived hid hlive harchived hends =>
      rcases hfate.of_not_live hlive with
        ⟨hlive', harchived', hnext, htold⟩ | ⟨payload, hid', -⟩
      · rw [htold, Record.append_empty] at hrecord
        refine .archived (by omega) hlive' (by rw [harchived', harchived]) ?_
        rw [hrecord]
        exact hends
      · omega
  | removed hid hlive harchived hends =>
      rcases hfate.of_not_live hlive with
        ⟨hlive', harchived', hnext, htold⟩ | ⟨payload, hid', -⟩
      · rw [htold, Record.append_empty] at hrecord
        refine .removed (by omega) hlive' (harchived'.trans harchived) ?_
        rw [hrecord]
        exact hends
      · omega

/-- Every id of a queue that has lived through some calls is unsent, live, archived or removed,
as its record tells. -/
theorem Lifetime.standing {calls : List Call} {q : Queue} (h : Lifetime calls q) (id : Int) :
    Standing id calls q := by
  induction h with
  | created now => exact .unsent (Int.lt_or_le id 1) rfl rfl rfl
  | step before hstep ih =>
      rcases before.sent_ids with ⟨n, -, hnext⟩
      exact ih.step (by omega) (hstep.fate id)

/-- The record of a live message describes it. -/
theorem Lifetime.describes {calls : List Call} {q : Queue} (h : Lifetime calls q) {id : Int}
    {m : StoredMessage} (hlive : q.live.get? id = some m) : (record id calls).Describes id m := by
  cases h.standing id with
  | live m' _ hlive' _ htold =>
      rw [hlive, Option.some.injEq] at hlive'
      subst hlive'
      exact htold
  | unsent _ hnot | archived _ hnot | removed _ hnot => simp [hlive] at hnot

end Store
end MessageQueue
