import MessageQueue.Proofs.Store.Separation
import MessageQueue.Proofs.Store.Visibility

/-!
# Effects of requests

A request of one queue that a store in memory answers well changes that queue and nothing else,
and its answer tells how.  A batch that was read is still there, hidden until an instant and
handed out again from then on; a change of visibility is in force; a popped message is gone.

Main results:

- Theorem `exists_onlyChange`: a request of one queue changes nothing besides that queue.
- Theorem `handsOutFrom_of_live`: a live message is handed out from the instant on that is stored
  with it, and not before.
- Theorems `exists_delivered`, `exists_hidden` and `exists_popped`: what a read, a change of
  visibility and a pop have done when they answer.
-/

namespace MessageQueue
namespace Store

open Time (Instant)

namespace Memory

/-! ## Changes of one queue -/

/-- One queue of a store has changed, and besides it at most the count of calls. -/
structure OnlyChange (name : QueueName) (q q' : Queue) (before after : Memory) : Prop where
  was : before.queues.get? name.text = some q
  becomes : after.queues.get? name.text = some q'
  others : ∀ n, n ≠ name.text → after.queues.get? n = before.queues.get? n
  now : after.now = before.now
  offline : after.offline = before.offline

/-- A request of one queue that is answered well changes that queue by its step and nothing
else. -/
theorem exists_onlyChange {m : Memory} {name : QueueName} {r : Request} {reply : r.Reply}
    {step : Queue → Except Failure r.Reply × Queue}
    (hstep : queueStep? m.now r = some (name, step)) (hok : (perform r m).1 = .ok reply) :
    ∃ q, (step q).1 = .ok reply ∧ OnlyChange name q (step q).2 m (perform r m).2 := by
  have honline : m.offline = false := by
    cases hoffline : m.offline with
    | false => rfl
    | true =>
        rw [perform_offline r hoffline] at hok
        cases hok
  rcases exists_of_perform_eq_ok hstep hok with ⟨q, hq, hanswer⟩
  rcases perform_of_queueStep? hstep honline hq with ⟨-, hafter, hnow, hoffline⟩
  refine ⟨q, hanswer, hq, hafter, ?_, hnow, hoffline.trans honline.symm⟩
  intro n hn
  have habout : r.isAbout n = false := by
    have hne : ¬ name.text = n := fun h => hn h.symm
    simp [Request.isAbout, queue?_of_queueStep? hstep, hne]
  exact (agree_perform habout m).queue

/-! ## Messages that are handed out -/

/-- Reads and pops hand out a message from an instant on and not before. -/
structure HandsOutFrom (m : Memory) (name : QueueName) (id : Int) (t : Instant) : Prop where
  /-- A read with room for all live messages returns it exactly from then on, and no read returns
  it before.  Every read answers that finds an instant until which to hide messages, and none of
  them spent. -/
  read : ∃ q, m.queues.get? name.text = some q ∧ ∀ now vt limit,
    ((now.addSeconds? vt).isSome → q.Deliverable now limit.toNat →
        ∃ batch, (perform (.read name vt limit) (m.onlineAt now)).1 = .ok batch) ∧
      ∀ batch, (perform (.read name vt limit) (m.onlineAt now)).1 = .ok batch →
        ((q.live.size : Int) ≤ limit → (id ∈ batch.map Message.id ↔ t ≤ now)) ∧
          (now < t → id ∉ batch.map Message.id)
  /-- No pop returns it before. -/
  pop : ∀ now, ∃ message?, (perform (.pop name) (m.onlineAt now)).1 = .ok message? ∧
    (now < t → ∀ message ∈ message?, message.id ≠ id)

/-- A live message is handed out from the instant on that is stored with it. -/
theorem handsOutFrom_of_live {m : Memory} {name : QueueName} {q : Queue} {id : Int}
    {message : StoredMessage} (hq : m.queues.get? name.text = some q)
    (hlive : q.live.get? id = some message) : HandsOutFrom m name id message.visibleAt := by
  constructor
  · refine ⟨q, hq, fun now vt limit => ?_⟩
    rw [perform_onlineAt rfl hq]
    refine ⟨fun ht hcounts => ?_, fun batch hread => Queue.read_hands_out hread hlive⟩
    rcases Option.isSome_iff_exists.1 ht with ⟨hidden, hhidden⟩
    exact ⟨_, congrArg Prod.fst (Queue.read_eq_delivery hhidden hcounts)⟩
  · intro now
    refine ⟨(q.pop now).1, ?_, Queue.pop_spares_hidden hlive⟩
    rw [perform_onlineAt rfl hq]
    rfl

/-! ## Reads -/

/-- A batch was delivered from a queue: its messages are still there, with one more delivery
counted, hidden until an instant and handed out again from then on. -/
structure Delivered (name : QueueName) (hidden : Instant) (batch : List (Message Json))
    (q q' : Queue) (before after : Memory) : Prop where
  change : OnlyChange name q q' before after
  live : ∀ message ∈ batch, message.visibleAt = hidden ∧
    ∃ m, q.live.get? message.id = some m ∧
      q'.live.get? message.id = some ⟨m.readCount + 1, m.enqueuedAt, hidden, m.payload⟩
  spared : ∀ id, id ∉ batch.map Message.id → q'.live.get? id = q.live.get? id
  frame : q'.createdAt = q.createdAt ∧ q'.nextId = q.nextId ∧ q'.archived = q.archived
  again : ∀ message ∈ batch, HandsOutFrom after name message.id hidden

/-- What a store answers to a read are the first visible messages of the queue. -/
theorem exists_delivery {m : Memory} {name : QueueName} {vt limit : Int}
    {batch : List (Message Json)} (h : (perform (.read name vt limit) m).1 = .ok batch) :
    ∃ q hidden, m.now.addSeconds? vt = some hidden ∧
      batch = (q.delivery m.now hidden limit.toNat).1 ∧
      OnlyChange name q (q.delivery m.now hidden limit.toNat).2 m
        (perform (.read name vt limit) m).2 := by
  rcases exists_onlyChange rfl h with ⟨q, hread, hchange⟩
  have hpair : q.read m.now vt limit = (.ok batch, (q.read m.now vt limit).2) :=
    Prod.ext hread rfl
  rcases Queue.read_eq_ok_iff.1 hpair with ⟨hidden, ht, -, hdeliver⟩
  refine ⟨q, hidden, ht, ?_, ?_⟩
  · rw [hdeliver]
  · rw [hdeliver]
    exact hchange

/-- A batch has ascending ids and no more messages than were asked for. -/
theorem batch_ascends {m : Memory} {name : QueueName} {vt limit : Int}
    {batch : List (Message Json)} (h : (perform (.read name vt limit) m).1 = .ok batch) :
    (batch.map Message.id).Pairwise (· < ·) ∧ batch.length ≤ limit.toNat := by
  rcases exists_delivery h with ⟨q, hidden, -, rfl, -⟩
  refine ⟨q.delivery_ids_pairwise m.now hidden limit.toNat, ?_⟩
  rw [Queue.delivery_fst, List.length_map, List.length_take]
  exact Nat.min_le_left _ _

/-- A read that answers with a batch has delivered it. -/
theorem exists_delivered {m : Memory} {name : QueueName} {vt limit : Int}
    {batch : List (Message Json)} (h : (perform (.read name vt limit) m).1 = .ok batch) :
    ∃ q q' hidden, m.now.addSeconds? vt = some hidden ∧
      Delivered name hidden batch q q' m (perform (.read name vt limit) m).2 := by
  rcases exists_delivery h with ⟨q, hidden, ht, rfl, hchange⟩
  have hlive : ∀ message ∈ (q.delivery m.now hidden limit.toNat).1,
      message.visibleAt = hidden ∧ ∃ stored, q.live.get? message.id = some stored ∧
        (q.delivery m.now hidden limit.toNat).2.live.get? message.id =
          some ⟨stored.readCount + 1, stored.enqueuedAt, hidden, stored.payload⟩ := by
    intro message hmem
    rcases Queue.exists_of_mem_delivery hmem with ⟨stored, hstored, -, hmessage⟩
    refine ⟨by rw [hmessage]; rfl, stored, hstored, ?_⟩
    rw [Queue.get?_delivery, if_pos (List.mem_map_of_mem hmem), hstored]
    rfl
  refine ⟨q, _, hidden, ht, hchange, hlive, ?_, ?_, ?_⟩
  · intro id hid
    rw [Queue.get?_delivery, if_neg hid]
  · exact q.delivery_frame m.now hidden limit.toNat
  · intro message hmem
    rcases (hlive message hmem).2 with ⟨stored, -, hstored⟩
    exact handsOutFrom_of_live hchange.becomes hstored

/-! ## The other requests -/

/-- A change of visibility that answers with a message has put the new instant in force. -/
theorem exists_hidden {m : Memory} {name : QueueName} {id vt : Int} {message : Message Json}
    (h : (perform (.setVisibility name id vt) m).1 = .ok (some message)) :
    ∃ q stored hidden, m.now.addSeconds? vt = some hidden ∧ q.live.get? id = some stored ∧
      OnlyChange name q { q with live := q.live.insert id (stored.hiddenUntil hidden) } m
        (perform (.setVisibility name id vt) m).2 ∧
      HandsOutFrom (perform (.setVisibility name id vt) m).2 name id hidden := by
  rcases exists_onlyChange rfl h with ⟨q, hset, hchange⟩
  have hpair : q.setVisibility m.now id vt =
      (.ok (some message), (q.setVisibility m.now id vt).2) := Prod.ext hset rfl
  rcases Queue.setVisibility_eq_ok_some_iff.1 hpair with ⟨stored, hidden, hstored, ht, -, hafter⟩
  rw [hafter] at hchange
  refine ⟨q, stored, hidden, ht, hstored, hchange, ?_⟩
  have hlive : (q.live.insert id (stored.hiddenUntil hidden)).get? id =
      some (stored.hiddenUntil hidden) := by
    rw [SortedMap.get?_insert, if_pos rfl]
  exact handsOutFrom_of_live hchange.becomes hlive

/-- A pop that answers with a message has taken it out. -/
theorem exists_popped {m : Memory} {name : QueueName} {message : Message Json}
    (h : (perform (.pop name) m).1 = .ok (some message)) :
    ∃ q, q.live.contains message.id = true ∧
      OnlyChange name q { q with live := q.live.erase message.id } m (perform (.pop name) m).2 := by
  rcases exists_onlyChange rfl h with ⟨q, hpop, hchange⟩
  simp only [succeed, Except.ok.injEq] at hpop hchange
  rw [Queue.pop_eq] at hpop hchange
  cases hhead : (q.visible m.now).head? with
  | none =>
      rw [hhead] at hpop
      cases hpop
  | some e =>
      rcases e with ⟨id, stored⟩
      rw [hhead] at hpop hchange
      cases hpop
      rcases Queue.mem_visible_iff.1 (List.mem_of_mem_head? hhead) with ⟨hlive, -⟩
      refine ⟨q, ?_, hchange⟩
      rw [StoredMessage.toMessage, SortedMap.contains, hlive]
      rfl

/-- A store in memory reports no error about payloads. -/
theorem perform_ne_serialization (r : Request) (m : Memory) (e : PayloadError) :
    (perform r m).1 ≠ .error (.reported (.serialization e)) := by
  rcases m with ⟨queues, now, offline, count⟩
  cases offline with
  | true => simp [perform, offlineError]
  | false =>
      have hreply : (perform r ⟨queues, now, false, count⟩).1 = (answer queues now r).1 := rfl
      rw [hreply]
      cases hstep : queueStep? now r with
      | some p =>
          rcases p with ⟨name, step⟩
          rw [answer_eq_onQueue hstep, onQueue_fst]
          cases queues.get? name.text with
          | none => simp
          | some q => exact queueStep_ne_reported hstep q _
      | none =>
          cases r with
          | create name | createPartitioned name _ _ =>
              simp only [answer, createQueue_fst]
              cases queues.get? name.text <;> simp
          | drop | list => simp [answer]
          | send | read | pop | setVisibility | delete | archive | metrics => cases hstep

end Memory
end Store
end MessageQueue
