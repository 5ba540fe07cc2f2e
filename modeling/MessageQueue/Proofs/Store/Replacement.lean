import MessageQueue.Proofs.Session
import MessageQueue.Store.Memory

/-!
# Stores with their payloads replaced

A store in memory keeps payloads and hands them out again, but nothing that it does depends on
what they are.  When every payload that it holds, and the one that it is sent, is replaced in the
same way, it gives the same reply with the payloads replaced, and holds afterwards what it would
have held, with the payloads replaced.

Main results:

- Theorem `deliver_replaced`: a delivery selects and marks the same messages.
- Theorem `perform_replaced`: a request of a store with replaced payloads.
- Theorem `Memory.blind`: the store in memory is blind to payloads.
-/

namespace MessageQueue

open Time (Instant)

/-! ## Requests -/

/-- The request with the payload that it sends replaced. -/
def Request.mapPayload (f : Json → Json) : Request → Request
  | .send name payload => .send name (f payload)
  | r => r

/-- The reply with the payloads that it hands out replaced. -/
def Request.mapReply (f : Json → Json) : (r : Request) → r.Reply → (r.mapPayload f).Reply
  | .read _ _ _, rows => rows.map (Message.map f)
  | .pop _, row? | .setVisibility _ _ _, row? => row?.map (Message.map f)
  | .create _, reply | .createPartitioned _ _ _, reply | .send _ _, reply | .delete _ _, reply
  | .archive _ _, reply | .drop _, reply | .list, reply | .metrics _, reply => reply

/-- A store is blind to payloads when it replies to requests as before, and becomes what it became
before, if all payloads are replaced. -/
def Store.Blind {σ : Type} (f : Json → Json) (g : σ → σ) (store : Store σ) : Prop :=
  ∀ r, Session.Carries g (r.mapReply f) (store r) (store (r.mapPayload f))

namespace Store

variable {f : Json → Json}

/-! ## Messages and deliveries -/

namespace StoredMessage

/-- The message with its payload replaced. -/
def mapPayload (f : Json → Json) (m : StoredMessage) : StoredMessage :=
  { m with payload := f m.payload }

variable (m : StoredMessage)

@[simp]
theorem enqueuedAt_mapPayload : (m.mapPayload f).enqueuedAt = m.enqueuedAt := rfl

@[simp]
theorem visibleAt_mapPayload : (m.mapPayload f).visibleAt = m.visibleAt := rfl

@[simp]
theorem toMessage_mapPayload (id : Int) :
    (m.mapPayload f).toMessage id = (m.toMessage id).map f := rfl

@[simp]
theorem hiddenUntil_mapPayload (t : Instant) :
    (m.mapPayload f).hiddenUntil t = (m.hiddenUntil t).mapPayload f := rfl

@[simp]
theorem counted?_mapPayload :
    (m.mapPayload f).counted? = m.counted?.map (StoredMessage.mapPayload f) := by
  rw [counted?, counted?, apply_ite (Option.map (mapPayload f))]
  rfl

end StoredMessage

/-- A delivery from messages with replaced payloads selects and marks the same ones, and ends at the
same one if it does. -/
theorem deliver_replaced (now hidden : Instant) (limit : Nat)
    (entries : List (Int × StoredMessage)) :
    deliver now hidden limit (entries.map fun e => (e.1, e.2.mapPayload f)) =
      ((deliver now hidden limit entries).1.map (List.map (Message.map f)),
        (deliver now hidden limit entries).2.map fun e => (e.1, e.2.mapPayload f)) := by
  fun_induction deliver now hidden limit entries with
  | case1 entries => simp [deliver]
  | case2 limit => simp [deliver]
  | case3 limit id m rest hlt ms? after hrest ih => simp [deliver, hlt, ih, hrest]
  | case4 limit id m rest hlt hcounted => simp [deliver, hlt, hcounted]
  | case5 limit id m rest hlt counted hcounted ms? after hrest ih =>
      simp [deliver, hlt, hcounted, ih, hrest, Function.comp_def]

/-! ## Queues -/

namespace Queue

/-- The queue with the payloads of all its messages replaced. -/
def mapPayloads (f : Json → Json) (q : Queue) : Queue where
  createdAt := q.createdAt
  nextId := q.nextId
  live := q.live.mapValues fun _ m => m.mapPayload f
  archived := q.archived.mapValues fun _ m => m.mapPayload f

variable (q : Queue) (now : Instant)

@[simp]
theorem mapPayloads_new : (new now).mapPayloads f = new now := rfl

theorem get?_live_mapPayloads (id : Int) :
    (q.mapPayloads f).live.get? id = (q.live.get? id).map (StoredMessage.mapPayload f) :=
  q.live.get?_mapValues _ id

theorem send_replaced (payload : Json) :
    (q.mapPayloads f).send now (f payload) =
      ((q.send now payload).1, (q.send now payload).2.mapPayloads f) := by
  simp [send, mapPayloads, SortedMap.mapValues_insert, StoredMessage.mapPayload]

theorem deliverUntil_replaced (hidden : Instant) (limit : Nat) :
    (q.mapPayloads f).deliverUntil now hidden limit =
      ((q.deliverUntil now hidden limit).1.map (List.map (Message.map f)),
        (q.deliverUntil now hidden limit).2.mapPayloads f) := by
  rcases q with ⟨createdAt, nextId, ⟨live, sorted⟩, archived⟩
  simp [deliverUntil, mapPayloads, SortedMap.mapValues, deliver_replaced]

theorem read_replaced (vt limit : Int) :
    (q.mapPayloads f).read now vt limit =
      ((q.read now vt limit).1.map (List.map (Message.map f)),
        (q.read now vt limit).2.mapPayloads f) := by
  unfold read
  cases now.addSeconds? vt with
  | none => rfl
  | some hidden =>
      simp only [deliverUntil_replaced]
      rcases q.deliverUntil now hidden limit.toNat with ⟨_ | ms, after⟩ <;> rfl

theorem pop_replaced :
    (q.mapPayloads f).pop now =
      ((q.pop now).1.map (Message.map f), (q.pop now).2.mapPayloads f) := by
  -- the search looks at nothing but the visibility of each message
  have hfind : ((q.mapPayloads f).live.entries.find? fun e => decide (e.2.visibleAt ≤ now)) =
      (q.live.entries.find? fun e => decide (e.2.visibleAt ≤ now)).map
        fun e => (e.1, e.2.mapPayload f) := List.find?_map
  unfold pop
  rw [hfind]
  cases q.live.entries.find? fun e => decide (e.2.visibleAt ≤ now) with
  | none => rfl
  | some e => simp [mapPayloads, SortedMap.mapValues_erase]

theorem setVisibility_replaced (id vt : Int) :
    (q.mapPayloads f).setVisibility now id vt =
      ((q.setVisibility now id vt).1.map (Option.map (Message.map f)),
        (q.setVisibility now id vt).2.mapPayloads f) := by
  unfold setVisibility
  rw [get?_live_mapPayloads]
  cases q.live.get? id with
  | none => rfl
  | some m =>
      cases now.addSeconds? vt with
      | none => rfl
      | some hidden => simp [mapPayloads, SortedMap.mapValues_insert, Except.map]

theorem delete_replaced (id : Int) :
    (q.mapPayloads f).delete id = ((q.delete id).1, (q.delete id).2.mapPayloads f) := by
  unfold delete
  rw [get?_live_mapPayloads]
  cases q.live.get? id with
  | none => rfl
  | some m => simp [mapPayloads, SortedMap.mapValues_erase]

theorem archive_replaced (id : Int) :
    (q.mapPayloads f).archive id = ((q.archive id).1, (q.archive id).2.mapPayloads f) := by
  unfold archive
  rw [get?_live_mapPayloads]
  cases q.live.get? id with
  | none => rfl
  | some m => simp [mapPayloads, SortedMap.mapValues_erase, SortedMap.mapValues_insert]

theorem metrics_replaced (name : String) :
    (q.mapPayloads f).metrics name now = q.metrics name now := by
  have hsent : (q.mapPayloads f).live.values.map StoredMessage.enqueuedAt =
      q.live.values.map StoredMessage.enqueuedAt := by
    simp [mapPayloads, SortedMap.mapValues, SortedMap.values]
  rw [metrics, metrics, hsent]
  simp [mapPayloads]

end Queue

/-! ## Stores -/

namespace Memory

/-- The queues with the payloads of all their messages replaced. -/
def mapQueues (f : Json → Json) (queues : SortedMap String Queue) : SortedMap String Queue :=
  queues.mapValues fun _ q => q.mapPayloads f

/-- The store with the payloads of all its messages replaced. -/
def mapPayloads (f : Json → Json) (m : Memory) : Memory :=
  { m with queues := mapQueues f m.queues }

variable (queues : SortedMap String Queue) (now : Instant)

theorem createQueue_replaced (name : QueueName) :
    createQueue (mapQueues f queues) now name =
      ((createQueue queues now name).1, mapQueues f (createQueue queues now name).2) := by
  unfold createQueue mapQueues
  rw [SortedMap.contains_mapValues]
  split
  · rfl
  · simp [SortedMap.mapValues_insert]

/-- When the steps of a queue and of that queue with replaced payloads go together, so do the steps
of the queues. -/
theorem onQueue_replaced {α β : Type} {g : α → β} (name : QueueName)
    {step : Queue → Except Failure α × Queue} {step' : Queue → Except Failure β × Queue}
    (h : ∀ q : Queue, step' (q.mapPayloads f) = ((step q).1.map g, (step q).2.mapPayloads f)) :
    onQueue (mapQueues f queues) name step' =
      ((onQueue queues name step).1.map g, mapQueues f (onQueue queues name step).2) := by
  unfold onQueue mapQueues
  rw [SortedMap.mapValues_adjust queues _ h]
  rcases queues.adjust name.text step with ⟨_ | r, after⟩
  · rfl
  · rfl

theorem answer_replaced (r : Request) :
    answer (mapQueues f queues) now (r.mapPayload f) =
      ((answer queues now r).1.map (r.mapReply f), mapQueues f (answer queues now r).2) := by
  cases r with
  | create name | createPartitioned name =>
      refine (createQueue_replaced queues now name).trans ?_
      simp only [answer]
      cases (createQueue queues now name).1 <;> rfl
  | send name payload =>
      exact onQueue_replaced queues name fun q => congrArg succeed (q.send_replaced now payload)
  | read name vt limit => exact onQueue_replaced queues name fun q => q.read_replaced now vt limit
  | pop name => exact onQueue_replaced queues name fun q => congrArg succeed (q.pop_replaced now)
  | setVisibility name id vt =>
      exact onQueue_replaced queues name fun q => q.setVisibility_replaced now id vt
  | delete name id =>
      exact onQueue_replaced queues name fun q => congrArg succeed (q.delete_replaced id)
  | archive name id =>
      exact onQueue_replaced queues name fun q => congrArg succeed (q.archive_replaced id)
  | drop name =>
      simp only [Request.mapPayload, answer, mapQueues, SortedMap.contains_mapValues,
        SortedMap.mapValues_erase]
      rfl
  | list =>
      have hlisting : (mapQueues f queues).entries.map (fun e => QueueMeta.mk e.1 e.2.createdAt) =
          queues.entries.map fun e => QueueMeta.mk e.1 e.2.createdAt := by
        simp [mapQueues, SortedMap.mapValues, Queue.mapPayloads]
      simp only [Request.mapPayload, answer, hlisting]
      rfl
  | metrics name =>
      exact onQueue_replaced queues name fun q => by
        rw [q.metrics_replaced]
        rfl

/-- A request of a store with replaced payloads. -/
theorem perform_replaced (r : Request) (m : Memory) :
    perform (r.mapPayload f) (m.mapPayloads f) =
      ((perform r m).1.map (r.mapReply f), (perform r m).2.mapPayloads f) := by
  rcases m with ⟨queues, now, offline, calls⟩
  cases offline with
  | true => rfl
  | false =>
      have hanswer := answer_replaced (f := f) queues now r
      simp only [perform, mapPayloads, Bool.false_eq_true, if_false, hanswer]

/-- The store in memory is blind to payloads. -/
theorem blind (f : Json → Json) : Blind f (mapPayloads f) store :=
  fun r => .onStore (perform_replaced r)

theorem advance_replaced (m : Memory) (nanoseconds : Int) :
    (m.mapPayloads f).advance nanoseconds = (m.advance nanoseconds).map (mapPayloads f) := by
  simp [advance, mapPayloads, Function.comp_def]

theorem archivedIds_replaced (m : Memory) (queue : String) :
    (m.mapPayloads f).archivedIds queue = m.archivedIds queue := by
  simp only [archivedIds, mapPayloads, mapQueues, SortedMap.get?_mapValues]
  cases m.queues.get? queue with
  | none => rfl
  | some q => simp [Queue.mapPayloads]

end Memory
end Store
end MessageQueue
