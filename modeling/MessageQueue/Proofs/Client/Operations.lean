import MessageQueue.Proofs.Client.Acts

/-!
# Operations of a client

Every operation of a client is refused by one of its checks or carried out by a plan.  The
checks come in a fixed order, and the first one with a fault decides; a refused operation
reports that fault and touches nothing.  A plan is one request to the store, what is concluded
from the reply, and what is logged with it: an error of the store is handed on as it is, and
nothing is asked a second time.

All this holds for every store, so also for one that keeps a list of the requests made of it.

Main results:

- Theorem `Operation.run_refused`: a refused operation does nothing but report its fault.
- Theorem `Operation.run_planned`: a planned operation makes the request of its plan and
  concludes from the reply.
- Theorem `Operation.one_round_trip`: every operation is refused without a request or carried
  out with exactly one.
-/

namespace MessageQueue

/-- The same store with a list of the requests made of it. -/
def Store.listed {σ : Type} (store : Store σ) : Store (σ × List Request) := fun r =>
  Session.noted (fun _ => r) (store r)

namespace Client

variable {σ α β : Type}

/-! ## Operations -/

/-- What a client can be asked to do. -/
inductive Operation where
  | create (queue : String)
  | createPartitioned (queue : String) (interval : Int)
  | createWith (queue : String) (options : QueueOptions)
  | send (queue : String) (payload : Json.Datum)
  | sendDelayed (queue : String) (payload : Json.Datum) (seconds : Nat)
  | read (queue : String) (vt : Option Int)
  | readBatch (queue : String) (vt : Option Int) (limit : Int)
  | pop (queue : String)
  | setVisibility (queue : String) (id vt : Int)
  | archive (queue : String) (id : Int)
  | delete (queue : String) (id : Int)
  | drop (queue : String)
  | list
  | metrics (queue : String)

namespace Operation

/-- What an operation gives, for payloads of some type. -/
abbrev Result (α : Type) : Operation → Type
  | create _ | createPartitioned _ _ | createWith _ _ | archive _ _ | delete _ _ | drop _ => Unit
  | send _ _ | sendDelayed _ _ _ => Int
  | read _ _ | pop _ => Option (Message α)
  | readBatch _ _ _ => List (Message α)
  | setVisibility _ _ _ => Message α
  | list => List QueueMeta
  | metrics _ => QueueMetrics

/-- Lets a client carry out an operation. -/
def run (c : Client σ) (d : Message.Decoder α) : (o : Operation) → Session σ Failure (o.Result α)
  | create queue => c.create queue
  | createPartitioned queue interval => c.createPartitioned queue interval
  | createWith queue options => c.createWith queue options
  | send queue payload => c.send queue payload
  | sendDelayed queue payload seconds => c.sendDelayed queue payload seconds
  | read queue vt => c.read d queue vt
  | readBatch queue vt limit => c.readBatch d queue vt limit
  | pop queue => c.pop d queue
  | setVisibility queue id vt => c.setVisibility d queue id vt
  | archive queue id => c.archive queue id
  | delete queue id => c.delete queue id
  | drop queue => c.drop queue
  | list => c.list
  | metrics queue => c.metrics queue

/-! ## Refusals -/

/-- A fault if a condition holds. -/
def faultIf (condition : Prop) [Decidable condition] (e : QueueError) : Option QueueError :=
  if condition then some e else none

/-- The fault of a text that is no queue name. -/
def nameFault (queue : String) : Option QueueError :=
  match QueueName.ofString queue with
  | .ok _ => none
  | .error e => some (.validation e.message)

/-- The fault of a negative visibility timeout. -/
def visibilityFault (vt : Int) : Option QueueError :=
  faultIf (vt < 0) (.validation s!"Visibility timeout must be non-negative: {vt}")

/-- The fault of a payload that has no JSON value. -/
def payloadFault (payload : Json.Datum) : Option QueueError :=
  match payload.toJson with
  | .ok _ => none
  | .error e => some (.serialization (.unwritable e))

/-- The faults of intervals that are not positive, the partition interval first. -/
def intervalFaults (o : QueueOptions) : List (Option QueueError) :=
  [faultIf (o.partitionInterval ≤ 0)
      (.validation s!"Partition interval must be positive: {o.partitionInterval}"),
    faultIf (o.retentionInterval ≤ 0)
      (.validation s!"Retention interval must be positive: {o.retentionInterval}")]

/-- What is checked before an operation, in this order, with the faults that are found. -/
def faults (defaultVisibility : Int) : Operation → List (Option QueueError)
  | create queue => [nameFault queue]
  | createPartitioned queue interval =>
    nameFault queue :: intervalFaults (.ofPartitions interval)
  | createWith queue options =>
    nameFault queue :: if options.partitioned then intervalFaults options else []
  | send queue payload => [nameFault queue, payloadFault payload]
  | sendDelayed queue payload seconds =>
    [faultIf (0 < seconds)
        (.notSupported s!"send with delay ({seconds}s) is not implemented by pgmq"),
      nameFault queue, payloadFault payload]
  | read queue vt => [nameFault queue, visibilityFault (vt.getD defaultVisibility)]
  | readBatch queue vt limit =>
    [nameFault queue, visibilityFault (vt.getD defaultVisibility),
      faultIf (limit < 1) (.validation s!"Read limit must be at least 1: {limit}")]
  | setVisibility queue _ vt => [nameFault queue, visibilityFault vt]
  | pop queue | archive queue _ | delete queue _ | drop queue | metrics queue => [nameFault queue]
  | list => []

/-- The first fault that the checks find. -/
def refusal (defaultVisibility : Int) (o : Operation) : Option QueueError :=
  (o.faults defaultVisibility).findSome? id

/-! ## Plans -/

/-- One request, what is concluded from the reply to it, and what is logged with the reply. -/
structure Plan (β : Type) where
  request : Request
  conclude : request.Reply → Except QueueError β
  event : request.Reply → Option Event

/-- What a plan comes to once its request was answered. -/
def Plan.finish (plan : Plan β) :
    Except Failure plan.request.Reply × World σ → Except Failure β × World σ
  | (.error f, w) => (.error f, w)
  | (.ok reply, w) =>
    ((plan.conclude reply).mapError .reported,
      { w with events := w.events ++ (plan.event reply).toList })

/-- A decoded payload, or the error that it does not decode. -/
def decoded (r : Except Json.ReadError β) : Except QueueError β :=
  r.mapError fun e => .serialization (.unreadable e)

/-- The event of a new queue. -/
def createdEvent (name : QueueName) (partitioned : Bool) : Event :=
  .info "Queue created" [("queue", .text name.text), ("partitioned", .flag partitioned)]

/-- The event of a sent message. -/
def sentEvent (name : QueueName) (id : Int) : Event :=
  .debug "Message sent" [("queue", .text name.text), ("msg_id", .integer id)]

/-- The event of a batch that was read. -/
def readEvent (name : QueueName) (vt limit : Int) (rows : List (Message Json)) : Event :=
  .debug "Read batch" [("queue", .text name.text), ("vt", .integer vt),
    ("limit", .integer limit), ("returned", .integer rows.length)]

/-- The event of a message that was archived or deleted. -/
def goneEvent (what : String) (name : QueueName) (id : Int) : Event :=
  .debug what [("queue", .text name.text), ("msg_id", .integer id)]

/-- The plan of an operation that passes its checks, request by request. -/
inductive Plans (defaultVisibility : Int) (d : Message.Decoder α) :
    (o : Operation) → Plan (o.Result α) → Prop where
  | create (name : QueueName) :
      Plans defaultVisibility d (.create name.text)
        ⟨.create name, fun _ => .ok (), fun _ => some (createdEvent name false)⟩
  | createPartitioned (name : QueueName) (interval : Int) :
      Plans defaultVisibility d (.createPartitioned name.text interval)
        ⟨.createPartitioned name interval QueueOptions.defaultRetentionInterval,
          fun _ => .ok (), fun _ => some (createdEvent name true)⟩
  | createPlain (name : QueueName) {options : QueueOptions} (h : options.partitioned = false) :
      Plans defaultVisibility d (.createWith name.text options)
        ⟨.create name, fun _ => .ok (), fun _ => some (createdEvent name false)⟩
  | createInPartitions (name : QueueName) {options : QueueOptions}
      (h : options.partitioned = true) :
      Plans defaultVisibility d (.createWith name.text options)
        ⟨.createPartitioned name options.partitionInterval options.retentionInterval,
          fun _ => .ok (), fun _ => some (createdEvent name true)⟩
  | send (name : QueueName) {payload : Json.Datum} {value : Json}
      (h : payload.toJson = .ok value) :
      Plans defaultVisibility d (.send name.text payload)
        ⟨.send name value, .ok, fun id => some (sentEvent name id)⟩
  | sendDelayed (name : QueueName) {payload : Json.Datum} {value : Json}
      (h : payload.toJson = .ok value) :
      Plans defaultVisibility d (.sendDelayed name.text payload 0)
        ⟨.send name value, .ok, fun id => some (sentEvent name id)⟩
  | read (name : QueueName) (vt : Option Int) :
      Plans defaultVisibility d (.read name.text vt)
        ⟨.read name (vt.getD defaultVisibility) 1,
          fun rows => decoded ((rows.mapM (Message.decode d)).map List.getLast?),
          fun rows => some (readEvent name (vt.getD defaultVisibility) 1 rows)⟩
  | readBatch (name : QueueName) (vt : Option Int) (limit : Int) :
      Plans defaultVisibility d (.readBatch name.text vt limit)
        ⟨.read name (vt.getD defaultVisibility) limit,
          fun rows => decoded (rows.mapM (Message.decode d)),
          fun rows => some (readEvent name (vt.getD defaultVisibility) limit rows)⟩
  | pop (name : QueueName) :
      Plans defaultVisibility d (.pop name.text)
        ⟨.pop name,
          fun row? => row?.elim (.ok none) fun m => decoded ((Message.decode d m).map some),
          fun _ => none⟩
  | setVisibility (name : QueueName) (id vt : Int) :
      Plans defaultVisibility d (.setVisibility name.text id vt)
        ⟨.setVisibility name id vt,
          fun row? => row?.elim (.error (.messageNotFound name.text id)) fun m =>
            decoded (Message.decode d m),
          fun _ => none⟩
  | archive (name : QueueName) (id : Int) :
      Plans defaultVisibility d (.archive name.text id)
        ⟨.archive name id,
          fun found => if found then .ok () else .error (.messageNotFound name.text id),
          fun found => if found then some (goneEvent "Message archived" name id) else none⟩
  | delete (name : QueueName) (id : Int) :
      Plans defaultVisibility d (.delete name.text id)
        ⟨.delete name id,
          fun found => if found then .ok () else .error (.messageNotFound name.text id),
          fun found => if found then some (goneEvent "Message deleted" name id) else none⟩
  | drop (name : QueueName) :
      Plans defaultVisibility d (.drop name.text)
        ⟨.drop name, fun found => if found then .ok () else .error (.queueNotFound name.text),
          fun found =>
            if found then some (.info "Queue dropped" [("queue", .text name.text)]) else none⟩
  | list : Plans defaultVisibility d .list ⟨.list, .ok, fun _ => none⟩
  | metrics (name : QueueName) :
      Plans defaultVisibility d (.metrics name.text) ⟨.metrics name, .ok, fun _ => none⟩

/-! ## Checks and faults -/

/-- A fault has a condition that holds. -/
theorem faultIf_eq_some_iff {condition : Prop} [Decidable condition] {e e' : QueueError} :
    faultIf condition e = some e' ↔ condition ∧ e = e' := by
  unfold faultIf
  split <;> simp_all

/-- Without fault the condition does not hold. -/
theorem faultIf_eq_none_iff {condition : Prop} [Decidable condition] {e : QueueError} :
    faultIf condition e = none ↔ ¬ condition := by
  unfold faultIf
  split <;> simp_all

/-- A text without fault is the text of a name. -/
theorem exists_name_of_nameFault {queue : String} (h : nameFault queue = none) :
    ∃ name : QueueName, queue = name.text := by
  unfold nameFault at h
  split at h
  · rename_i name hname
    exact ⟨name, (QueueName.ofString_eq_ok_iff.1 hname).symm⟩
  · cases h

/-- The check of names reports the fault of a text. -/
theorem checkName_of_nameFault {queue : String} {e : QueueError} (h : nameFault queue = some e) :
    checkName queue = .error e := by
  unfold nameFault at h
  split at h
  · cases h
  · rename_i e' hname
    cases h
    rw [checkName, hname]
    rfl

/-- The check of visibility timeouts passes what has no fault. -/
theorem checkVisibility_of_none {vt : Int} (h : visibilityFault vt = none) :
    checkVisibility vt = .ok () := by
  have hvt := faultIf_eq_none_iff.1 h
  exact checkVisibility_eq_ok_iff.2 (by omega)

/-- The check of visibility timeouts reports the fault. -/
theorem checkVisibility_of_some {vt : Int} {e : QueueError} (h : visibilityFault vt = some e) :
    checkVisibility vt = .error e := by
  obtain ⟨hvt, rfl⟩ := faultIf_eq_some_iff.1 h
  exact if_pos hvt

/-- The check of payloads reports the fault. -/
theorem checkPayload_of_some {payload : Json.Datum} {e : QueueError}
    (h : payloadFault payload = some e) : checkPayload payload = .error e := by
  unfold payloadFault at h
  split at h
  · cases h
  · rename_i e' hpayload
    cases h
    rw [checkPayload, hpayload]
    rfl

/-- A payload without fault has a JSON value. -/
theorem exists_value_of_payloadFault {payload : Json.Datum} (h : payloadFault payload = none) :
    ∃ value, payload.toJson = .ok value := by
  unfold payloadFault at h
  split at h
  · exact ⟨_, ‹_›⟩
  · cases h

/-- The check of options reports the first fault of their intervals. -/
theorem checkOptions_eq (options : QueueOptions) :
    checkOptions options =
      match (intervalFaults options).findSome? id with
      | some e => .error e
      | none => .ok () := by
  unfold checkOptions QueueOptions.check intervalFaults faultIf
  split
  · rfl
  · split
    · rfl
    · rfl

/-! ## Refused operations -/

variable {c : Client σ} {d : Message.Decoder α} {w : World σ} {e : QueueError}

/-- A check of a name that fails is the end of a session. -/
theorem run_checkName_bind {queue : String} (f : QueueName → Session σ Failure β)
    (h : nameFault queue = some e) :
    (require (checkName queue) >>= f) w = (.error (.reported e), w) := by
  simp [checkName_of_nameFault h]

/-- The first of some faults is the first of all, or the rest has it. -/
theorem findSome?_cons_eq_some {fault : Option QueueError} {rest : List (Option QueueError)} :
    (fault :: rest).findSome? id = some e ↔
      fault = some e ∨ fault = none ∧ rest.findSome? id = some e := by
  cases fault <;> simp

/-- Faults are without fault one by one. -/
theorem findSome?_cons_eq_none {fault : Option QueueError} {rest : List (Option QueueError)} :
    (fault :: rest).findSome? id = none ↔ fault = none ∧ rest.findSome? id = none := by
  cases fault <;> simp

/-- The fault of a name that is checked alone. -/
theorem nameFault_of_singleton {queue : String} (h : [nameFault queue].findSome? id = some e) :
    nameFault queue = some e := by
  simpa [findSome?_cons_eq_some] using h

/-- Refused options end the creation of a queue. -/
theorem run_createWith_refused {queue : String} {options : QueueOptions}
    (h : (createWith queue options).refusal c.defaultVisibility = some e) :
    c.createWith queue options w = (.error (.reported e), w) := by
  rcases findSome?_cons_eq_some.1 h with hname | ⟨hname, hrest⟩
  · exact run_checkName_bind _ hname
  · obtain ⟨name, rfl⟩ := exists_name_of_nameFault hname
    split at hrest
    · rename_i hpartitioned
      simp [Client.createWith, hpartitioned, checkOptions_eq, hrest]
    · cases hrest

/-- A refused payload ends the sending of it. -/
theorem run_send_refused {queue : String} {payload : Json.Datum}
    (h : (send queue payload).refusal c.defaultVisibility = some e) :
    c.send queue payload w = (.error (.reported e), w) := by
  rcases findSome?_cons_eq_some.1 h with hname | ⟨hname, hrest⟩
  · exact run_checkName_bind _ hname
  · obtain ⟨name, rfl⟩ := exists_name_of_nameFault hname
    have hpayload : payloadFault payload = some e := by
      simpa [findSome?_cons_eq_some] using hrest
    simp [Client.send, checkPayload_of_some hpayload]

/-- Refused arguments end the reading of a batch. -/
theorem run_readBatch_refused {queue : String} {vt : Option Int} {limit : Int}
    (h : (readBatch queue vt limit).refusal c.defaultVisibility = some e) :
    c.readBatch d queue vt limit w = (.error (.reported e), w) := by
  rcases findSome?_cons_eq_some.1 h with hname | ⟨hname, hrest⟩
  · exact run_checkName_bind _ hname
  · obtain ⟨name, rfl⟩ := exists_name_of_nameFault hname
    rcases findSome?_cons_eq_some.1 hrest with hvt | ⟨hvt, hrest⟩
    · simp [Client.readBatch, checkVisibility_of_some hvt]
    · obtain ⟨hlimit, rfl⟩ : limit < 1 ∧ _ = e := by
        simpa [findSome?_cons_eq_some, faultIf_eq_some_iff] using hrest
      simp [Client.readBatch, checkVisibility_of_none hvt, checkLimit, hlimit]

/-- A refused operation does nothing but report its first fault. -/
theorem run_refused {o : Operation} (h : o.refusal c.defaultVisibility = some e) :
    o.run c d w = (.error (.reported e), w) := by
  cases o with
  | create queue => exact run_createWith_refused h
  | createPartitioned queue interval => exact run_createWith_refused h
  | createWith queue options => exact run_createWith_refused h
  | send queue payload => exact run_send_refused h
  | sendDelayed queue payload seconds =>
      rcases findSome?_cons_eq_some.1 h with hdelay | ⟨hdelay, hrest⟩
      · obtain ⟨hseconds, rfl⟩ := faultIf_eq_some_iff.1 hdelay
        simp [run, Client.sendDelayed, checkDelay, hseconds]
      · have hseconds := faultIf_eq_none_iff.1 hdelay
        simpa [run, Client.sendDelayed, checkDelay, hseconds] using run_send_refused hrest
  | read queue vt =>
      have hbatch : (readBatch queue vt defaultReadLimit).refusal c.defaultVisibility = some e := by
        simpa [refusal, faults, findSome?_cons_eq_some, faultIf, defaultReadLimit] using h
      simp [run, Client.read, run_readBatch_refused hbatch]
  | readBatch queue vt limit => exact run_readBatch_refused h
  | setVisibility queue id vt =>
      rcases findSome?_cons_eq_some.1 h with hname | ⟨hname, hrest⟩
      · exact run_checkName_bind _ hname
      · obtain ⟨name, rfl⟩ := exists_name_of_nameFault hname
        have hvt : visibilityFault vt = some e := by
          simpa [findSome?_cons_eq_some] using hrest
        simp [run, Client.setVisibility, checkVisibility_of_some hvt]
  | pop queue => exact run_checkName_bind _ (nameFault_of_singleton h)
  | archive queue id => exact run_checkName_bind _ (nameFault_of_singleton h)
  | delete queue id => exact run_checkName_bind _ (nameFault_of_singleton h)
  | drop queue => exact run_checkName_bind _ (nameFault_of_singleton h)
  | metrics queue => exact run_checkName_bind _ (nameFault_of_singleton h)
  | list => cases h

/-! ## Planned operations -/

/-- A batch is decoded message by message up to the first that does not decode. -/
theorem decodeAll_eq_mapM (rows : List (Message Json)) :
    decodeAll d rows = rows.mapM (Message.decode d) := by
  induction rows with
  | nil => rfl
  | cons m rest ih => rw [decodeAll, ih, List.mapM_cons]

/-- What does not decode is reported with its error. -/
@[simp]
theorem run_requireDecoded (r : Except Json.ReadError β) :
    (requireDecoded r : Session σ Failure β) w = ((decoded r).mapError .reported, w) := rfl

variable (d) in
/-- Every operation without fault has a plan. -/
theorem exists_plan {v : Int} {o : Operation} (h : o.refusal v = none) :
    ∃ plan, Plans v d o plan := by
  cases o with
  | create queue =>
      obtain ⟨name, rfl⟩ := exists_name_of_nameFault (findSome?_cons_eq_none.1 h).1
      exact ⟨_, .create name⟩
  | createPartitioned queue interval =>
      obtain ⟨name, rfl⟩ := exists_name_of_nameFault (findSome?_cons_eq_none.1 h).1
      exact ⟨_, .createPartitioned name interval⟩
  | createWith queue options =>
      obtain ⟨name, rfl⟩ := exists_name_of_nameFault (findSome?_cons_eq_none.1 h).1
      cases hpartitioned : options.partitioned with
      | false => exact ⟨_, .createPlain name hpartitioned⟩
      | true => exact ⟨_, .createInPartitions name hpartitioned⟩
  | send queue payload =>
      obtain ⟨hname, hrest⟩ := findSome?_cons_eq_none.1 h
      obtain ⟨name, rfl⟩ := exists_name_of_nameFault hname
      obtain ⟨value, hvalue⟩ := exists_value_of_payloadFault (findSome?_cons_eq_none.1 hrest).1
      exact ⟨_, .send name hvalue⟩
  | sendDelayed queue payload seconds =>
      obtain ⟨hdelay, hrest⟩ := findSome?_cons_eq_none.1 h
      obtain ⟨hname, hrest⟩ := findSome?_cons_eq_none.1 hrest
      obtain ⟨hpayload, -⟩ := findSome?_cons_eq_none.1 hrest
      obtain ⟨name, rfl⟩ := exists_name_of_nameFault hname
      obtain ⟨value, hvalue⟩ := exists_value_of_payloadFault hpayload
      obtain rfl : seconds = 0 := Nat.eq_zero_of_not_pos (faultIf_eq_none_iff.1 hdelay)
      exact ⟨_, .sendDelayed name hvalue⟩
  | read queue vt =>
      obtain ⟨name, rfl⟩ := exists_name_of_nameFault (findSome?_cons_eq_none.1 h).1
      exact ⟨_, .read name vt⟩
  | readBatch queue vt limit =>
      obtain ⟨name, rfl⟩ := exists_name_of_nameFault (findSome?_cons_eq_none.1 h).1
      exact ⟨_, .readBatch name vt limit⟩
  | pop queue =>
      obtain ⟨name, rfl⟩ := exists_name_of_nameFault (findSome?_cons_eq_none.1 h).1
      exact ⟨_, .pop name⟩
  | setVisibility queue id vt =>
      obtain ⟨name, rfl⟩ := exists_name_of_nameFault (findSome?_cons_eq_none.1 h).1
      exact ⟨_, .setVisibility name id vt⟩
  | archive queue id =>
      obtain ⟨name, rfl⟩ := exists_name_of_nameFault (findSome?_cons_eq_none.1 h).1
      exact ⟨_, .archive name id⟩
  | delete queue id =>
      obtain ⟨name, rfl⟩ := exists_name_of_nameFault (findSome?_cons_eq_none.1 h).1
      exact ⟨_, .delete name id⟩
  | drop queue =>
      obtain ⟨name, rfl⟩ := exists_name_of_nameFault (findSome?_cons_eq_none.1 h).1
      exact ⟨_, .drop name⟩
  | list => exact ⟨_, .list⟩
  | metrics queue =>
      obtain ⟨name, rfl⟩ := exists_name_of_nameFault (findSome?_cons_eq_none.1 h).1
      exact ⟨_, .metrics name⟩

/-- A plain queue is created by one request. -/
theorem run_createWith_plain {name : QueueName} {options : QueueOptions}
    (h : options.partitioned = false) :
    c.createWith name.text options w =
      Plan.finish ⟨.create name, fun _ => .ok (), fun _ => some (createdEvent name false)⟩
        (c.store (.create name) w) := by
  rcases hreply : c.store (.create name) w with ⟨_ | _, w'⟩ <;>
    simp [Client.createWith, h, hreply, Plan.finish, createdEvent]

/-- A queue in partitions is created by one request, if its intervals are without fault. -/
theorem run_createWith_partitioned {name : QueueName} {options : QueueOptions}
    (h : options.partitioned = true) (hfaults : (intervalFaults options).findSome? id = none) :
    c.createWith name.text options w =
      Plan.finish
        ⟨.createPartitioned name options.partitionInterval options.retentionInterval,
          fun _ => .ok (), fun _ => some (createdEvent name true)⟩
        (c.store (.createPartitioned name options.partitionInterval options.retentionInterval)
          w) := by
  have hcheck : checkOptions options = .ok () := by rw [checkOptions_eq, hfaults]
  rcases hreply : c.store
    (.createPartitioned name options.partitionInterval options.retentionInterval) w with
    ⟨_ | _, w'⟩ <;>
    simp [Client.createWith, h, hcheck, hreply, Plan.finish, createdEvent]

/-- A payload is sent by one request. -/
theorem run_send_value {name : QueueName} {payload : Json.Datum} {value : Json}
    (h : payload.toJson = .ok value) :
    c.send name.text payload w =
      Plan.finish ⟨.send name value, .ok, fun id => some (sentEvent name id)⟩
        (c.store (.send name value) w) := by
  have hcheck : checkPayload payload = .ok value := by
    rw [checkPayload, h]
    rfl
  rcases hreply : c.store (.send name value) w with ⟨_ | id, w'⟩ <;>
    simp [Client.send, hcheck, hreply, Plan.finish, sentEvent]

/-- A batch is read by one request. -/
theorem run_readBatch_batch (name : QueueName) {vt : Option Int} {limit : Int}
    (hvt : visibilityFault (vt.getD c.defaultVisibility) = none) (hlimit : 1 ≤ limit) :
    c.readBatch d name.text vt limit w =
      Plan.finish
        ⟨.read name (vt.getD c.defaultVisibility) limit,
          fun rows => decoded (rows.mapM (Message.decode d)),
          fun rows => some (readEvent name (vt.getD c.defaultVisibility) limit rows)⟩
        (c.store (.read name (vt.getD c.defaultVisibility) limit) w) := by
  have hcheck : checkLimit limit = .ok () := if_neg (by omega)
  rcases hreply : c.store (.read name (vt.getD c.defaultVisibility) limit) w with
    ⟨_ | rows, w'⟩ <;>
    simp [Client.readBatch, checkVisibility_of_none hvt, hcheck, hreply, Plan.finish,
      decodeAll_eq_mapM, readEvent]

/-- A planned operation makes the request of its plan and concludes from the reply. -/
theorem run_planned {o : Operation} {plan : Plan (o.Result α)}
    (hplan : Plans c.defaultVisibility d o plan) (h : o.refusal c.defaultVisibility = none) :
    o.run c d w = plan.finish (c.store plan.request w) := by
  cases hplan with
  | create name => exact run_createWith_plain rfl
  | createPartitioned name interval =>
      exact run_createWith_partitioned rfl (findSome?_cons_eq_none.1 h).2
  | createPlain name hpartitioned => exact run_createWith_plain hpartitioned
  | createInPartitions name hpartitioned =>
      refine run_createWith_partitioned hpartitioned ?_
      simpa [hpartitioned] using (findSome?_cons_eq_none.1 h).2
  | send name hvalue => exact run_send_value hvalue
  | sendDelayed name hvalue => exact run_send_value hvalue
  | read name vt =>
      obtain ⟨-, hrest⟩ := findSome?_cons_eq_none.1 h
      have hbatch := run_readBatch_batch (d := d) (w := w) name
        (findSome?_cons_eq_none.1 hrest).1 (Int.le_refl 1)
      rcases hreply : c.store (.read name (vt.getD c.defaultVisibility) 1) w with ⟨_ | rows, w'⟩
      · simp [run, Client.read, defaultReadLimit, hbatch, hreply, Plan.finish]
      · cases hrows : rows.mapM (Message.decode d) <;>
          simp [run, Client.read, defaultReadLimit, hbatch, hreply, Plan.finish, hrows, decoded,
            Except.map]
  | readBatch name vt limit =>
      obtain ⟨-, hrest⟩ := findSome?_cons_eq_none.1 h
      obtain ⟨hvt, hrest⟩ := findSome?_cons_eq_none.1 hrest
      have hlimit := faultIf_eq_none_iff.1 (findSome?_cons_eq_none.1 hrest).1
      exact run_readBatch_batch name hvt (by omega)
  | pop name =>
      rcases hreply : c.store (.pop name) w with ⟨_ | _ | row, w'⟩
      · simp [run, Client.pop, hreply, Plan.finish]
      · simp [run, Client.pop, hreply, Plan.finish]
      · cases hrow : row.decode d <;>
          simp [run, Client.pop, hreply, Plan.finish, hrow, decoded, Except.map]
  | setVisibility name id vt =>
      obtain ⟨-, hrest⟩ := findSome?_cons_eq_none.1 h
      have hvt := checkVisibility_of_none (findSome?_cons_eq_none.1 hrest).1
      rcases hreply : c.store (.setVisibility name id vt) w with ⟨_ | _ | row, w'⟩ <;>
        simp [run, Client.setVisibility, hvt, hreply, Plan.finish]
  | archive name id =>
      rcases hreply : c.store (.archive name id) w with ⟨_ | _ | _, w'⟩ <;>
        simp [run, Client.archive, hreply, Plan.finish, goneEvent]
  | delete name id =>
      rcases hreply : c.store (.delete name id) w with ⟨_ | _ | _, w'⟩ <;>
        simp [run, Client.delete, hreply, Plan.finish, goneEvent]
  | drop name =>
      rcases hreply : c.store (.drop name) w with ⟨_ | _ | _, w'⟩ <;>
        simp [run, Client.drop, hreply, Plan.finish]
  | list =>
      rcases hreply : c.store .list w with ⟨_ | _, w'⟩ <;>
        simp [run, Client.list, hreply, Plan.finish]
  | metrics name =>
      rcases hreply : c.store (.metrics name) w with ⟨_ | _, w'⟩ <;>
        simp [run, Client.metrics, hreply, Plan.finish]

/-- What a plan comes to leaves the store as the answer to its request did. -/
theorem Plan.finish_store (plan : Plan β) (answer : Except Failure plan.request.Reply × World σ) :
    (plan.finish answer).2.store = answer.2.store := by
  rcases answer with ⟨_ | _, _⟩ <;> rfl

/-- A planned operation leaves the store as its request does. -/
theorem run_planned_store {o : Operation} {plan : Plan (o.Result α)}
    (hplan : Plans c.defaultVisibility d o plan) (h : o.refusal c.defaultVisibility = none)
    (w : World σ) : (o.run c d w).2.store = (c.store plan.request w).2.store := by
  rw [run_planned hplan h, Plan.finish_store]

/-! ## Requests -/

/-- The requests that an operation makes of the store. -/
def requests (c : Client σ) (d : Message.Decoder α) (o : Operation) (w : World σ) :
    List Request :=
  (o.run ⟨c.store.listed, c.defaultVisibility⟩ d (w.withNotes [])).2.store.2

/-- A refused operation makes no request. -/
theorem requests_of_refused {o : Operation} (h : o.refusal c.defaultVisibility = some e) :
    o.requests c d w = [] := by
  have hlisted : o.run ⟨c.store.listed, c.defaultVisibility⟩ d (w.withNotes []) =
      (.error (.reported e), w.withNotes []) := run_refused h
  rw [requests, hlisted]
  rfl

/-- A planned operation makes the request of its plan. -/
theorem requests_of_planned {o : Operation} {plan : Plan (o.Result α)}
    (hplan : Plans c.defaultVisibility d o plan) (h : o.refusal c.defaultVisibility = none) :
    o.requests c d w = [plan.request] := by
  rw [requests, run_planned_store (c := ⟨c.store.listed, c.defaultVisibility⟩) hplan h]
  rfl

/-- What a client does for an operation: nothing but report the first fault, or one round trip
to the store according to a plan. -/
structure RoundTrip (c : Client σ) (d : Message.Decoder α) (o : Operation) (w : World σ) :
    Prop where
  refused : ∀ e, o.refusal c.defaultVisibility = some e →
    o.run c d w = (.error (.reported e), w) ∧ o.requests c d w = []
  planned : o.refusal c.defaultVisibility = none →
    ∃ plan, Plans c.defaultVisibility d o plan ∧
      o.run c d w = plan.finish (c.store plan.request w) ∧
      o.requests c d w = [plan.request]
  /-- The client does the same for a store that lists its requests. -/
  listed : o.run ⟨c.store.listed, c.defaultVisibility⟩ d (w.withNotes []) =
    ((o.run c d w).1, (o.run c d w).2.withNotes (o.requests c d w))

/-- A plan finishes the same way beside a list of requests. -/
theorem Plan.finish_withNotes (plan : Plan β)
    (answer : Except Failure plan.request.Reply × World σ) (notes : List Request) :
    plan.finish (answer.1, answer.2.withNotes notes) =
      ((plan.finish answer).1, (plan.finish answer).2.withNotes notes) := by
  rcases answer with ⟨_ | _, _⟩ <;> rfl

/-- Every operation of a client is refused by its first fault, without a request and with the
store and the log as they were, or makes exactly one request and concludes from the reply. -/
theorem one_round_trip (c : Client σ) (d : Message.Decoder α) (o : Operation) (w : World σ) :
    RoundTrip c d o w := by
  let listing : Client (σ × List Request) := ⟨c.store.listed, c.defaultVisibility⟩
  cases hrefusal : o.refusal c.defaultVisibility with
  | some e =>
      have hrun : o.run c d w = (.error (.reported e), w) := run_refused hrefusal
      have hlisted : o.run listing d (w.withNotes []) = (.error (.reported e), w.withNotes []) :=
        run_refused hrefusal
      have hrequests : o.requests c d w = [] := by
        rw [requests, hlisted]
        rfl
      refine ⟨?_, ?_, ?_⟩
      · intro e' he'
        cases hrefusal.symm.trans he'
        exact ⟨hrun, hrequests⟩
      · intro hnone
        cases hrefusal.symm.trans hnone
      · rw [hlisted, hrun, hrequests]
  | none =>
      obtain ⟨plan, hplan⟩ := exists_plan d hrefusal
      have hrun : o.run c d w = plan.finish (c.store plan.request w) := run_planned hplan hrefusal
      have hlisted : o.run listing d (w.withNotes []) =
          ((o.run c d w).1, (o.run c d w).2.withNotes [plan.request]) := by
        rw [hrun, ← Plan.finish_withNotes]
        exact run_planned hplan hrefusal
      have hrequests : o.requests c d w = [plan.request] := by
        rw [requests, hlisted]
        rfl
      refine ⟨?_, ?_, ?_⟩
      · intro e he
        cases hrefusal.symm.trans he
      · intro _
        exact ⟨plan, hplan, hrun, hrequests⟩
      · rw [hlisted, hrequests]

end Operation
end Client
end MessageQueue
