import MessageQueue.Proofs.Client.Operations
import MessageQueue.Proofs.Store.Effects

/-!
# Decoding of payloads

A client decodes payloads after the store has answered.  The type that it decodes them to
therefore has no part in what happens to the store: an operation that fails because a payload
does not decode has still done its work there.  A batch that was read is hidden and counted as
delivered, a change of visibility is in force, and a popped message is gone.

Main results:

- Theorems `readBatch_eq_bind`, `read_eq_bind`, `pop_eq_bind` and `setVisibility_eq_bind`: an
  operation for one type of payloads is one for JSON values with decoding put behind it.
- Theorem `alike_of_handsOut`: an operation gives what it gives for JSON values with the payloads
  decoded, or the error of the first message that does not decode.
- Theorem `payloads_aside`: decoding changes nothing but the result.
-/

namespace MessageQueue

variable {α : Type}

/-! ## Decoded messages -/

/-- A message decodes to one in the same envelope with the decoded payload. -/
structure Message.DecodesTo (d : Message.Decoder α) (m : Message Json) (a : Message α) :
    Prop where
  id : a.id = m.id
  readCount : a.readCount = m.readCount
  enqueuedAt : a.enqueuedAt = m.enqueuedAt
  visibleAt : a.visibleAt = m.visibleAt
  payload : d m.payload = .ok a.payload

namespace Message

variable {d : Decoder α} {m : Message Json}

theorem decodesTo_of_decode {a : Message α} (h : m.decode d = .ok a) : DecodesTo d m a := by
  rw [decode] at h
  cases hpayload : d m.payload with
  | error e =>
      rw [hpayload] at h
      cases h
  | ok payload =>
      rw [hpayload] at h
      cases h
      exact ⟨rfl, rfl, rfl, rfl, hpayload⟩

theorem decode_eq_error_iff {e : Json.ReadError} :
    m.decode d = .error e ↔ d m.payload = .error e := by
  rw [decode]
  cases d m.payload <;> simp [Except.map]

end Message

namespace Client

variable {σ : Type} {d : Message.Decoder α}

/-- A batch that decodes does so message by message, in the same order. -/
theorem forall₂_of_decodeAll {rows : List (Message Json)} {batch : List (Message α)}
    (h : decodeAll d rows = .ok batch) : List.Forall₂ (Message.DecodesTo d) rows batch := by
  induction rows generalizing batch with
  | nil =>
      cases h
      exact .nil
  | cons m rest ih =>
      rw [decodeAll] at h
      cases hm : m.decode d with
      | error e =>
          rw [hm] at h
          cases h
      | ok a =>
          cases hrest : decodeAll d rest with
          | error e =>
              rw [hm, hrest] at h
              cases h
          | ok more =>
              rw [hm, hrest] at h
              cases h
              exact .cons (Message.decodesTo_of_decode hm) (ih hrest)

/-- A batch that does not decode fails with its first message that does not. -/
theorem exists_first_of_decodeAll {rows : List (Message Json)} {e : Json.ReadError}
    (h : decodeAll d rows = .error e) :
    ∃ before m after, rows = before ++ m :: after ∧ d m.payload = .error e ∧
      ∀ m' ∈ before, ∃ payload, d m'.payload = .ok payload := by
  induction rows with
  | nil => cases h
  | cons m rest ih =>
      rw [decodeAll] at h
      cases hm : m.decode d with
      | error e' =>
          rw [hm] at h
          cases h
          exact ⟨[], m, rest, rfl, Message.decode_eq_error_iff.1 hm, by simp⟩
      | ok a =>
          cases hrest : decodeAll d rest with
          | ok more =>
              rw [hm, hrest] at h
              cases h
          | error e' =>
              rw [hm, hrest] at h
              cases h
              rcases ih hrest with ⟨before, m', after, rfl, herror, hbefore⟩
              refine ⟨m :: before, m', after, rfl, herror, ?_⟩
              intro m'' hmem
              rcases List.mem_cons.1 hmem with rfl | hmem
              · exact ⟨a.payload, (Message.decodesTo_of_decode hm).payload⟩
              · exact hbefore m'' hmem

/-! ## Decoding comes last -/

section Bind

variable (c : Client σ) (d : Message.Decoder α) (queue : String)

/-- A batch is read as JSON values and then decoded. -/
theorem readBatch_eq_bind (vt : Option Int) (limit : Int) :
    c.readBatch d queue vt limit =
      c.readBatch Message.anyPayload queue vt limit >>= fun rows =>
        requireDecoded (decodeAll d rows) := by
  simp only [Client.readBatch, bind_assoc, decodeAll_any, requireDecoded_ok, pure_bind]

/-- A message is read in a batch of JSON values that is then decoded. -/
theorem read_eq_bind (vt : Option Int) :
    c.read d queue vt =
      c.readBatch Message.anyPayload queue vt defaultReadLimit >>= fun rows =>
        requireDecoded (decodeAll d rows) >>= fun batch => pure batch.getLast? := by
  rw [Client.read, readBatch_eq_bind, bind_assoc]

/-- A message is popped as a JSON value and then decoded. -/
theorem pop_eq_bind :
    c.pop d queue = c.pop Message.anyPayload queue >>= fun row? =>
      match row? with
      | none => pure none
      | some row => some <$> requireDecoded (row.decode d) := by
  simp only [Client.pop, bind_assoc]
  congr
  funext name
  congr
  funext row?
  cases row? <;> simp

/-- A message is hidden as a JSON value and then decoded. -/
theorem setVisibility_eq_bind (id vt : Int) :
    c.setVisibility d queue id vt =
      c.setVisibility Message.anyPayload queue id vt >>= fun row =>
        requireDecoded (row.decode d) := by
  simp only [Client.setVisibility, bind_assoc]
  congr
  funext name
  congr
  funext _
  congr
  funext row?
  cases row? with
  | none => rfl
  | some row => simp

end Bind

/-! ## Results for different types of payloads -/

/-- The messages in what an operation gives, in their order. -/
def Operation.messages : (o : Operation) → o.Result α → List (Message α)
  | .read _ _, message? => message?.toList
  | .readBatch _ _ _, batch => batch
  | .pop _, message? => message?.toList
  | .setVisibility _ _ _, message => [message]
  | _, _ => []

/-- What an operation gives for one type of payloads, from what it gives for JSON values. -/
inductive Retyped (d : Message.Decoder α) (o : Operation) :
    Except Failure (o.Result Json) → Except Failure (o.Result α) → Prop where
  | failed (f : Failure) : Retyped d o (.error f) (.error f)
  | decoded {result : o.Result Json} {result' : o.Result α}
      (h : List.Forall₂ (Message.DecodesTo d) (o.messages result) (o.messages result')) :
      Retyped d o (.ok result) (.ok result')
  /-- Of the messages that do not decode the one with the lowest id is reported. -/
  | undecodable {result : o.Result Json} {m : Message Json} {e : Json.ReadError}
      (hm : m ∈ o.messages result) (he : d m.payload = .error e)
      (hlowest : ∀ m' ∈ o.messages result, ∀ e', d m'.payload = .error e' →
        m' = m ∨ m.id < m'.id) :
      Retyped d o (.ok result) (.error (.reported (.serialization (.unreadable e))))

/-- A single message decodes or is the one that is reported. -/
theorem retyped_of_singleton {o : Operation} {result : o.Result Json} {m : Message Json}
    {f : Message α → o.Result α} (hresult : o.messages result = [m])
    (hf : ∀ a, o.messages (f a) = [a]) :
    Retyped d o (.ok result)
      (((Operation.decoded (m.decode d)).mapError Failure.reported).map f) := by
  cases hm : m.decode d with
  | ok a =>
      apply Retyped.decoded
      rw [hresult, hf]
      exact .cons (Message.decodesTo_of_decode hm) .nil
  | error e =>
      apply Retyped.undecodable (m := m)
      · rw [hresult]
        exact List.mem_singleton_self m
      · exact Message.decode_eq_error_iff.1 hm
      · intro m' hm' e' he'
        rw [hresult, List.mem_singleton] at hm'
        exact Or.inl hm'

/-- A batch with ascending ids decodes, or its first message that does not decode is reported. -/
theorem retyped_of_batch {queue : String} {vt : Option Int} {limit : Int}
    {rows : List (Message Json)} (hascending : (rows.map Message.id).Pairwise (· < ·)) :
    Retyped d (.readBatch queue vt limit) (.ok rows)
      ((Operation.decoded (decodeAll d rows)).mapError Failure.reported) := by
  cases hrows : decodeAll d rows with
  | ok batch => exact .decoded (forall₂_of_decodeAll hrows)
  | error e =>
      rcases exists_first_of_decodeAll hrows with ⟨before, m, after, rfl, he, hbefore⟩
      apply Retyped.undecodable (m := m)
      · exact List.mem_append_right before List.mem_cons_self
      · exact he
      · intro m' hm' e' he'
        rcases List.mem_append.1 hm' with hm' | hm'
        · rcases hbefore m' hm' with ⟨payload, hpayload⟩
          rw [hpayload] at he'
          cases he'
        · rcases List.mem_cons.1 hm' with rfl | hm'
          · exact Or.inl rfl
          · right
            rw [List.pairwise_map, List.pairwise_append, List.pairwise_cons] at hascending
            exact hascending.2.1.1 m' hm'

/-! ## Operations on a store in memory -/

/-- A client of a store in memory. -/
abbrev inMemory (defaultVisibility : Int) : Client Store.Memory :=
  ⟨Store.Memory.store, defaultVisibility⟩

/-- Whether an operation hands out payloads. -/
def Operation.handsOut : Operation → Bool
  | .read _ _ | .readBatch _ _ _ | .pop _ | .setVisibility _ _ _ => true
  | _ => false

section InMemory

open Store

variable {v : Int} {queue : String} {w : World Memory}

/-- An operation on a store in memory that succeeds has a plan, and concludes from what the store
answers to its request. -/
theorem exists_plan_of_ok {o : Operation} {result : o.Result α}
    (h : (o.run (inMemory v) d w).1 = .ok result) :
    ∃ plan reply, Operation.Plans v d o plan ∧
      (Memory.perform plan.request w.store).1 = .ok reply ∧ plan.conclude reply = .ok result ∧
      (o.run (inMemory v) d w).2.store = (Memory.perform plan.request w.store).2 := by
  cases hrefusal : o.refusal v with
  | some e =>
      rw [Operation.run_refused hrefusal] at h
      cases h
  | none =>
      rcases Operation.exists_plan d hrefusal with ⟨plan, hplan⟩
      have hrun : o.run (inMemory v) d w = plan.finish (Memory.store plan.request w) :=
        Operation.run_planned hplan hrefusal
      rw [hrun, Memory.store, Session.run_onStore] at h ⊢
      cases hreply : (Memory.perform plan.request w.store).1 with
      | error f =>
          rw [hreply] at h
          cases h
      | ok reply =>
          rw [hreply] at h
          exact ⟨plan, reply, hplan, hreply, mapError_eq_ok_iff.1 h, rfl⟩

/-- A batch of JSON values is what the store answers to a read. -/
theorem exists_of_readBatch {vt : Option Int} {limit : Int} {batch : List (Message Json)}
    (h : ((inMemory v).readBatch Message.anyPayload queue vt limit w).1 = .ok batch) :
    ∃ name : QueueName, name.text = queue ∧
      (Memory.perform (.read name (vt.getD v) limit) w.store).1 = .ok batch ∧
      ((inMemory v).readBatch Message.anyPayload queue vt limit w).2.store =
        (Memory.perform (.read name (vt.getD v) limit) w.store).2 := by
  rcases exists_plan_of_ok (o := .readBatch queue vt limit) h with
    ⟨plan, reply, hplan, hreply, hconclude, hstore⟩
  cases hplan with
  | readBatch name =>
      simp only [← Operation.decodeAll_eq_mapM, decodeAll_any] at hconclude
      cases hconclude
      exact ⟨name, rfl, hreply, hstore⟩

/-- A single JSON value that was read is what the store answers to a read of at most one. -/
theorem exists_of_read {vt : Option Int} {message? : Option (Message Json)}
    (h : ((inMemory v).read Message.anyPayload queue vt w).1 = .ok message?) :
    ∃ name : QueueName, name.text = queue ∧
      (Memory.perform (.read name (vt.getD v) 1) w.store).1 = .ok message?.toList ∧
      ((inMemory v).read Message.anyPayload queue vt w).2.store =
        (Memory.perform (.read name (vt.getD v) 1) w.store).2 := by
  rcases exists_plan_of_ok (o := .read queue vt) h with
    ⟨plan, reply, hplan, hreply, hconclude, hstore⟩
  cases hplan with
  | read name =>
      have hlength : reply.length ≤ 1 := (Memory.batch_ascends hreply).2
      simp only [← Operation.decodeAll_eq_mapM, decodeAll_any] at hconclude
      cases hconclude
      refine ⟨name, rfl, ?_, hstore⟩
      rw [hreply]
      rcases reply with _ | ⟨row, _ | ⟨other, rest⟩⟩
      · rfl
      · rfl
      · simp at hlength

/-- A popped JSON value is what the store answers to a pop. -/
theorem exists_of_pop {message? : Option (Message Json)}
    (h : ((inMemory v).pop Message.anyPayload queue w).1 = .ok message?) :
    ∃ name : QueueName, name.text = queue ∧
      (Memory.perform (.pop name) w.store).1 = .ok message? ∧
      ((inMemory v).pop Message.anyPayload queue w).2.store =
        (Memory.perform (.pop name) w.store).2 := by
  rcases exists_plan_of_ok (o := .pop queue) h with
    ⟨plan, reply, hplan, hreply, hconclude, hstore⟩
  cases hplan with
  | pop name =>
      cases reply <;> cases hconclude <;> exact ⟨name, rfl, hreply, hstore⟩

/-- A JSON value whose visibility was changed is what the store answers to that change. -/
theorem exists_of_setVisibility {id vt : Int} {message : Message Json}
    (h : ((inMemory v).setVisibility Message.anyPayload queue id vt w).1 = .ok message) :
    ∃ name : QueueName, name.text = queue ∧
      (Memory.perform (.setVisibility name id vt) w.store).1 = .ok (some message) ∧
      ((inMemory v).setVisibility Message.anyPayload queue id vt w).2.store =
        (Memory.perform (.setVisibility name id vt) w.store).2 := by
  rcases exists_plan_of_ok (o := .setVisibility queue id vt) h with
    ⟨plan, reply, hplan, hreply, hconclude, hstore⟩
  cases hplan with
  | setVisibility name =>
      cases reply with
      | none => cases hconclude
      | some row =>
          cases hconclude
          exact ⟨name, rfl, hreply, hstore⟩

/-! ## What an operation gives -/

/-- A decoded value is what a session ends with, mapped or not, and nothing else happens. -/
theorem run_requireDecoded_map {β γ : Type} (r : Except Json.ReadError β) (f : β → γ) :
    (f <$> requireDecoded r : Session Memory Failure γ) w =
      (((Operation.decoded r).mapError Failure.reported).map f, w) := by
  cases r <;> rfl

/-- An operation leaves the world that it leaves for JSON values, and gives the same with the
payloads decoded. -/
structure Alike (v : Int) (d : Message.Decoder α) (o : Operation) (w : World Memory) : Prop where
  world : (o.run (inMemory v) d w).2 = (o.run (inMemory v) Message.anyPayload w).2
  result : Retyped d o (o.run (inMemory v) Message.anyPayload w).1 (o.run (inMemory v) d w).1

/-- Runs that end in the same world with results of the two kinds are alike. -/
theorem Alike.of_runs {o : Operation} {w' : World Memory} {raw : Except Failure (o.Result Json)}
    {typed : Except Failure (o.Result α)}
    (hraw : o.run (inMemory v) Message.anyPayload w = (raw, w'))
    (htyped : o.run (inMemory v) d w = (typed, w')) (h : Retyped d o raw typed) :
    Alike v d o w := by
  constructor
  · rw [hraw, htyped]
  · rw [hraw, htyped]
    exact h

theorem alike_readBatch (vt : Option Int) (limit : Int) :
    Alike v d (.readBatch queue vt limit) w := by
  have htyped := congrFun (readBatch_eq_bind (inMemory v) d queue vt limit) w
  rcases hraw : (inMemory v).readBatch Message.anyPayload queue vt limit w with ⟨f | rows, w'⟩
  · rw [Session.run_bind_of_error _ hraw] at htyped
    exact .of_runs hraw htyped (.failed f)
  · rw [Session.run_bind_of_ok _ hraw] at htyped
    rcases exists_of_readBatch (congrArg Prod.fst hraw) with ⟨name, -, hreply, -⟩
    exact .of_runs hraw htyped (retyped_of_batch (Memory.batch_ascends hreply).1)

theorem alike_read (vt : Option Int) : Alike v d (.read queue vt) w := by
  have htyped := congrFun (read_eq_bind (inMemory v) d queue vt) w
  have hraw : (inMemory v).read Message.anyPayload queue vt w =
      ((inMemory v).readBatch Message.anyPayload queue vt defaultReadLimit >>= fun batch =>
        pure batch.getLast?) w := rfl
  rcases hbatch : (inMemory v).readBatch Message.anyPayload queue vt defaultReadLimit w with
    ⟨f | rows, w'⟩
  · rw [Session.run_bind_of_error _ hbatch] at hraw htyped
    exact .of_runs hraw htyped (.failed f)
  · rw [Session.run_bind_of_ok _ hbatch] at hraw htyped
    rcases exists_of_readBatch (congrArg Prod.fst hbatch) with ⟨name, -, hreply, -⟩
    have hlength : rows.length ≤ 1 := (Memory.batch_ascends hreply).2
    rcases rows with _ | ⟨row, _ | ⟨other, rest⟩⟩
    · exact .of_runs hraw htyped (.decoded .nil)
    · -- decoding a batch of one message is decoding that message
      have hone : (requireDecoded (decodeAll d [row]) >>= fun batch =>
          pure batch.getLast? : Session Memory Failure _) w' =
          (some <$> requireDecoded (row.decode d) : Session Memory Failure _) w' := by
        simp only [decodeAll]
        cases row.decode d <;> rfl
      have htyped := htyped.trans (hone.trans (run_requireDecoded_map _ _))
      exact .of_runs hraw htyped (retyped_of_singleton rfl fun _ => rfl)
    · simp at hlength

theorem alike_pop : Alike v d (.pop queue) w := by
  have htyped := congrFun (pop_eq_bind (inMemory v) d queue) w
  rcases hraw : (inMemory v).pop Message.anyPayload queue w with ⟨f | _ | row, w'⟩
  · rw [Session.run_bind_of_error _ hraw] at htyped
    exact .of_runs hraw htyped (.failed f)
  · rw [Session.run_bind_of_ok _ hraw] at htyped
    exact .of_runs hraw htyped (.decoded .nil)
  · rw [Session.run_bind_of_ok _ hraw] at htyped
    have htyped := htyped.trans (run_requireDecoded_map _ _)
    exact .of_runs hraw htyped (retyped_of_singleton rfl fun _ => rfl)

theorem alike_setVisibility (id vt : Int) : Alike v d (.setVisibility queue id vt) w := by
  have htyped := congrFun (setVisibility_eq_bind (inMemory v) d queue id vt) w
  rcases hraw : (inMemory v).setVisibility Message.anyPayload queue id vt w with ⟨f | row, w'⟩
  · rw [Session.run_bind_of_error _ hraw] at htyped
    exact .of_runs hraw htyped (.failed f)
  · rw [Session.run_bind_of_ok _ hraw, ← id_map (requireDecoded _),
      run_requireDecoded_map] at htyped
    exact .of_runs hraw htyped (retyped_of_singleton rfl fun _ => rfl)

/-- All operations that hand out payloads are alike for all types of payloads. -/
theorem alike_of_handsOut (v : Int) (d : Message.Decoder α) {o : Operation}
    (ho : o.handsOut = true) (w : World Memory) : Alike v d o w := by
  cases o with
  | readBatch queue vt limit => exact alike_readBatch vt limit
  | read queue vt => exact alike_read vt
  | pop queue => exact alike_pop
  | setVisibility queue id vt => exact alike_setVisibility id vt
  | create | createPartitioned | createWith | send | sendDelayed | archive | delete | drop | list
  | metrics => cases ho

/-! ## Payloads that do not decode -/

/-- What is checked before an operation that hands out payloads has nothing to do with
payloads. -/
theorem refusal_ne_serialization {o : Operation} (ho : o.handsOut = true) (e : PayloadError) :
    o.refusal v ≠ some (.serialization e) := by
  have hname : ∀ queue, Operation.nameFault queue ≠ some (.serialization e) := by
    intro queue
    unfold Operation.nameFault
    split <;> simp
  have hvt : ∀ vt, Operation.visibilityFault vt ≠ some (.serialization e) := by
    intro vt h
    cases (Operation.faultIf_eq_some_iff.1 h).2
  intro h
  have hmem : some (.serialization e) ∈ o.faults v := by
    rcases List.exists_of_findSome?_eq_some h with ⟨fault, hmem, rfl⟩
    exact hmem
  cases o with
  | read queue vt | setVisibility queue id vt =>
      simp only [Operation.faults, List.mem_cons, List.not_mem_nil, or_false] at hmem
      rcases hmem with hmem | hmem
      · exact hname queue hmem.symm
      · exact hvt _ hmem.symm
  | readBatch queue vt limit =>
      simp only [Operation.faults, List.mem_cons, List.not_mem_nil, or_false] at hmem
      rcases hmem with hmem | hmem | hmem
      · exact hname queue hmem.symm
      · exact hvt _ hmem.symm
      · cases (Operation.faultIf_eq_some_iff.1 hmem.symm).2
  | pop queue => exact hname queue (List.mem_singleton.1 hmem).symm
  | create | createPartitioned | createWith | send | sendDelayed | archive | delete | drop | list
  | metrics => cases ho

/-- For JSON values no operation that hands out payloads fails because of them. -/
theorem run_ne_serialization {o : Operation} (ho : o.handsOut = true) (e : PayloadError) :
    (o.run (inMemory v) Message.anyPayload w).1 ≠ .error (.reported (.serialization e)) := by
  cases hrefusal : o.refusal v with
  | some e' =>
      rw [Operation.run_refused hrefusal]
      intro h
      cases h
      exact refusal_ne_serialization ho e hrefusal
  | none =>
      rcases Operation.exists_plan Message.anyPayload hrefusal with ⟨plan, hplan⟩
      have hrun : o.run (inMemory v) Message.anyPayload w =
          plan.finish (Memory.store plan.request w) := Operation.run_planned hplan hrefusal
      rw [hrun, Memory.store, Session.run_onStore]
      cases hreply : (Memory.perform plan.request w.store).1 with
      | error f =>
          intro h
          cases h
          exact Memory.perform_ne_serialization _ _ _ hreply
      | ok reply =>
          have hconclude : plan.conclude reply ≠ .error (.serialization e) := by
            cases hplan with
            | read | readBatch =>
                simp [← Operation.decodeAll_eq_mapM, Operation.decoded, Except.map]
            | pop | setVisibility => cases reply <;> simp [Operation.decoded, Except.map]
            | _ => cases ho
          cases hconcluded : plan.conclude reply with
          | ok result => simp [Operation.Plan.finish, hconcluded]
          | error e' =>
              rw [hconcluded] at hconclude
              simpa [Operation.Plan.finish, hconcluded] using hconclude

/-- When a payload does not decode, the operation has succeeded for JSON values, given that
payload, and left the store as it left it for JSON values. -/
theorem exists_undecodable {o : Operation} (ho : o.handsOut = true) {e : PayloadError}
    (h : (o.run (inMemory v) d w).1 = .error (.reported (.serialization e))) :
    ∃ result m, (o.run (inMemory v) Message.anyPayload w).1 = .ok result ∧
      m ∈ o.messages result ∧
      (o.run (inMemory v) d w).2.store = (o.run (inMemory v) Message.anyPayload w).2.store := by
  rcases alike_of_handsOut v d ho w with ⟨hworld, hretyped⟩
  have hstore := congrArg World.store hworld
  have hraw := run_ne_serialization (v := v) (w := w) ho e
  rw [h] at hretyped
  generalize (o.run (inMemory v) Message.anyPayload w).1 = raw at hretyped hraw ⊢
  cases hretyped with
  | failed f => exact absurd rfl hraw
  | undecodable hm _ _ => exact ⟨_, _, rfl, hm, hstore⟩

/-- The type of the payloads has no part in what operations do to a store. -/
structure PayloadsAside (v : Int) (d : Message.Decoder α) (w : World Memory) : Prop where
  /-- Every operation leaves the world that it leaves for JSON values. -/
  world : ∀ o : Operation,
    (o.run (inMemory v) d w).2 = (o.run (inMemory v) Message.anyPayload w).2
  /-- It gives the same with the payloads decoded, or reports the message with the lowest id among
  those that do not decode. -/
  result : ∀ o : Operation, o.handsOut = true →
    Retyped d o (o.run (inMemory v) Message.anyPayload w).1 (o.run (inMemory v) d w).1
  /-- A batch that fails to decode has been delivered all the same. -/
  readBatch : ∀ queue vt limit e,
    ((inMemory v).readBatch d queue vt limit w).1 = .error (.reported (.serialization e)) →
      ∃ name batch q q' hidden, QueueName.text name = queue ∧
        ((inMemory v).readBatch Message.anyPayload queue vt limit w).1 = .ok batch ∧
        batch ≠ [] ∧ w.store.now.addSeconds? (vt.getD v) = some hidden ∧
        Memory.Delivered name hidden batch q q' w.store
          ((inMemory v).readBatch d queue vt limit w).2.store
  /-- So has a single message that was read. -/
  read : ∀ queue vt e,
    ((inMemory v).read d queue vt w).1 = .error (.reported (.serialization e)) →
      ∃ name message q q' hidden, QueueName.text name = queue ∧
        ((inMemory v).read Message.anyPayload queue vt w).1 = .ok (some message) ∧
        w.store.now.addSeconds? (vt.getD v) = some hidden ∧
        Memory.Delivered name hidden [message] q q' w.store
          ((inMemory v).read d queue vt w).2.store
  /-- A change of visibility whose message fails to decode is in force. -/
  setVisibility : ∀ queue id vt e,
    ((inMemory v).setVisibility d queue id vt w).1 = .error (.reported (.serialization e)) →
      ∃ name q stored hidden, QueueName.text name = queue ∧
        w.store.now.addSeconds? vt = some hidden ∧ q.live.get? id = some stored ∧
        Memory.OnlyChange name q { q with live := q.live.insert id (stored.hiddenUntil hidden) }
          w.store ((inMemory v).setVisibility d queue id vt w).2.store ∧
        Memory.HandsOutFrom ((inMemory v).setVisibility d queue id vt w).2.store name id hidden
  /-- A popped message that fails to decode is gone, and no other. -/
  pop : ∀ queue e, ((inMemory v).pop d queue w).1 = .error (.reported (.serialization e)) →
    ∃ name q message, QueueName.text name = queue ∧
      ((inMemory v).pop Message.anyPayload queue w).1 = .ok (some message) ∧
      q.live.contains message.id = true ∧
      Memory.OnlyChange name q { q with live := q.live.erase message.id } w.store
        ((inMemory v).pop d queue w).2.store

/-- Decoding of payloads changes nothing but the results of operations. -/
theorem payloads_aside (v : Int) (d : Message.Decoder α) (w : World Memory) :
    PayloadsAside v d w := by
  constructor
  · intro o
    cases ho : o.handsOut with
    | true => exact (alike_of_handsOut v d ho w).world
    | false =>
        cases o with
        | read | readBatch | pop | setVisibility => cases ho
        | _ => rfl
  · intro o ho
    exact (alike_of_handsOut v d ho w).result
  · intro queue vt limit e h
    rcases exists_undecodable (o := .readBatch queue vt limit) rfl h with
      ⟨batch, m, hraw, hm, hsame⟩
    rcases exists_of_readBatch hraw with ⟨name, hname, hreply, hstore⟩
    rcases Memory.exists_delivered hreply with ⟨q, q', hidden, ht, hdelivered⟩
    rw [← hsame.trans hstore] at hdelivered
    exact ⟨name, batch, q, q', hidden, hname, hraw, List.ne_nil_of_mem hm, ht, hdelivered⟩
  · intro queue vt e h
    rcases exists_undecodable (o := .read queue vt) rfl h with ⟨message?, m, hraw, hm, hsame⟩
    rcases exists_of_read hraw with ⟨name, hname, hreply, hstore⟩
    rcases Memory.exists_delivered hreply with ⟨q, q', hidden, ht, hdelivered⟩
    rw [← hsame.trans hstore] at hdelivered
    cases message? with
    | none => cases hm
    | some message => exact ⟨name, message, q, q', hidden, hname, hraw, ht, hdelivered⟩
  · intro queue id vt e h
    rcases exists_undecodable (o := .setVisibility queue id vt) rfl h with
      ⟨message, m, hraw, hm, hsame⟩
    rcases exists_of_setVisibility hraw with ⟨name, hname, hreply, hstore⟩
    rcases Memory.exists_hidden hreply with ⟨q, stored, hidden, ht, hlive, hchange, hfrom⟩
    rw [← hsame.trans hstore] at hchange hfrom
    exact ⟨name, q, stored, hidden, hname, ht, hlive, hchange, hfrom⟩
  · intro queue e h
    rcases exists_undecodable (o := .pop queue) rfl h with ⟨message?, m, hraw, hm, hsame⟩
    rcases exists_of_pop hraw with ⟨name, hname, hreply, hstore⟩
    cases message? with
    | none => cases hm
    | some message =>
        rcases Memory.exists_popped hreply with ⟨q, hlive, hchange⟩
        rw [← hsame.trans hstore] at hchange
        exact ⟨name, q, message, hname, hraw, hlive, hchange⟩

end InMemory

end Client
end MessageQueue
