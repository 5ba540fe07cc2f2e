import MessageQueue.Client
import MessageQueue.Proofs.Session

/-!
# Acts of clients

What clients do with the messages of a queue: they send, read, pop, hide, delete and archive
them.  Every such act is either refused by the checks of the client, which leaves everything as
it is, or makes one request to the store and concludes from the reply what the client gets.

Main results:

- Theorem `Act.run_refused`: a refused act does nothing but report why.
- Theorem `Act.run_of_request`: an act that passes makes its request and concludes.
-/

namespace MessageQueue

namespace Client

variable {σ α : Type}

@[simp]
theorem run_require (r : Except QueueError α) (w : World σ) :
    (require r : Session σ Failure α) w =
      match r with
      | .ok a => (.ok a, w)
      | .error e => (.error (.reported e), w) := by
  cases r <;> rfl

@[simp]
theorem run_fail (e : QueueError) (w : World σ) :
    (fail e : Session σ Failure α) w = (.error (.reported e), w) := rfl

@[simp]
theorem checkName_text (name : QueueName) : checkName name.text = .ok name := by
  rw [checkName, QueueName.ofString_text]
  rfl

@[simp]
theorem requireDecoded_ok (a : α) : (requireDecoded (.ok a) : Session σ Failure α) = pure a := rfl

/-- Every batch of JSON payloads decodes as itself. -/
@[simp]
theorem decodeAll_any (rows : List (Message Json)) :
    decodeAll Message.anyPayload rows = .ok rows := by
  induction rows with
  | nil => rfl
  | cons m rest ih =>
      rw [decodeAll, Message.decode_any, ih]
      rfl

/-! ## Acts -/

/-- What a client does with the messages of a queue. -/
inductive Act where
  | send (payload : Json.Datum)
  | readBatch (vt : Option Int) (limit : Int)
  | pop
  | setVisibility (id vt : Int)
  | delete (id : Int)
  | archive (id : Int)

namespace Act

/-- Lets the client act on a queue; it gets the messages that are handed out to it. -/
def run (c : Client σ) (queue : String) : Act → Session σ Failure (List (Message Json))
  | send payload => (fun _ => []) <$> c.send queue payload
  | readBatch vt limit => c.readBatch Message.anyPayload queue vt limit
  | pop => Option.toList <$> c.pop Message.anyPayload queue
  | setVisibility id vt => List.singleton <$> c.setVisibility Message.anyPayload queue id vt
  | delete id => (fun _ => []) <$> c.delete queue id
  | archive id => (fun _ => []) <$> c.archive queue id

/-- The request that an act makes, unless the checks of the client refuse it. -/
def request (defaultVisibility : Int) (name : QueueName) : Act → Except QueueError Request
  | send payload => do
    let value ← checkPayload payload
    return .send name value
  | readBatch vt limit => do
    checkVisibility (vt.getD defaultVisibility)
    checkLimit limit
    return .read name (vt.getD defaultVisibility) limit
  | pop => return .pop name
  | setVisibility id vt => do
    checkVisibility vt
    return .setVisibility name id vt
  | delete id => return .delete name id
  | archive id => return .archive name id

/-- An act that passes the checks of the client, and the request that it makes. -/
inductive Asks (defaultVisibility : Int) (name : QueueName) : Act → Request → Prop where
  | send {payload : Json.Datum} {value : Json} (hpayload : checkPayload payload = .ok value) :
      Asks defaultVisibility name (.send payload) (.send name value)
  | readBatch {vt : Option Int} {limit : Int}
      (hvt : checkVisibility (vt.getD defaultVisibility) = .ok ())
      (hlimit : checkLimit limit = .ok ()) :
      Asks defaultVisibility name (.readBatch vt limit)
        (.read name (vt.getD defaultVisibility) limit)
  | pop : Asks defaultVisibility name .pop (.pop name)
  | setVisibility (id : Int) {vt : Int} (hvt : checkVisibility vt = .ok ()) :
      Asks defaultVisibility name (.setVisibility id vt) (.setVisibility name id vt)
  | delete (id : Int) : Asks defaultVisibility name (.delete id) (.delete name id)
  | archive (id : Int) : Asks defaultVisibility name (.archive id) (.archive name id)

end Act

/-- What a client concludes from the reply to a request: the messages that it gets, or that the
message it asked for is not there. -/
def conclude : (r : Request) → Except Failure r.Reply → Except Failure (List (Message Json))
  | _, .error e => .error e
  | .read _ _ _, .ok rows => .ok rows
  | .pop _, .ok row? => .ok row?.toList
  | .setVisibility _ _ _, .ok (some row) => .ok [row]
  | .setVisibility name id _, .ok none
  | .delete name id, .ok false
  | .archive name id, .ok false => .error (.reported (.messageNotFound name.text id))
  | _, .ok _ => .ok []

/-- From an error a client concludes that error. -/
theorem conclude_error (r : Request) (e : Failure) : conclude r (.error e) = .error e := by
  cases r <;> rfl

namespace Act

variable {c : Client σ} {a : Act} {name : QueueName} {w : World σ}

/-- An act with a request has passed the checks and makes the request of its kind. -/
theorem asks_of_request {d : Int} {r : Request} (h : a.request d name = .ok r) :
    Asks d name a r := by
  cases a with
  | send payload =>
      cases hpayload : checkPayload payload <;>
        simp only [request, hpayload, bind, Except.bind, pure, Except.pure, Except.ok.injEq,
          reduceCtorEq] at h
      subst h
      exact .send hpayload
  | readBatch vt limit =>
      cases hvt : checkVisibility (vt.getD d) <;> cases hlimit : checkLimit limit <;>
        simp only [request, hvt, hlimit, bind, Except.bind, pure, Except.pure, Except.ok.injEq,
          reduceCtorEq] at h
      subst h
      exact .readBatch hvt hlimit
  | setVisibility id vt =>
      cases hvt : checkVisibility vt <;>
        simp only [request, hvt, bind, Except.bind, pure, Except.pure, Except.ok.injEq,
          reduceCtorEq] at h
      subst h
      exact .setVisibility id hvt
  | pop =>
      cases h
      exact .pop
  | delete id =>
      cases h
      exact .delete id
  | archive id =>
      cases h
      exact .archive id

/-- A refused act does nothing but report why. -/
theorem run_refused {e : QueueError} (h : a.request c.defaultVisibility name = .error e) :
    a.run c name.text w = (.error (.reported e), w) := by
  cases a with
  | send payload =>
      cases hpayload : checkPayload payload with
      | ok value => simp [request, hpayload, bind, Except.bind, pure, Except.pure] at h
      | error e' =>
          have heq : e' = e := by simpa [request, hpayload, bind, Except.bind] using h
          simp [run, Client.send, hpayload, heq]
  | readBatch vt limit =>
      cases hvt : checkVisibility (vt.getD c.defaultVisibility) with
      | error e' =>
          have heq : e' = e := by simpa [request, hvt, bind, Except.bind] using h
          simp [run, Client.readBatch, hvt, heq]
      | ok =>
          cases hlimit : checkLimit limit with
          | ok => simp [request, hvt, hlimit, bind, Except.bind, pure, Except.pure] at h
          | error e' =>
              have heq : e' = e := by simpa [request, hvt, hlimit, bind, Except.bind] using h
              simp [run, Client.readBatch, hvt, hlimit, heq]
  | setVisibility id vt =>
      cases hvt : checkVisibility vt with
      | ok => simp [request, hvt, bind, Except.bind, pure, Except.pure] at h
      | error e' =>
          have heq : e' = e := by simpa [request, hvt, bind, Except.bind] using h
          simp [run, Client.setVisibility, hvt, heq]
  | pop => cases h
  | delete id => cases h
  | archive id => cases h

/-- An act that passes the checks makes its request, and the client concludes from the reply. -/
theorem run_of_request {r : Request} (h : a.request c.defaultVisibility name = .ok r) :
    (a.run c name.text w).1 = conclude r (c.store r w).1 ∧
      (a.run c name.text w).2.store = (c.store r w).2.store := by
  cases asks_of_request h with
  | @send payload value hpayload =>
      rcases hreply : c.store (.send name value) w with ⟨_ | id, w'⟩ <;>
        simp [run, Client.send, hpayload, hreply, conclude]
  | @readBatch vt limit hvt hlimit =>
      rcases hreply : c.store (.read name (vt.getD c.defaultVisibility) limit) w with
        ⟨_ | rows, w'⟩ <;> simp [run, Client.readBatch, hvt, hlimit, hreply, conclude]
  | pop =>
      rcases hreply : c.store (.pop name) w with ⟨_ | _ | row, w'⟩ <;>
        simp [run, Client.pop, hreply, conclude]
  | @setVisibility id vt hvt =>
      rcases hreply : c.store (.setVisibility name id vt) w with ⟨_ | _ | row, w'⟩ <;>
        simp [run, Client.setVisibility, hvt, hreply, conclude, List.singleton]
  | delete id =>
      rcases hreply : c.store (.delete name id) w with ⟨_ | _ | _, w'⟩ <;>
        simp [run, Client.delete, hreply, conclude]
  | archive id =>
      rcases hreply : c.store (.archive name id) w with ⟨_ | _ | _, w'⟩ <;>
        simp [run, Client.archive, hreply, conclude]

end Act
end Client
end MessageQueue
