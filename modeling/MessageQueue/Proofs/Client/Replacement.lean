import Mathlib.Data.List.Forall2
import MessageQueue.Proofs.Client.Decoding
import MessageQueue.Proofs.Store.Replacement

/-!
# Clients with their payloads replaced

Clients hand payloads on to the store and back without a look at them.  When every payload
that is sent in a run is replaced in the same way, everything else stays as it was: which messages
are handed out, what stands in their envelopes, which errors are reported, and what is logged.

Main results:

- Theorem `Operation.carries_run`: an operation of a client whose store is blind to payloads.
- Theorem `course_replaced`: a run with all payloads replaced.
- Theorem `payloads_leave_no_trace`: what can be seen of a run, payloads aside, does not depend on
  them.
-/

namespace MessageQueue

open Session (Carries)
open Store (Memory)

/-! ## Data -/

/-- The datum replaced by what its JSON value is replaced by, if it has one. -/
def Json.Datum.mapValue (f : Json → Json) (d : Json.Datum) : Json.Datum :=
  match d.toJson with
  | .ok v => .json (f v)
  | .error _ => d

/-- A JSON value as a datum is replaced as that value is. -/
@[simp]
theorem Json.Datum.mapValue_json (f : Json → Json) (v : Json) :
    (Json.Datum.json v).mapValue f = .json (f v) := rfl

theorem Json.Datum.toJson_mapValue (f : Json → Json) (d : Json.Datum) :
    (d.mapValue f).toJson = d.toJson.map f := by
  unfold mapValue
  split
  · rename_i v hv
    rw [hv]
    rfl
  · rename_i e he
    rw [he]
    rfl

namespace Client

variable {σ α β : Type} {f : Json → Json} {g : σ → σ}

/-! ## Operations -/

namespace Operation

/-- The operation with the payload that it sends replaced. -/
def mapPayload (f : Json → Json) : Operation → Operation
  | send queue payload => send queue (payload.mapValue f)
  | sendDelayed queue payload seconds => sendDelayed queue (payload.mapValue f) seconds
  | o => o

/-- What an operation gives with the payloads of all messages replaced. -/
def mapResult (f : Json → Json) : (o : Operation) → o.Result Json → (o.mapPayload f).Result Json
  | read _ _, message? | pop _, message? => message?.map (Message.map f)
  | readBatch _ _ _, batch => batch.map (Message.map f)
  | setVisibility _ _ _, message => message.map f
  | create _, result | createPartitioned _ _, result | createWith _ _, result | send _ _, result
  | sendDelayed _ _ _, result | archive _ _, result | delete _ _, result | drop _, result
  | list, result | metrics _, result => result

end Operation

theorem checkPayload_mapValue (payload : Json.Datum) :
    checkPayload (payload.mapValue f) = (checkPayload payload).map f := by
  rw [checkPayload, checkPayload, Json.Datum.toJson_mapValue]
  cases payload.toJson <;> rfl

/-! ## Sessions of a client -/

theorem carries_require (r : Except QueueError α) : Carries g id (require r) (require r) := by
  intro w
  cases r <;> rfl

theorem carries_require_map (h : α → β) (r : Except QueueError α) :
    Carries g h (require r) (require (r.map h)) := by
  intro w
  cases r <;> rfl

theorem carries_fail (h : α → β) (e : QueueError) : Carries g h (fail e) (fail e) := by
  intro w
  rfl

/-- Whether a message or queue was found does not depend on payloads, and neither does what is told
of that. -/
theorem carries_ifFound {s t : Session σ Failure Bool} (h : Carries g id s t) (event : Event)
    (e : QueueError) :
    Carries g id (do if ← s then Session.emit event else fail e : Session σ Failure Unit)
      (do if ← t then Session.emit event else fail e) := by
  apply h.bind
  intro found
  cases found with
  | false => exact carries_fail id e
  | true => exact .emit g event

section Blind

variable {c : Client σ} (hblind : Store.Blind f g c.store) (queue : String)

include hblind

theorem carries_createWith (options : QueueOptions) :
    Carries g id (c.createWith queue options) (c.createWith queue options) := by
  apply (carries_require (checkName queue)).bind
  intro name
  cases options.partitioned with
  | false =>
      simp only [id, Bool.false_eq_true, if_false]
      apply (hblind (.create name)).bind
      intro reply
      exact .emit g _
  | true =>
      simp only [id, if_true]
      apply (carries_require (checkOptions options)).bind
      intro checked
      apply (hblind (.createPartitioned name _ _)).bind
      intro reply
      exact .emit g _

theorem carries_send (payload : Json.Datum) :
    Carries g id (c.send queue payload) (c.send queue (payload.mapValue f)) := by
  apply (carries_require (checkName queue)).bind
  intro name
  rw [checkPayload_mapValue]
  apply (carries_require_map f (checkPayload payload)).bind
  intro value
  apply (hblind (.send name value)).bind
  intro i
  apply (Carries.emit g _).bind
  intro _
  exact .pure g _ i

theorem carries_readBatch (vt : Option Int) (limit : Int) :
    Carries g (List.map (Message.map f)) (c.readBatch Message.anyPayload queue vt limit)
      (c.readBatch Message.anyPayload queue vt limit) := by
  simp only [Client.readBatch, decodeAll_any, requireDecoded_ok]
  apply (carries_require (checkName queue)).bind
  intro name
  apply (carries_require (checkVisibility (vt.getD c.defaultVisibility))).bind
  intro _
  apply (carries_require (checkLimit limit)).bind
  intro _
  apply (hblind (.read name (vt.getD c.defaultVisibility) limit)).bind
  intro rows
  have hlength : (Request.mapReply f (.read name (vt.getD c.defaultVisibility) limit) rows).length =
      rows.length := List.length_map _
  simp only [hlength]
  apply (Carries.emit g _).bind
  intro _
  exact .pure g _ rows

theorem carries_read (vt : Option Int) :
    Carries g (Option.map (Message.map f)) (c.read Message.anyPayload queue vt)
      (c.read Message.anyPayload queue vt) := by
  apply (carries_readBatch hblind queue vt defaultReadLimit).bind
  intro batch
  rw [List.getLast?_map]
  exact .pure g _ batch.getLast?

theorem carries_pop :
    Carries g (Option.map (Message.map f)) (c.pop Message.anyPayload queue)
      (c.pop Message.anyPayload queue) := by
  apply (carries_require (checkName queue)).bind
  intro name
  apply (hblind (.pop name)).bind
  intro row?
  cases row? with
  | none => exact .pure g _ none
  | some row => exact .pure g _ (some row)

theorem carries_setVisibility (id vt : Int) :
    Carries g (Message.map f) (c.setVisibility Message.anyPayload queue id vt)
      (c.setVisibility Message.anyPayload queue id vt) := by
  apply (carries_require (checkName queue)).bind
  intro name
  apply (carries_require (checkVisibility vt)).bind
  intro _
  apply (hblind (.setVisibility name id vt)).bind
  intro row?
  cases row? with
  | none => exact carries_fail _ _
  | some row => exact .pure g _ row

theorem carries_archive (i : Int) : Carries g id (c.archive queue i) (c.archive queue i) := by
  apply (carries_require (checkName queue)).bind
  intro name
  exact carries_ifFound (hblind (.archive name i)) _ _

theorem carries_delete (i : Int) : Carries g id (c.delete queue i) (c.delete queue i) := by
  apply (carries_require (checkName queue)).bind
  intro name
  exact carries_ifFound (hblind (.delete name i)) _ _

theorem carries_drop : Carries g id (c.drop queue) (c.drop queue) := by
  apply (carries_require (checkName queue)).bind
  intro name
  exact carries_ifFound (hblind (.drop name)) _ _

/-- An operation of a client whose store is blind to payloads does what it did before when all
payloads are replaced. -/
theorem Operation.carries_run (o : Operation) :
    Carries g (o.mapResult f) (o.run c Message.anyPayload)
      ((o.mapPayload f).run c Message.anyPayload) := by
  cases o with
  | create queue => exact carries_createWith hblind queue .plain
  | createPartitioned queue interval =>
      exact carries_createWith hblind queue (.ofPartitions interval)
  | createWith queue options => exact carries_createWith hblind queue options
  | send queue payload => exact carries_send hblind queue payload
  | sendDelayed queue payload seconds =>
      apply (carries_require (checkDelay seconds)).bind
      intro _
      exact carries_send hblind queue payload
  | read queue vt => exact carries_read hblind queue vt
  | readBatch queue vt limit => exact carries_readBatch hblind queue vt limit
  | pop queue => exact carries_pop hblind queue
  | setVisibility queue id vt => exact carries_setVisibility hblind queue id vt
  | archive queue id => exact carries_archive hblind queue id
  | delete queue id => exact carries_delete hblind queue id
  | drop queue => exact carries_drop hblind queue
  | list => exact hblind .list
  | metrics queue =>
      apply (carries_require (checkName queue)).bind
      intro name
      exact hblind (.metrics name)

end Blind

/-! ## Runs -/

/-- A thing that happens in a run around a store in memory: a client with some default visibility
timeout carries out an operation, the clock moves, or the store is cut off or within reach again. -/
inductive Step where
  | operate (defaultVisibility : Int) (o : Operation)
  | advance (nanoseconds : Int)
  | setOffline (offline : Bool)

namespace Step

/-- What is given back in a step. -/
abbrev Answer : Step → Type
  | operate _ o => o.Result Json
  | advance _ | setOffline _ => Unit

/-- Takes a step; the clock cannot leave the range of instants. -/
def run : (s : Step) → Session Memory Failure s.Answer
  | operate defaultVisibility o => o.run (inMemory defaultVisibility) Message.anyPayload
  | advance nanoseconds =>
    Session.onStore fun m =>
      match m.advance nanoseconds with
      | none => (.error .overflow, m)
      | some m => (.ok (), m)
  | setOffline offline => Session.onStore fun m => (.ok (), m.setOffline offline)

/-- The step with the payload that it sends replaced. -/
def mapPayload (f : Json → Json) : Step → Step
  | operate defaultVisibility o => operate defaultVisibility (o.mapPayload f)
  | s => s

/-- What is given back with the payloads of all messages replaced. -/
def mapAnswer (f : Json → Json) : (s : Step) → s.Answer → (s.mapPayload f).Answer
  | operate _ o, result => o.mapResult f result
  | advance _, answer | setOffline _, answer => answer

/-- A step around a store with replaced payloads. -/
theorem carries_run (f : Json → Json) (s : Step) :
    Carries (Memory.mapPayloads f) (s.mapAnswer f) s.run (s.mapPayload f).run := by
  cases s with
  | operate defaultVisibility o => exact Operation.carries_run (Memory.blind f) o
  | advance nanoseconds =>
      simp only [run, mapPayload]
      apply Carries.onStore
      intro m
      rw [Memory.advance_replaced]
      cases m.advance nanoseconds <;> rfl
  | setOffline offline =>
      simp only [run, mapPayload]
      apply Carries.onStore
      intro m
      rfl

end Step

/-- A step that was taken, with the answer to it and the world after it. -/
structure Taken where
  step : Step
  answer : Except Failure step.Answer
  world : World Memory

/-- The steps that are taken from a world on, one after the other, until one of them would leave the
range of instants, which ends the run. -/
def course : List Step → World Memory → List Taken
  | [], _ => []
  | s :: rest, w =>
    match s.run w with
    | (.error .overflow, w') => [⟨s, .error .overflow, w'⟩]
    | (answer, w') => ⟨s, answer, w'⟩ :: course rest w'

/-- The step as it is taken when all payloads are replaced. -/
def Taken.mapPayloads (f : Json → Json) (t : Taken) : Taken where
  step := t.step.mapPayload f
  answer := t.answer.map (t.step.mapAnswer f)
  world := t.world.mapStore (Memory.mapPayloads f)

/-- A run with all payloads replaced, step by step what it was before. -/
theorem course_replaced (f : Json → Json) (steps : List Step) (w : World Memory) :
    course (steps.map (Step.mapPayload f)) (w.mapStore (Memory.mapPayloads f)) =
      (course steps w).map (Taken.mapPayloads f) := by
  induction steps generalizing w with
  | nil => rfl
  | cons s rest ih =>
      rw [List.map_cons, course, course, s.carries_run f w]
      rcases s.run w with ⟨(e | _) | answer, w'⟩
      · simp [Except.map, ih, Taken.mapPayloads]
      · -- a clock out of range ends both runs in the same step
        rfl
      · simp [Except.map, ih, Taken.mapPayloads]

/-- Two steps are the same but for the payloads when the second sends the payload of the first
replaced, gives back the same error or the same with the payloads of all messages replaced, and
leaves behind a world in which nothing else that can be seen is different. -/
inductive SameButPayloads (f : Json → Json) : Taken → Taken → Prop where
  | intro {s : Step} {answer : Except Failure s.Answer} {w w' : World Memory}
      (archived : ∀ queue, w'.store.archivedIds queue = w.store.archivedIds queue)
      (clock : w'.store.now = w.store.now) (calls : w'.store.calls = w.store.calls)
      (events : w'.events = w.events) :
      SameButPayloads f ⟨s, answer, w⟩ ⟨s.mapPayload f, answer.map (s.mapAnswer f), w'⟩

/-- What can be seen of a run, payloads aside, does not depend on them. -/
theorem payloads_leave_no_trace (f : Json → Json) (now : Time.Instant) (steps : List Step) :
    List.Forall₂ (SameButPayloads f) (course steps (.ofStore (.new now)))
      (course (steps.map (Step.mapPayload f)) (.ofStore (.new now))) := by
  have hcourse := course_replaced f steps (.ofStore (.new now))
  have hnew : (World.ofStore (Memory.new now)).mapStore (Memory.mapPayloads f) =
      .ofStore (.new now) := rfl
  rw [hnew] at hcourse
  rw [hcourse, List.forall₂_map_right_iff, List.forall₂_same]
  intro t _
  exact .intro t.world.store.archivedIds_replaced rfl rfl rfl

end Client
end MessageQueue
