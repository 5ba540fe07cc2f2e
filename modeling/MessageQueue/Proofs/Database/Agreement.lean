import MessageQueue.Proofs.Client.Operations
import MessageQueue.Proofs.Database.Replies

/-!
# Agreement of the two stores

The store behind a server and the store in memory are two implementations of one interface.  When
the server shows, to each statement, what the same request comes to in memory, the store behind it
gives the same reply, so that a client gets the same answers over either store for as long as
that goes on.  The one thing that can come between them is that payloads from a server go
through their texts: the reader of texts has a limit to the nesting, and takes some
floating point numbers for a neighbour.

Main results:

- Theorem `run_store_eq`: one request is answered the same.
- Theorem `play_eq`: so are runs of a client.
- Theorem `exists_mirrors`: there is a server to every run in memory that shows what it comes to.
- Theorem `agrees_with_memory`: the two stores agree, in requests and in runs.
- Theorem `disagrees_beyond_texts`: the limits of texts are limits of the agreement.
-/

namespace MessageQueue

open Json (Restorable)
open Store (Memory)
open Time (Instant)

/-! ## Runs of a client -/

/-- The store in memory with its clock set to an instant. -/
def Store.Memory.setClock (t : Instant) (m : Memory) : Memory := { m with now := t }

namespace Client

variable {σ α β : Type}

/-- What happens in a run: the client carries out an operation, or the clock is set. -/
inductive Turn where
  | act {α : Type} (d : Message.Decoder α) (o : Operation)
  | clock (t : Instant)

/-- An operation with its result. -/
structure Answer where
  {payload : Type}
  operation : Operation
  result : Except Failure (operation.Result payload)

/-- Whether an operation stopped because a time left the range of instants. -/
def Answer.overflowed (a : Answer) : Bool :=
  match a.result with
  | .error .overflow => true
  | _ => false

/-- The answers that a client gives in a run, around a store on which the clock acts in some way. -/
def play (c : Client σ) (tick : Instant → σ → σ) : List Turn → World σ → List Answer
  | [], _ => []
  | .clock t :: rest, w => c.play tick rest { w with store := tick t w.store }
  | .act d o :: rest, w => ⟨o, (o.run c d w).1⟩ :: c.play tick rest (o.run c d w).2

namespace Operation

/-- The JSON value that an operation sends. -/
def value? : Operation → Option Json
  | send _ payload | sendDelayed _ payload _ => payload.toJson.toOption
  | _ => none

/-- A plan sends the value of its operation. -/
theorem payload?_of_plans {v : Int} {d : Message.Decoder α} {o : Operation}
    {plan : Plan (o.Result α)} (h : Plans v d o plan) : plan.request.payload? = o.value? := by
  cases h with
  | send name hvalue | sendDelayed name hvalue =>
      simp [Request.payload?, value?, hvalue, Except.toOption]
  | _ => rfl

/-- What a plan comes to depends on the reply alone. -/
theorem Plan.finish_fst_congr {τ : Type} (plan : Plan β)
    {x : Except Failure plan.request.Reply × World σ}
    {y : Except Failure plan.request.Reply × World τ} (h : x.1 = y.1) :
    (plan.finish x).1 = (plan.finish y).1 := by
  rcases x with ⟨_ | _, _⟩ <;> rcases y with ⟨_ | _, _⟩ <;> cases h <;> rfl

end Operation
end Client

namespace Database

variable {σ : Type}

/-! ## One request -/

/-- What a store told is what it answered. -/
theorem mapError_of_told? {α : Type} {r : Except Failure α} {told : Except QueueError α}
    (h : Memory.told? r = some told) : told.mapError .reported = r := by
  rcases r with (_ | _) | _ <;> cases h <;> rfl

/-- The store behind a server replies to a request as the store in memory does, if the server shows
that reply and all payloads in memory come back from their texts. -/
theorem run_store_eq {server : Server σ} {m : Memory} {r : Request}
    {reply : Except QueueError r.Reply} (htold : Memory.told? (Memory.perform r m).1 = some reply)
    {w : World σ} (hshows : Shows r reply (server (.run (statementOf r)) w.store).1)
    (hm : m.PayloadsIn Restorable) :
    (Database.store server r w).1 = (Memory.perform r m).1 := by
  have hconcluded : concluded r (server (.run (statementOf r)) w.store).1 = reply := by
    refine concluded_of_shows hshows ?_
    intro a ha msg hmsg
    have hok : (Memory.perform r m).1 = .ok a :=
      Memory.told?_eq_some_ok_iff.1 (htold.trans (congrArg some ha))
    exact (hm.handedOut hok hmsg).readText
  rw [(run_store server r w).1, hconcluded, mapError_of_told? htold]

/-- What a store in reach tells can be shown. -/
theorem exists_shows {m : Memory} {r : Request} {reply : Except QueueError r.Reply}
    (honline : m.offline = false) (htold : Memory.told? (Memory.perform r m).1 = some reply) :
    ∃ a, Shows r reply (Script.conclude a) := by
  rcases m with ⟨queues, now, offline, count⟩
  cases honline
  cases reply with
  | ok a => exact ⟨.outcome (shown r a), .reply r a⟩
  | error e =>
      have herror : (Memory.answer queues now r).1 = .error (.reported e) :=
        Memory.told?_eq_some_error_iff.1 htold
      cases hstep : Memory.queueStep? now r with
      | some p =>
          rcases p with ⟨name, step⟩
          rw [Memory.answer_eq_onQueue hstep, Memory.onQueue_fst] at herror
          split at herror
          · cases herror
            exact ⟨.refused "42P01" "", .missing (Memory.queue?_of_queueStep? hstep) ""⟩
          · exact absurd herror (Memory.queueStep_ne_reported hstep _ e)
      | none =>
          cases r with
          | create name | createPartitioned name =>
              rw [Memory.answer, Memory.createQueue] at herror
              split at herror
              · cases herror
                exact ⟨.outcome (single "existed" .bool (.bool true)), .existed rfl⟩
              · cases herror
          | drop | list => cases herror
          | send | read | pop | setVisibility | delete | archive | metrics => cases hstep

/-! ## Runs -/

/-- In a run a server shows what every request of the client comes to in memory.  The clock may act
on the server in any way. -/
inductive Mirrors (server : Server σ) (tick : Instant → σ → σ) (defaultVisibility : Int) :
    List Client.Turn → σ → Memory → Prop where
  | done (s : σ) (m : Memory) : Mirrors server tick defaultVisibility [] s m
  | clock {t : Instant} {rest : List Client.Turn} {s : σ} {m : Memory}
      (after : Mirrors server tick defaultVisibility rest (tick t s) (m.setClock t)) :
      Mirrors server tick defaultVisibility (.clock t :: rest) s m
  | refused {α : Type} {d : Message.Decoder α} {o : Client.Operation} {rest : List Client.Turn}
      {s : σ} {m : Memory} {e : QueueError} (hrefusal : o.refusal defaultVisibility = some e)
      (after : Mirrors server tick defaultVisibility rest s m) :
      Mirrors server tick defaultVisibility (.act d o :: rest) s m
  | asked {α : Type} {d : Message.Decoder α} {o : Client.Operation} {rest : List Client.Turn}
      {s : σ} {m : Memory} {plan : Client.Operation.Plan (o.Result α)}
      {reply : Except QueueError plan.request.Reply}
      (hrefusal : o.refusal defaultVisibility = none)
      (hplan : Client.Operation.Plans defaultVisibility d o plan)
      (htold : Memory.told? (Memory.perform plan.request m).1 = some reply)
      (hshows : Shows plan.request reply (server (.run (statementOf plan.request)) s).1)
      (after : Mirrors server tick defaultVisibility rest
        (server (.run (statementOf plan.request)) s).2 (Memory.perform plan.request m).2) :
      Mirrors server tick defaultVisibility (.act d o :: rest) s m

/-- What is sent in a turn comes back from its text; an operation that the client refuses sends
nothing. -/
def SendsRestorable (defaultVisibility : Int) : Client.Turn → Prop
  | .act _ o => o.refusal defaultVisibility = none → ∀ v ∈ o.value?, Restorable v
  | .clock _ => True

instance (defaultVisibility : Int) (turn : Client.Turn) :
    Decidable (SendsRestorable defaultVisibility turn) :=
  match turn with
  | .act _ o =>
    inferInstanceAs
      (Decidable (o.refusal defaultVisibility = none → ∀ v ∈ o.value?, Restorable v))
  | .clock _ => inferInstanceAs (Decidable True)

/-- A planned operation has the same result over both stores, if the server shows what its request
comes to in memory. -/
theorem run_planned_eq {α : Type} {server : Server σ} {v : Int} {d : Message.Decoder α}
    {o : Client.Operation} {plan : Client.Operation.Plan (o.Result α)}
    {reply : Except QueueError plan.request.Reply} {w : World σ} {w' : World Memory}
    (hrefusal : o.refusal v = none) (hplan : Client.Operation.Plans v d o plan)
    (htold : Memory.told? (Memory.perform plan.request w'.store).1 = some reply)
    (hshows : Shows plan.request reply (server (.run (statementOf plan.request)) w.store).1)
    (hm : w'.store.PayloadsIn Restorable) :
    (o.run ⟨Database.store server, v⟩ d w).1 = (o.run ⟨Memory.store, v⟩ d w').1 := by
  have hserver : o.run ⟨Database.store server, v⟩ d w =
      plan.finish (Database.store server plan.request w) :=
    Client.Operation.run_planned hplan hrefusal
  have hmemory : o.run ⟨Memory.store, v⟩ d w' = plan.finish (Memory.store plan.request w') :=
    Client.Operation.run_planned hplan hrefusal
  rw [hserver, hmemory]
  exact plan.finish_fst_congr (run_store_eq htold hshows hm)

/-- A client gives the same answers over a server that mirrors the store in memory as over that
store. -/
theorem play_eq {server : Server σ} {tick : Instant → σ → σ} {v : Int} {turns : List Client.Turn}
    {s : σ} {m : Memory} (h : Mirrors server tick v turns s m) (hm : m.PayloadsIn Restorable)
    (hsent : ∀ turn ∈ turns, SendsRestorable v turn) {w : World σ} (hw : w.store = s)
    {w' : World Memory} (hw' : w'.store = m) :
    Client.play ⟨Database.store server, v⟩ tick turns w =
      Client.play ⟨Memory.store, v⟩ Memory.setClock turns w' := by
  induction h generalizing w w' with
  | done s m => rfl
  | clock after ih =>
      subst hw hw'
      have hrest := (List.forall_mem_cons.1 hsent).2
      rw [Client.play, Client.play]
      exact ih hm hrest rfl rfl
  | @refused α d o rest s m e hrefusal after ih =>
      subst hw hw'
      have hrest := (List.forall_mem_cons.1 hsent).2
      have hserver : o.run ⟨Database.store server, v⟩ d w = (.error (.reported e), w) :=
        Client.Operation.run_refused hrefusal
      have hmemory : o.run ⟨Memory.store, v⟩ d w' = (.error (.reported e), w') :=
        Client.Operation.run_refused hrefusal
      rw [Client.play, Client.play, hserver, hmemory, ih hm hrest rfl rfl]
  | @asked α d o rest s m plan reply hrefusal hplan htold hshows after ih =>
      subst hw hw'
      obtain ⟨hfirst, hrest⟩ := List.forall_mem_cons.1 hsent
      -- the payloads in memory still come back after the request, so the rest of the run agrees
      have hsentHere : ∀ value, plan.request.payload? = some value → Restorable value := by
        rw [Client.Operation.payload?_of_plans hplan]
        exact hfirst hrefusal
      have hserver : (o.run ⟨Database.store server, v⟩ d w).2.store =
          (server (.run (statementOf plan.request)) w.store).2 :=
        (Client.Operation.run_planned_store hplan hrefusal w).trans
          (run_store server plan.request w).2
      have hmemory : (o.run ⟨Memory.store, v⟩ d w').2.store =
          (Memory.perform plan.request w'.store).2 :=
        Client.Operation.run_planned_store hplan hrefusal w'
      rw [Client.play, Client.play, run_planned_eq hrefusal hplan htold hshows hm,
        ih (hm.perform hsentHere htold) hrest hserver hmemory]

/-! ## Servers that mirror runs -/

/-- A request leaves a store in reach. -/
theorem offline_perform (r : Request) (m : Memory) :
    (Memory.perform r m).2.offline = m.offline := by
  rcases m with ⟨queues, now, offline, count⟩
  cases offline <;> rfl

/-- An operation that does not overflow was told something by the store. -/
theorem exists_told_of_not_overflowed {o : Client.Operation} {α : Type}
    {plan : Client.Operation.Plan (o.Result α)}
    {x : Except Failure plan.request.Reply × World Memory}
    (h : (Client.Answer.mk o (plan.finish x).1).overflowed = false) :
    ∃ reply, Memory.told? x.1 = some reply := by
  rcases x with ⟨(e | _) | a, w⟩
  · exact ⟨_, rfl⟩
  · cases h
  · exact ⟨_, rfl⟩

/-- To every run of a client around a store in memory that is in reach, in which no time overflows,
there is a server with its answers written down in advance that mirrors the store. -/
theorem exists_mirrors {v : Int} {turns : List Client.Turn} {w : World Memory}
    (honline : w.store.offline = false)
    (hrun : ∀ a ∈ Client.play ⟨Memory.store, v⟩ Memory.setClock turns w, a.overflowed = false) :
    ∃ replies, ∀ record, Mirrors Script.server (fun _ s => s) v turns
      ⟨replies, .reachable, record⟩ w.store := by
  induction turns generalizing w with
  | nil => exact ⟨[], fun record => .done _ _⟩
  | cons turn rest ih =>
      cases turn with
      | clock t =>
          obtain ⟨replies, hreplies⟩ :=
            @ih { w with store := w.store.setClock t } honline hrun
          exact ⟨replies, fun record => .clock (hreplies record)⟩
      | act d o =>
          obtain ⟨hfirst, hmore⟩ := List.forall_mem_cons.1 hrun
          cases hrefusal : o.refusal v with
          | some e =>
              have hmemory : o.run ⟨Memory.store, v⟩ d w = (.error (.reported e), w) :=
                Client.Operation.run_refused hrefusal
              rw [hmemory] at hmore
              obtain ⟨replies, hreplies⟩ := ih honline hmore
              exact ⟨replies, fun record => .refused hrefusal (hreplies record)⟩
          | none =>
              obtain ⟨plan, hplan⟩ := Client.Operation.exists_plan d hrefusal
              have hmemory : o.run ⟨Memory.store, v⟩ d w =
                  plan.finish (Memory.store plan.request w) :=
                Client.Operation.run_planned hplan hrefusal
              have hstore : (o.run ⟨Memory.store, v⟩ d w).2.store =
                  (Memory.perform plan.request w.store).2 :=
                Client.Operation.run_planned_store hplan hrefusal w
              rw [hmemory] at hfirst
              obtain ⟨reply, htold⟩ := exists_told_of_not_overflowed hfirst
              obtain ⟨a, ha⟩ := exists_shows honline htold
              have honline' : (o.run ⟨Memory.store, v⟩ d w).2.store.offline = false := by
                rw [hstore, offline_perform, honline]
              obtain ⟨replies, hreplies⟩ := ih honline' hmore
              rw [hstore] at hreplies
              refine ⟨⟨none, a⟩ :: replies, fun record => ?_⟩
              exact .asked hrefusal hplan htold ha (hreplies _)

/-! ## Agreement -/

/-- The store behind a server agrees with the store in memory, in one request and in runs of any
length, as long as the server shows what happens in memory and all payloads come back from their
texts. -/
theorem agrees_with_memory (server : Server σ) :
    (∀ (m : Memory) (r : Request) (reply : Except QueueError r.Reply) (w : World σ),
      Memory.told? (Memory.perform r m).1 = some reply →
      Shows r reply (server (.run (statementOf r)) w.store).1 → m.PayloadsIn Restorable →
      (Database.store server r w).1 = (Memory.perform r m).1) ∧
    (∀ (tick : Instant → σ → σ) (v : Int) (turns : List Client.Turn) (s : σ) (m : Memory),
      Mirrors server tick v turns s m → m.PayloadsIn Restorable →
      (∀ turn ∈ turns, SendsRestorable v turn) →
      Client.play ⟨Database.store server, v⟩ tick turns (.ofStore s) =
        Client.play ⟨Memory.store, v⟩ Memory.setClock turns (.ofStore m)) := by
  constructor
  · intro m r reply w htold hshows hm
    exact run_store_eq htold hshows hm
  · intro tick v turns s m hmirrors hm hsent
    exact play_eq hmirrors hm hsent rfl rfl

/-- A run of a client in which a queue is created, found taken, filled, read and dropped, and in
which some operations are refused or miss what they ask for. -/
def sampleTurns : List Client.Turn :=
  [.act Message.anyPayload (.create "jobs"), .act Message.anyPayload (.create "jobs"),
    .act Message.anyPayload (.send "jobs" (.json (.object [("n", .float 1.5)]))),
    .act Message.anyPayload (.send "jobs" (.string "b")),
    .act Message.anyPayload (.read "mails" none),
    .clock ((Instant.epoch.addSeconds? 2).getD .epoch),
    .act Message.anyPayload (.readBatch "jobs" (some 5) 7),
    .act Message.anyPayload (.setVisibility "jobs" 1 (-1)),
    .act Message.anyPayload (.setVisibility "jobs" 1 0), .act Message.anyPayload (.pop "jobs"),
    .act Message.anyPayload (.delete "jobs" 1), .act Message.anyPayload (.archive "jobs" 2),
    .act Message.anyPayload (.metrics "jobs"), .act Message.anyPayload .list,
    .act Message.anyPayload (.drop "jobs"), .act Message.anyPayload (.drop "jobs")]

/-- A store in which one payload was sent to one queue. -/
def stocked (payload : Json) : Memory :=
  (Memory.perform (.send Store.jobs payload)
    (Memory.perform (.create Store.jobs) (.new .epoch)).2).2

theorem stocked_reachable (payload : Json) : (stocked payload).Reachable :=
  ⟨.epoch, [.request (.create Store.jobs), .request (.send Store.jobs payload)], _, rfl⟩

theorem payloadsIn_stocked {P : Json → Prop} {payload : Json} (h : P payload) :
    (stocked payload).PayloadsIn P := by
  have hcreated : (Memory.perform (.create Store.jobs) (.new .epoch)).2.PayloadsIn P :=
    (Memory.payloadsIn_new _).perform (fun _ hv => by cases hv) rfl
  refine hcreated.perform ?_ rfl
  intro v hv
  cases hv
  exact h

/-- The message of that payload. -/
def stockedMessage (payload : Json) : Message Json := ⟨1, 0, .epoch, .epoch, payload⟩

theorem told_pop_stocked (payload : Json) :
    Memory.told? (Memory.perform (.pop Store.jobs) (stocked payload)).1 =
      some (.ok (some (stockedMessage payload))) := rfl

/-- A server that shows that message. -/
def showingStocked (payload : Json) : World Script :=
  .ofStore (.ofReplies
    [⟨none, .outcome (shown (.pop Store.jobs) (some (stockedMessage payload)))⟩] .reachable)

/-- A message is popped the same from both stores, and the client goes through the sample run the
same over both. -/
theorem agrees_with_memory_sampleTurns :
    (Database.store Script.server (.pop Store.jobs) (showingStocked (.string "b"))).1 =
        .ok (some (stockedMessage (.string "b"))) ∧
      ∃ replies, Client.play ⟨Database.store Script.server, 30⟩ (fun _ s => s) sampleTurns
          (.ofStore (.ofReplies replies .reachable)) =
        Client.play ⟨Memory.store, 30⟩ Memory.setClock sampleTurns (.ofStore (.new .epoch)) := by
  have hrun : ∀ a ∈ Client.play ⟨Memory.store, 30⟩ Memory.setClock sampleTurns
      (.ofStore (.new .epoch)), a.overflowed = false := by decide +kernel
  obtain ⟨replies, hmirrors⟩ := exists_mirrors rfl hrun
  have hsent : ∀ turn ∈ sampleTurns, SendsRestorable 30 turn := by decide +kernel
  constructor
  · have hpayloads : (stocked (.string "b")).PayloadsIn Restorable :=
      payloadsIn_stocked (by decide +kernel)
    exact (agrees_with_memory Script.server).1 _ _ _ (showingStocked (.string "b"))
      (told_pop_stocked _) (.reply _ _) hpayloads
  · exact ⟨replies, (agrees_with_memory Script.server).2 _ _ _ _ _ (hmirrors #[])
      (Memory.payloadsIn_new _) hsent⟩

/-- An item within so many arrays. -/
def nested : Nat → Json
  | 0 => .null
  | n + 1 => .array [nested n]

theorem isCanonical_nested (n : Nat) : (nested n).isCanonical = true := by
  induction n with
  | zero => rfl
  | succ n ih => simp [nested, Json.isCanonical, Json.areCanonical, ih]

theorem depth_nested (n : Nat) : (nested n).depth = n := by
  induction n with
  | zero => rfl
  | succ n ih => simp [nested, Json.depth, Json.itemsDepth, ih]

theorem floats_nested (n : Nat) : (nested n).floats = [] := by
  induction n with
  | zero => rfl
  | succ n ih => simp [nested, Json.floats, Json.itemFloats, ih]

/-- A payload at which the stores do not agree: a store in memory that came about in a run hands it
out, the server shows the message, and the store behind the server does not reply with it. -/
structure Lost (payload : Json) : Prop where
  reachable : (stocked payload).Reachable
  online : (stocked payload).offline = false
  told : Memory.told? (Memory.perform (.pop Store.jobs) (stocked payload)).1 =
    some (.ok (some (stockedMessage payload)))
  shown : Shows (.pop Store.jobs) (.ok (some (stockedMessage payload)))
    (Script.server (.run (statementOf (.pop Store.jobs))) (showingStocked payload).store).1
  differs : (Database.store Script.server (.pop Store.jobs) (showingStocked payload)).1 ≠
    (Memory.perform (.pop Store.jobs) (stocked payload)).1

/-- A payload that does not come back from its text is lost. -/
theorem lost_of_readText_ne {payload : Json}
    (h : Json.readText Json.Reader.any (Json.text payload) ≠ .ok payload) : Lost payload := by
  refine ⟨stocked_reachable payload, rfl, told_pop_stocked payload, .reply _ _, ?_⟩
  intro hstore
  have hconcluded : concluded (.pop Store.jobs)
      (.ok (shown (.pop Store.jobs) (some (stockedMessage payload)))) =
        .ok (some (stockedMessage payload)) :=
    mapError_eq_ok_iff.1
      ((run_store Script.server (.pop Store.jobs) (showingStocked payload)).1.symm.trans hstore)
  have hmem : stockedMessage payload ∈
      (Request.pop Store.jobs).handedOut (some (stockedMessage payload)) := by
    simp [Request.handedOut]
  exact h ((concluded_shown_iff _ _).1 hconcluded (stockedMessage payload) hmem)

/-- Without the condition that payloads come back from their texts the stores do not agree: not at a
payload that is nested too deep, and not at a floating point number that is taken for its
neighbour. -/
theorem disagrees_beyond_texts :
    Lost (nested Json.nestingLimit) ∧ Lost (.float 1.7976931348623157) := by
  constructor
  · apply lost_of_readText_ne
    have hfloats : ∀ x ∈ (nested Json.nestingLimit).floats, Json.ReadsBack x := by
      simp [floats_nested]
    rw [Json.readText_text_of_le (isCanonical_nested _) hfloats (depth_nested _).ge]
    intro h
    cases h
  · apply lost_of_readText_ne
    have hne : (Json.readText Json.Reader.any (Json.text (.float 1.7976931348623157))).toOption ≠
        some (.float 1.7976931348623157) := by decide +kernel
    intro h
    rw [h] at hne
    exact hne rfl

end Database
end MessageQueue
