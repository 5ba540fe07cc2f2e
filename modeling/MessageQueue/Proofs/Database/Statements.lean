import MessageQueue.Proofs.Client.Operations
import MessageQueue.Proofs.Database.Exchanges
import MessageQueue.Proofs.Database.Replies

/-!
# Statements of operations

A client around the store behind a server sends one statement for an operation that passes its
checks, and none for one that is refused, whatever the server answers.  The text of the statement
is fixed by the method that was called and, where a queue may be plain or cut into partitions, by
that choice.  All values travel beside the text, one for each position that the text names.

Main results:

- Theorems `positions_sql` and `highestPosition_sql`: the texts name exactly the positions of their
  values.
- Theorem `statementOf_plan`: the request of a plan is stated by the method and the values of its
  operation.
- Theorem `one_bound_statement`: every operation sends at most one statement, of a fixed text and
  with all its values bound.
-/

namespace MessageQueue
namespace Client

open Database (Action Exchange Param RequestKind Server Statement decimal kindOf run_store
  statementOf)

variable {σ τ α β : Type}

/-! ## Methods -/

/-- The methods of a client, with the one choice that a text depends on. -/
inductive Method where
  | create
  | createPartitioned
  | createWith (partitioned : Bool)
  | send
  | sendDelayed
  | read
  | readBatch
  | pop
  | setVisibility
  | archive
  | delete
  | drop
  | list
  | metrics
deriving DecidableEq, Repr

namespace Method

/-- The kind of request that a method makes. -/
def kind : Method → RequestKind
  | create | createWith false => .create
  | createPartitioned | createWith true => .createPartitioned
  | send | sendDelayed => .send
  | read | readBatch => .read
  | pop => .pop
  | setVisibility => .setVisibility
  | archive => .archive
  | delete => .delete
  | drop => .drop
  | list => .list
  | metrics => .metrics

/-- The text of the statement that a method sends. -/
def sql (m : Method) : String := m.kind.sql

/-- How many values a method binds. -/
def arity : Method → Nat
  | list => 0
  | create | createWith false | pop | drop | metrics => 1
  | send | sendDelayed | archive | delete => 2
  | createPartitioned | createWith true | read | readBatch | setVisibility => 3

end Method

/-! ## Positions -/

/-- The positions that a text names: the numbers behind its dollar signs. -/
def positions : List Char → List Nat
  | [] => []
  | c :: rest =>
    if c = '$' ∧ rest.takeWhile Char.isDigit ≠ [] then
      Nat.ofDigitChars 10 (rest.takeWhile Char.isDigit) 0 :: positions rest
    else positions rest

/-- The highest position that a text names, and zero if it names none. -/
def highestPosition (sql : String) : Nat := (positions sql.toList).foldr max 0

/-- The positions in the text for a kind of request.  The texts that create a queue name it twice:
once to look it up, and once to create it. -/
def places : RequestKind → List Nat
  | .create => [1, 1]
  | .createPartitioned => [1, 1, 2, 3]
  | .send | .archive | .delete => [1, 2]
  | .read | .setVisibility => [1, 2, 3]
  | .pop | .drop | .metrics => [1]
  | .list => []

theorem positions_kind (k : RequestKind) : positions k.sql.toList = places k := by
  cases k <;> decide +kernel

/-- The text of a method names the positions of its values, and no other. -/
theorem positions_sql (m : Method) (i : Nat) :
    i ∈ positions m.sql.toList ↔ 1 ≤ i ∧ i ≤ m.arity := by
  rw [Method.sql, positions_kind]
  have hnamed : ∀ i ∈ places m.kind, 1 ≤ i ∧ i ≤ m.arity := by
    cases m with
    | createWith partitioned => cases partitioned <;> decide
    | _ => decide
  have hall : ∀ i ≤ m.arity, 1 ≤ i → i ∈ places m.kind := by
    cases m with
    | createWith partitioned => cases partitioned <;> decide
    | _ => decide
  exact ⟨hnamed i, fun h => hall i h.2 h.1⟩

/-- The text of a method names as many positions as the method binds values. -/
theorem highestPosition_sql (m : Method) : highestPosition m.sql = m.arity := by
  rw [highestPosition, Method.sql, positions_kind]
  cases m with
  | createWith partitioned => cases partitioned <;> rfl
  | _ => rfl

namespace Operation

/-- The method that an operation calls. -/
def method : Operation → Method
  | create _ => .create
  | createPartitioned _ _ => .createPartitioned
  | createWith _ options => .createWith options.partitioned
  | send _ _ => .send
  | sendDelayed _ _ _ => .sendDelayed
  | read _ _ => .read
  | readBatch _ _ _ => .readBatch
  | pop _ => .pop
  | setVisibility _ _ _ => .setVisibility
  | archive _ _ => .archive
  | delete _ _ => .delete
  | drop _ => .drop
  | list => .list
  | metrics _ => .metrics

/-- The intervals of a queue in partitions, as decimal texts. -/
def intervalParams (options : QueueOptions) : List Param :=
  [.text (toString options.partitionInterval), .text (toString options.retentionInterval)]

/-- The values of an operation in their order: the queue first, and then what it is called with. -/
def params (defaultVisibility : Int) : Operation → List Param
  | create queue | pop queue | drop queue | metrics queue => [.text queue]
  | createPartitioned queue interval => .text queue :: intervalParams (.ofPartitions interval)
  | createWith queue options =>
    .text queue :: if options.partitioned then intervalParams options else []
  | send queue payload | sendDelayed queue payload _ =>
    .text queue :: (payload.toJson.toOption.map Param.jsonb).toList
  | read queue vt => [.text queue, .int4 (vt.getD defaultVisibility), .int4 1]
  | readBatch queue vt limit => [.text queue, .int4 (vt.getD defaultVisibility), .int4 limit]
  | setVisibility queue id vt => [.text queue, .int8 id, .int4 vt]
  | archive queue id | delete queue id => [.text queue, .int8 id]
  | list => []

/-- An operation that passes its checks binds as many values as its method. -/
theorem length_params {v : Int} {o : Operation} (h : o.refusal v = none) :
    (o.params v).length = o.method.arity := by
  have hpayload : ∀ {payload : Json.Datum}, payloadFault payload = none →
      (payload.toJson.toOption.map Param.jsonb).toList.length = 1 := by
    intro payload hnone
    obtain ⟨value, hvalue⟩ := exists_value_of_payloadFault hnone
    rw [hvalue]
    rfl
  cases o with
  | createWith queue options =>
      cases hpartitioned : options.partitioned <;>
        simp [params, method, Method.arity, hpartitioned, intervalParams]
  | send queue payload =>
      obtain ⟨-, hrest⟩ := findSome?_cons_eq_none.1 h
      rw [params, List.length_cons, hpayload (findSome?_cons_eq_none.1 hrest).1]
      rfl
  | sendDelayed queue payload seconds =>
      obtain ⟨-, hrest⟩ := findSome?_cons_eq_none.1 h
      obtain ⟨-, hrest⟩ := findSome?_cons_eq_none.1 hrest
      rw [params, List.length_cons, hpayload (findSome?_cons_eq_none.1 hrest).1]
      rfl
  | _ => rfl

/-! ## The statement of a plan -/

/-- A bound decimal text is the decimal text of the integer. -/
theorem decimal_eq (n : Int) : decimal n = .text (toString n) := by
  cases n with
  | ofNat m => rfl
  | negSucc m =>
      have htext : toString (Int.negSucc m) = "-" ++ Nat.repr (m + 1) := rfl
      rw [decimal, Json.integerText, if_pos (Int.negSucc_lt_zero m), htext]
      congr 1
      apply String.toList_inj.1
      rw [String.toList_ofList, String.toList_append, Nat.toList_repr]
      rfl

/-- The request of a plan is stated by the method and the values of its operation. -/
theorem statementOf_plan {v : Int} {d : Message.Decoder α} {o : Operation}
    {plan : Plan (o.Result α)} (h : Plans v d o plan) :
    statementOf plan.request = ⟨o.method.sql, o.params v⟩ := by
  cases h with
  | createPartitioned name interval =>
      simp [statementOf, kindOf, Database.paramsOf, method, Method.sql, Method.kind, params,
        intervalParams, decimal_eq, QueueOptions.ofPartitions]
  | createPlain name hpartitioned =>
      simp [statementOf, kindOf, Database.paramsOf, method, Method.sql, Method.kind, params,
        hpartitioned]
  | createInPartitions name hpartitioned =>
      simp [statementOf, kindOf, Database.paramsOf, method, Method.sql, Method.kind, params,
        intervalParams, decimal_eq, hpartitioned]
  | send name hvalue | sendDelayed name hvalue =>
      simp [statementOf, kindOf, Database.paramsOf, method, Method.sql, Method.kind, params,
        hvalue, Except.toOption]
  | _ => rfl

/-! ## What is sent -/

/-- The actions that a server is asked to do for an operation of a client around the store
behind it. -/
def actions (server : Server σ) (defaultVisibility : Int) (d : Message.Decoder α) (o : Operation)
    (w : World σ) : List Action :=
  (o.run ⟨Database.store server.recorded, defaultVisibility⟩ d (w.withNotes [])).2.store.2.map
    Exchange.action

/-- A refused operation sends nothing. -/
theorem actions_refused (server : Server σ) {v : Int} (d : Message.Decoder α) {o : Operation}
    {e : QueueError} (w : World σ) (h : o.refusal v = some e) : o.actions server v d w = [] := by
  have hrun : o.run ⟨Database.store server.recorded, v⟩ d (w.withNotes []) =
      (.error (.reported e), w.withNotes []) := run_refused h
  rw [actions, hrun]
  rfl

/-- Any other sends the statement of its method with its values. -/
theorem actions_planned (server : Server σ) {v : Int} (d : Message.Decoder α) {o : Operation}
    (w : World σ) (h : o.refusal v = none) :
    o.actions server v d w = [.run ⟨o.method.sql, o.params v⟩] := by
  obtain ⟨plan, hplan⟩ := exists_plan d h
  have hrun : o.run ⟨Database.store server.recorded, v⟩ d (w.withNotes []) =
      plan.finish (Database.store server.recorded plan.request (w.withNotes [])) :=
    run_planned hplan h
  rw [actions, hrun, Plan.finish_store, (run_store server.recorded plan.request _).2,
    statementOf_plan hplan]
  rfl

/-- What a server is sent for an operation: nothing, or one statement with its values bound. -/
structure BoundStatement (server : Server σ) (v : Int) (d : Message.Decoder α) (o : Operation)
    (w : World σ) : Prop where
  /-- An operation that the client refuses sends nothing. -/
  refused : ∀ e, o.refusal v = some e → o.actions server v d w = []
  /-- Any other sends one statement: the text of its method, and its values in their order. -/
  sent : o.refusal v = none → o.actions server v d w = [.run ⟨o.method.sql, o.params v⟩]
  /-- There are as many values as the highest position in the text tells. -/
  highest : o.refusal v = none → highestPosition o.method.sql = (o.params v).length
  /-- Every value has its position in the text, and every position its value. -/
  bound : o.refusal v = none →
    ∀ i, i ∈ positions o.method.sql.toList ↔ 1 ≤ i ∧ i ≤ (o.params v).length

/-- Every operation sends at most one statement, whose text is that of its method and whose values
are all bound; operations of one method send one text, whatever they are called with and
whichever server they meet. -/
theorem one_bound_statement (server : Server σ) (v : Int) (d : Message.Decoder α)
    (o : Operation) (w : World σ) :
    BoundStatement server v d o w ∧
      ∀ {τ β : Type} (server' : Server τ) (v' : Int) (d' : Message.Decoder β) (o' : Operation)
        (w' : World τ), o'.method = o.method → o.refusal v = none → o'.refusal v' = none →
        ∃ text, o.actions server v d w = [.run ⟨text, o.params v⟩] ∧
          o'.actions server' v' d' w' = [.run ⟨text, o'.params v'⟩] := by
  constructor
  · constructor
    · exact fun e he => actions_refused server d w he
    · exact actions_planned server d w
    · intro h
      rw [highestPosition_sql, length_params h]
    · intro h i
      rw [positions_sql, length_params h]
  · intro τ β server' v' d' o' w' hmethod h h'
    refine ⟨o.method.sql, actions_planned server d w h, ?_⟩
    rw [actions_planned server' d' w' h', hmethod]

end Operation
end Client
end MessageQueue
