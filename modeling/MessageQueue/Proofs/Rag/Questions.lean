import MessageQueue.Proofs.Database.Exchanges
import MessageQueue.Rag.Agent

/-!
# Statements of questions

A question is put together by setting things one after the other, and what was set last counts.
Its statement has a clause for each argument that has a value.  The text tells which arguments
those are and numbers them; the values stand beside it in the same order.  So no value gets into
the text, and nothing about a question is lost in its statement.

Main results:

- Theorem `value?_setAll`: an argument has the value that it was last given.
- Theorem `clauses_eq`: the clauses are the arguments with a value, in a fixed order.
- Theorem `sql_eq_iff`: two texts are the same when the same options have a value.
- Theorem `statement_injective`: different questions have different statements.
- Theorem `questions_bind_values`: all of it, up to what a server is sent.
-/

namespace MessageQueue
namespace RagRequest

open Database (Exchange Outcome Param Server Statement)

variable {σ : Type}

/-! ## Arguments -/

/-- The arguments that a question may have. -/
inductive Argument where
  | agentName
  | query
  | chatModel
  | task
  | apiKey
  | numContext
  | forceTrim
deriving DecidableEq, Repr

namespace Argument

/-- The name of an argument in a clause. -/
def name : Argument → String
  | agentName => "agent_name"
  | query => "query"
  | chatModel => "chat_model"
  | task => "task"
  | apiKey => "api_key"
  | numContext => "num_context"
  | forceTrim => "force_trim"

/-- All arguments in the order of their clauses. -/
def all : List Argument := [agentName, query, chatModel, task, apiKey, numContext, forceTrim]

/-- The arguments that may be left out. -/
def options : List Argument := [task, apiKey, numContext, forceTrim]

theorem mem_all (a : Argument) : a ∈ all := by
  cases a <;> decide

theorem name_injective : Function.Injective name := by
  intro a b h
  cases a <;> cases b <;> first | rfl | exact absurd h (by decide)

/-- A name is one word. -/
theorem blank_not_mem_name (a : Argument) : ' ' ∉ a.name.toList := by
  cases a <;> decide

end Argument

/-- The value of an argument, with its type. -/
def value? (r : RagRequest) : Argument → Option Param
  | .agentName => some (.text r.agentName)
  | .query => some (.text r.query)
  | .chatModel => some (.text r.chatModel)
  | .task => r.promptTemplate.map .text
  | .apiKey => r.apiKey.map .text
  | .numContext => r.numContext.map .int4
  | .forceTrim => r.forceTrim.map .bool

/-- The arguments that have a value, in the order of their clauses. -/
def arguments (r : RagRequest) : List Argument :=
  Argument.all.filter fun a => (r.value? a).isSome

theorem mem_arguments_iff {r : RagRequest} {a : Argument} :
    a ∈ r.arguments ↔ (r.value? a).isSome := by
  simp [arguments, Argument.mem_all]

/-- A question is known by the values of its arguments. -/
theorem value?_injective : Function.Injective value? := by
  intro r s h
  have htext : Function.Injective Param.text := fun _ _ h => by injection h
  have hint : Function.Injective Param.int4 := fun _ _ h => by injection h
  have hbool : Function.Injective Param.bool := fun _ _ h => by injection h
  cases r with
  | mk agent query model template key context trim =>
      cases s with
      | mk agent' query' model' template' key' context' trim' =>
          obtain rfl := htext (Option.some.inj (congrFun h .agentName))
          obtain rfl := htext (Option.some.inj (congrFun h .query))
          obtain rfl := htext (Option.some.inj (congrFun h .chatModel))
          obtain rfl := Option.map_injective htext (congrFun h .task)
          obtain rfl := Option.map_injective htext (congrFun h .apiKey)
          obtain rfl := Option.map_injective hint (congrFun h .numContext)
          obtain rfl := Option.map_injective hbool (congrFun h .forceTrim)
          rfl

/-! ## What was set last -/

namespace Setting

/-- The argument that a setting is about. -/
def argument : Setting → Argument
  | .chatModel _ => .chatModel
  | .promptTemplate _ => .task
  | .apiKey _ => .apiKey
  | .numContext _ => .numContext
  | .forceTrim _ => .forceTrim

/-- The value that a setting gives to it. -/
def param : Setting → Param
  | .chatModel model => .text model
  | .promptTemplate template => .text template
  | .apiKey key => .text key
  | .numContext n => .int4 n
  | .forceTrim trim => .bool trim

end Setting

/-- The last of some settings that is about an argument. -/
def last? (settings : List Setting) (a : Argument) : Option Setting :=
  (settings.filter fun s => s.argument = a).getLast?

/-- A setting gives its argument a value, and leaves all others alone. -/
theorem value?_set (r : RagRequest) (s : Setting) (a : Argument) :
    (r.set s).value? a = if s.argument = a then some s.param else r.value? a := by
  cases s <;> cases a <;> rfl

/-- After some settings an argument has the value that the last one about it gave. -/
theorem value?_setAll (r : RagRequest) (settings : List Setting) (a : Argument) :
    (r.setAll settings).value? a = ((last? settings a).map Setting.param).or (r.value? a) := by
  induction settings generalizing r with
  | nil => rfl
  | cons s rest ih =>
      have hstep : (r.setAll (s :: rest)).value? a = ((r.set s).setAll rest).value? a := rfl
      rw [hstep, ih, value?_set]
      unfold last?
      by_cases hs : s.argument = a
      · simp only [List.filter_cons, hs, decide_true, if_true, List.getLast?_cons]
        cases (rest.filter fun s => s.argument = a).getLast? <;> rfl
      · simp [hs]

/-- Only the last setting of each argument counts. -/
theorem setAll_eq_of_last? (r : RagRequest) {settings settings' : List Setting}
    (h : ∀ a, last? settings' a = last? settings a) : r.setAll settings' = r.setAll settings := by
  apply value?_injective
  funext a
  rw [value?_setAll, value?_setAll, h]

/-! ## Clauses -/

/-- The clauses are the arguments that have a value, each with its value. -/
theorem clauses_eq (r : RagRequest) :
    r.clauses.map (fun c => (c.1, some c.2)) = r.arguments.map fun a => (a.name, r.value? a) := by
  rcases r with ⟨agent, query, model, _ | template, _ | key, _ | context, _ | trim⟩ <;> rfl

theorem names_clauses (r : RagRequest) :
    r.clauses.map Prod.fst = r.arguments.map Argument.name := by
  have h := congrArg (List.map Prod.fst) (clauses_eq r)
  rwa [List.map_map, List.map_map] at h

/-- The parameters are the values of the arguments in their order. -/
theorem map_some_params (r : RagRequest) :
    r.statement.params.map some = r.arguments.map r.value? := by
  have h := congrArg (List.map Prod.snd) (clauses_eq r)
  rw [List.map_map, List.map_map] at h
  rw [statement_params, List.map_map]
  exact h

/-- A clause has a name and a number. -/
theorem clause_eq (name : String) (position : Nat) :
    name ++ " => " ++ Database.placeholder position = name ++ " => $" ++ toString position := by
  have hdollar : Database.placeholder position = "$" ++ toString position := rfl
  have hmark : " => $" = " => " ++ "$" := rfl
  rw [hdollar, hmark, ← String.append_assoc, ← String.append_assoc]

/-- The clauses are numbered one after the other. -/
theorem getElem?_clauseTexts (position : Nat) (names : List String) (i : Nat) :
    (clauseTexts position names)[i]? =
      names[i]?.map fun name => name ++ " => $" ++ toString (position + i) := by
  induction names generalizing position i with
  | nil => rfl
  | cons name rest ih =>
      cases i with
      | zero => rw [clauseTexts, clause_eq]; rfl
      | succ i =>
          rw [clauseTexts, List.getElem?_cons_succ, List.getElem?_cons_succ, ih,
            Nat.add_right_comm, Nat.add_assoc]

theorem length_clauseTexts (position : Nat) (names : List String) :
    (clauseTexts position names).length = names.length := by
  induction names generalizing position with
  | nil => rfl
  | cons name rest ih => rw [clauseTexts, List.length_cons, List.length_cons, ih]

/-! ## Texts -/

/-- How a text goes on with clauses behind others. -/
def more (position : Nat) (names : List String) : String :=
  if names = [] then "" else ", " ++ ", ".intercalate (clauseTexts position names)

/-- One more clause. -/
theorem more_cons (position : Nat) (name : String) (names : List String) :
    more position (name :: names) = ", " ++ (name ++ (" => " ++
      (Database.placeholder position ++ more (position + 1) names))) := by
  cases names with
  | nil => simp [more, clauseTexts, String.append_assoc]
  | cons next rest =>
      simp only [more, clauseTexts, String.intercalate_cons_cons, String.append_assoc,
        List.cons_ne_nil, if_false]

/-- A word ends at the first blank. -/
theorem append_blank_inj {word word' text text' : String} (h : ' ' ∉ word.toList)
    (h' : ' ' ∉ word'.toList) (heq : word ++ (" => " ++ text) = word' ++ (" => " ++ text')) :
    word = word' ∧ text = text' := by
  have htake : ∀ {word : String}, ' ' ∉ word.toList → ∀ text : String,
      (word ++ (" => " ++ text)).toList.takeWhile (· ≠ ' ') = word.toList := by
    intro word h text
    have hword : ∀ c ∈ word.toList, decide (c ≠ ' ') = true := by
      intro c hc
      exact decide_eq_true fun hblank => h (hblank ▸ hc)
    rw [String.toList_append, List.takeWhile_append_of_pos hword, String.toList_append]
    exact List.append_nil _
  obtain rfl : word = word' := by
    have hword := htake h text
    rw [heq, htake h'] at hword
    exact String.toList_inj.1 hword.symm
  rw [String.append_right_inj, String.append_right_inj] at heq
  exact ⟨rfl, heq⟩

/-- Clauses tell the names that they were made of. -/
theorem more_inj {position : Nat} {names names' : List String}
    (h : ∀ name ∈ names, ' ' ∉ name.toList) (h' : ∀ name ∈ names', ' ' ∉ name.toList)
    (heq : more position names = more position names') : names = names' := by
  have hcons : ∀ position name names, more position (name :: names) ≠ "" := by
    intro position name names hempty
    simp [more] at hempty
  induction names generalizing position names' with
  | nil =>
      cases names' with
      | nil => rfl
      | cons name' rest' => exact absurd heq.symm (hcons position name' rest')
  | cons name rest ih =>
      cases names' with
      | nil => exact absurd heq (hcons position name rest)
      | cons name' rest' =>
          rw [more_cons, more_cons, String.append_right_inj] at heq
          obtain ⟨rfl, hrest⟩ := append_blank_inj (h name (List.mem_cons_self ..))
            (h' name' (List.mem_cons_self ..)) heq
          rw [String.append_right_inj] at hrest
          rw [ih (fun n hn => h n (List.mem_cons_of_mem _ hn))
            (fun n hn => h' n (List.mem_cons_of_mem _ hn)) hrest]

/-- A text tells the names of its clauses. -/
theorem sqlOf_inj {names names' : List String} (hne : names ≠ []) (hne' : names' ≠ [])
    (h : ∀ name ∈ names, ' ' ∉ name.toList) (h' : ∀ name ∈ names', ' ' ∉ name.toList)
    (heq : sqlOf names = sqlOf names') : names = names' := by
  have hclauses := (String.append_right_inj _).1 ((String.append_left_inj _).1 heq)
  have hmore : more 1 names = more 1 names' := by
    rw [more, more, if_neg hne, if_neg hne', hclauses]
  exact more_inj h h' hmore

/-- The text tells the arguments that have a value. -/
theorem arguments_of_sql {r s : RagRequest} (h : r.statement.sql = s.statement.sql) :
    r.arguments = s.arguments := by
  have hne : ∀ r : RagRequest, r.clauses.map Prod.fst ≠ [] := fun r => List.cons_ne_nil _ _
  have hwords : ∀ r : RagRequest, ∀ name ∈ r.clauses.map Prod.fst, ' ' ∉ name.toList := by
    intro r name hname
    rw [names_clauses] at hname
    obtain ⟨a, -, rfl⟩ := List.mem_map.1 hname
    exact a.blank_not_mem_name
  have heq := sqlOf_inj (hne r) (hne s) (hwords r) (hwords s) h
  rw [names_clauses, names_clauses] at heq
  exact (List.map_inj_right fun _ _ hname => Argument.name_injective hname).1 heq

/-- Two texts are the same when the same options have a value, whatever the values. -/
theorem sql_eq_iff {r s : RagRequest} :
    r.statement.sql = s.statement.sql ↔
      ∀ a ∈ Argument.options, (r.value? a).isSome = (s.value? a).isSome := by
  constructor
  · intro h a _
    rw [Bool.eq_iff_iff, ← mem_arguments_iff, ← mem_arguments_iff, arguments_of_sql h]
  · intro h
    have hall : ∀ a, (r.value? a).isSome = (s.value? a).isSome := by
      intro a
      cases a with
      | agentName | query | chatModel => rfl
      | task | apiKey | numContext | forceTrim => exact h _ (by decide)
    apply sql_congr
    rw [names_clauses, names_clauses, arguments, arguments]
    simp only [hall]

/-- Different questions have different statements. -/
theorem statement_injective : Function.Injective statement := by
  intro r s h
  have hargs : r.arguments = s.arguments := arguments_of_sql (congrArg Statement.sql h)
  have hvalues : r.arguments.map r.value? = r.arguments.map s.value? := by
    rw [← map_some_params r, h, map_some_params s, hargs]
  apply value?_injective
  funext a
  by_cases ha : a ∈ r.arguments
  · exact List.map_inj_left.1 hvalues a ha
  · have hnone : ∀ {r : RagRequest}, a ∉ r.arguments → r.value? a = none := by
      intro r ha
      rwa [mem_arguments_iff, Option.not_isSome_iff_eq_none] at ha
    rw [hnone ha, hnone (hargs ▸ ha)]

/-! ## What is sent -/

/-- A question sends its statement, and nothing else. -/
theorem ask_sends (server : Server σ) (r : RagRequest) (w : World σ) :
    (Rag.ask server.recorded r (w.withNotes [])).2.store.2.map Exchange.action =
      [.run r.statement] := by
  have hsent : ∀ {α : Type} {read : Outcome → Except Database.DriverError α}
      {result : Except QueueError α} {w' : World (σ × List Exchange)},
      Database.fetch server.recorded none r.statement read (w.withNotes []) = (result, w') →
        w'.store.2.map Exchange.action = [.run r.statement] := by
    rintro α read result w' ⟨⟩
    rfl
  rw [Rag.ask, Session.run_bind]
  split
  next h =>
    -- A response is logged, which sends nothing.
    have hactions := hsent h
    exact hactions
  next h => exact hsent h

/-- How a statement renders a question. -/
structure Renders (r : RagRequest) (statement : Statement) : Prop where
  /-- The clauses are about arguments in their order, those that have a value; each clause has the
  name of its argument and its number, and the parameter of that number is the value. -/
  clauses : ∃ (args : List Argument) (clauses : List String),
    args.Sublist Argument.all ∧
      (∀ a, a ∈ args ↔ (r.value? a).isSome) ∧
      statement.sql = "SELECT vectorize.rag(" ++ ", ".intercalate clauses ++ ") AS resp" ∧
      clauses.length = args.length ∧
      statement.params.length = args.length ∧
      ∀ i a, args[i]? = some a →
        clauses[i]? = some (a.name ++ " => $" ++ toString (i + 1)) ∧
          statement.params[i]? = r.value? a

/-- A question is rendered by its statement. -/
theorem renders_statement (r : RagRequest) : Renders r r.statement := by
  have hparams := map_some_params r
  refine ⟨r.arguments, clauseTexts 1 (r.clauses.map Prod.fst), List.filter_sublist,
    fun a => mem_arguments_iff, rfl, ?_, ?_, ?_⟩
  · rw [length_clauseTexts, names_clauses, List.length_map]
  · simpa using congrArg List.length hparams
  · intro i a ha
    constructor
    · rw [getElem?_clauseTexts, names_clauses, List.getElem?_map, ha, Nat.add_comm]
      rfl
    · have hvalue := congrArg (·[i]?) hparams
      simp only [List.getElem?_map, ha] at hvalue
      obtain ⟨param, hparam, hsome⟩ := Option.map_eq_some_iff.1 hvalue
      rw [hparam, hsome]

/-- What is so of a question that was put together by some settings, and of its statement. -/
structure BindsValues (agent query : String) (settings : List Setting) (r : RagRequest) :
    Prop where
  /-- The statement renders the question. -/
  renders : Renders r r.statement
  /-- An argument has the value that it was last given, or the one that it began with. -/
  values : ∀ a, r.value? a =
    ((last? settings a).map Setting.param).or ((new agent query).value? a)
  /-- The statement depends on nothing but the last setting of each argument. -/
  last : ∀ settings', (∀ a, last? settings' a = last? settings a) →
    ((new agent query).setAll settings').statement = r.statement
  /-- The text depends on nothing but which options have a value. -/
  text : ∀ s : RagRequest, s.statement.sql = r.statement.sql ↔
    ∀ a ∈ Argument.options, (s.value? a).isSome = (r.value? a).isSome
  /-- No other question has the same statement. -/
  faithful : ∀ s : RagRequest, s.statement = r.statement → s = r
  /-- A server that is asked is sent this statement, and nothing else. -/
  sent : ∀ {σ : Type} (server : Server σ) (w : World σ),
    (Rag.ask server.recorded r (w.withNotes [])).2.store.2.map Exchange.action =
      [.run r.statement]

/-- Every question, whatever was set of it and how often, is sent as one statement whose text
names the arguments that have a value, and whose parameters are those values in their order. -/
theorem questions_bind_values (agent query : String) (settings : List Setting) :
    BindsValues agent query settings ((new agent query).setAll settings) where
  renders := renders_statement _
  values := value?_setAll _ settings
  last settings' h := by rw [setAll_eq_of_last? _ h]
  text _ := sql_eq_iff
  faithful _ h := statement_injective h
  sent server w := ask_sends server _ w

end RagRequest
end MessageQueue
