import MessageQueue.Database.Statement
import MessageQueue.Json.Reader

/-!
# Questions to an agent

A question names its agent and a chat model and may set four more things.  As a statement
it lists a clause for each thing that is set, in a fixed order; values are parameters and
never part of the text.

Main results:

- Theorem `statement_params`: the parameters are the values of the clauses in their order.
- Theorem `sql_congr`: the text only tells which clauses there are.
-/

namespace MessageQueue

open Database (Param Statement)

/-- A question. -/
structure RagRequest where
  agentName : String
  query : String
  chatModel : String
  promptTemplate : Option String
  apiKey : Option String
  numContext : Option Int
  forceTrim : Option Bool
deriving DecidableEq, Repr

namespace RagRequest

/-- The chat model, unless told otherwise. -/
def defaultChatModel : String := "gpt-3.5-turbo"

/-- A question that sets nothing else. -/
def new (agentName query : String) : RagRequest :=
  ⟨agentName, query, defaultChatModel, none, none, none, none⟩

/-! ## Settings -/

/-- One thing that is set of a question. -/
inductive Setting where
  | chatModel (model : String)
  | promptTemplate (template : String)
  | apiKey (key : String)
  | numContext (n : Int)
  | forceTrim (trim : Bool)
deriving DecidableEq, Repr

/-- The question with one thing set, whatever it was before. -/
def set (r : RagRequest) : Setting → RagRequest
  | .chatModel model => { r with chatModel := model }
  | .promptTemplate template => { r with promptTemplate := some template }
  | .apiKey key => { r with apiKey := some key }
  | .numContext n => { r with numContext := some n }
  | .forceTrim trim => { r with forceTrim := some trim }

/-- The question with some things set one after the other. -/
def setAll (r : RagRequest) (settings : List Setting) : RagRequest :=
  settings.foldl set r

/-! ## The statement -/

/-- The clauses that may be left out. -/
def optionalClauses (r : RagRequest) : List (Option (String × Param)) :=
  [r.promptTemplate.map fun t => ("task", .text t),
    r.apiKey.map fun k => ("api_key", .text k),
    r.numContext.map fun n => ("num_context", .int4 n),
    r.forceTrim.map fun b => ("force_trim", .bool b)]

/-- The clauses of a question with their values. -/
def clauses (r : RagRequest) : List (String × Param) :=
  [("agent_name", .text r.agentName), ("query", .text r.query),
    ("chat_model", .text r.chatModel)] ++ r.optionalClauses.filterMap id

/-- The text of the clauses from a position on. -/
def clauseTexts : (position : Nat) → (names : List String) → List String
  | _, [] => []
  | position, name :: rest =>
    (name ++ " => " ++ Database.placeholder position) :: clauseTexts (position + 1) rest

/-- The text that asks with clauses of some names. -/
def sqlOf (names : List String) : String :=
  "SELECT vectorize.rag(" ++ ", ".intercalate (clauseTexts 1 names) ++ ") AS resp"

/-- The question as a statement. -/
def statement (r : RagRequest) : Statement where
  sql := sqlOf (r.clauses.map Prod.fst)
  params := r.clauses.map Prod.snd

/-- The parameters are the values of the clauses in their order. -/
theorem statement_params (r : RagRequest) : r.statement.params = r.clauses.map Prod.snd := rfl

/-- The text only tells which clauses there are. -/
theorem sql_congr {r s : RagRequest} (h : r.clauses.map Prod.fst = s.clauses.map Prod.fst) :
    r.statement.sql = s.statement.sql := by
  rw [statement, statement, h]

/-! ## JSON -/

/-- A question is written as an object of its fields. -/
def toJson (r : RagRequest) : Json :=
  let text : Option String → Json := fun o => o.elim .null .string
  .object [("agent_name", .string r.agentName), ("query", .string r.query),
    ("chat_model", .string r.chatModel), ("prompt_template", text r.promptTemplate),
    ("api_key", text r.apiKey), ("num_context", r.numContext.elim .null .int),
    ("force_trim", r.forceTrim.elim .null .bool)]

/-- A question is read from an object or array; the last four fields may be missing. -/
def reader : Json.Reader RagRequest :=
  let fields := Json.Fields.cons "agent_name" Json.Reader.string .required <|
    .cons "query" Json.Reader.string .required <|
    .cons "chat_model" Json.Reader.string .required <|
    .cons "prompt_template" (Json.Reader.optional Json.Reader.string) (.defaulted none) <|
    .cons "api_key" (Json.Reader.optional Json.Reader.string) (.defaulted none) <|
    .cons "num_context" (Json.Reader.optional (Json.Reader.integer .signed32))
      (.defaulted none) <|
    .cons "force_trim" (Json.Reader.optional Json.Reader.bool) (.defaulted none) .nil
  (fields.read "RagRequest").refine
    fun (agent, query, model, template, key, context, trim, _) =>
      .ok ⟨agent, query, model, template, key, context, trim⟩

end RagRequest
end MessageQueue
