import MessageQueue.Database.Statement
import MessageQueue.Queue.Name

/-!
# Agents and their document tables

An agent keeps its documents in a table of its own.  The name of the agent becomes part of
the name of the table, so it is held to the characters of queue names.

Main results:

- Theorem `ofName_eq_ok_iff`: the grammar of agent names.
-/

namespace MessageQueue

/-- The schema of all document tables. -/
def ragSchema : String := "vectorize"

/-- An agent and the model that embeds its documents. -/
structure RagProject where
  agentName : String
  transformer : String
deriving DecidableEq, Repr

/-- Why a text is no agent name. -/
inductive AgentNameError where
  | empty
  | badCharacter (name : String)
deriving DecidableEq, Repr

/-- The wording of an agent name error. -/
def AgentNameError.message : AgentNameError → String
  | empty => "Agent name cannot be empty"
  | badCharacter name => "Agent name must be ASCII alphanumeric or '_': " ++ name

namespace RagProject

/-- The model that embeds documents, unless told otherwise. -/
def defaultTransformer : String := "sentence-transformers/all-MiniLM-L12-v2"

/-- The agent of a name. -/
def ofName (name : String) : Except AgentNameError RagProject :=
  if name.isEmpty then .error .empty
  else if name.toList.all isNameChar then .ok ⟨name, defaultTransformer⟩
  else .error (.badCharacter name)

/-- The texts of one or more name characters name agents, at any length. -/
theorem ofName_eq_ok_iff {name : String} {p : RagProject} :
    ofName name = .ok p ↔
      (name ≠ "" ∧ ∀ c ∈ name.toList, isNameChar c = true) ∧ p = ⟨name, defaultTransformer⟩ := by
  unfold ofName
  by_cases hempty : name = ""
  · simp [hempty]
  by_cases hall : ∀ c ∈ name.toList, isNameChar c = true
  · rw [if_neg (by simpa using hempty), if_pos (List.all_eq_true.2 hall)]
    exact ⟨fun h => ⟨⟨hempty, hall⟩, (Except.ok.inj h).symm⟩, fun h => by rw [h.2]⟩
  · rw [if_neg (by simpa using hempty), if_neg (fun h => hall (List.all_eq_true.1 h))]
    exact ⟨fun h => (by cases h), fun h => absurd h.1.2 hall⟩

/-- The agent with another model for its documents. -/
def withTransformer (p : RagProject) (transformer : String) : RagProject :=
  { p with transformer }

/-- The name of the document table within the schema. -/
def tableName (p : RagProject) : String := "_data_" ++ p.agentName

/-- The name of the document table with the schema. -/
def qualifiedTable (p : RagProject) : String := ragSchema ++ "." ++ p.tableName

/-- The text that creates the document table, unless it is there already. -/
def createTableSql (p : RagProject) : String :=
  "CREATE TABLE IF NOT EXISTS " ++ p.qualifiedTable ++ " (" ++
    "record_id BIGINT GENERATED ALWAYS AS IDENTITY PRIMARY KEY, " ++
    "document_name TEXT NOT NULL, chunk_id TEXT NOT NULL, meta JSONB, content TEXT NOT NULL)"

/-- The text that inserts documents, with an array of values for each column. -/
def insertDocumentsSql (p : RagProject) : String :=
  "INSERT INTO " ++ p.qualifiedTable ++ " (document_name, chunk_id, meta, content) " ++
    "SELECT * FROM UNNEST($1::text[], $2::text[], $3::jsonb[], $4::text[])"

end RagProject
end MessageQueue
