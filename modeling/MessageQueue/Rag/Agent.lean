import MessageQueue.Database.Server
import MessageQueue.Rag.Document
import MessageQueue.Rag.Project
import MessageQueue.Rag.Request

/-!
# Work with agents

Registering agents, loading their documents, adding prompts and asking questions, all by
statements to a server.  Documents are inserted in batches within one transaction, so that
a failure leaves none of them behind.

Main results:

- Theorem `flatten_batches`: the batches hold every chunk once, in order.
- Theorem `length_le_of_mem_batches`: no batch is larger than allowed.
-/

namespace MessageQueue
namespace Rag

open Database (Server Statement Outcome)

variable {σ α : Type}

/-! ## Questions -/

/-- Asks a question. -/
def ask (server : Server σ) (r : RagRequest) : Session σ QueueError ChatResponse := do
  let response ← Database.fetch server none r.statement fun o =>
    o.one fun row => row.first (.json ChatResponse.reader)
  Session.emit (.debug "RAG query answered" [("agent", .text r.agentName),
    ("chat_model", .text r.chatModel),
    ("context_items", .integer (response.context.length : Nat))])
  return response

/-! ## Agents -/

/-- The statement that creates the document table of an agent. -/
def createTable (p : RagProject) : Statement := ⟨p.createTableSql, []⟩

/-- The text that registers an agent. -/
def registerSql : String :=
  "SELECT vectorize.init_rag(agent_name => $1, table_name => $2, schema => $3, " ++
    "unique_record_id => 'record_id', \"column\" => 'content', transformer => $4)"

/-- The statement that registers an agent. -/
def registration (p : RagProject) : Statement :=
  ⟨registerSql, [.text p.agentName, .text p.tableName, .text ragSchema, .text p.transformer]⟩

/-- Creates the document table of an agent and registers it. -/
def register (server : Server σ) (p : RagProject) : Session σ QueueError Unit := do
  let _ ← Database.execute server none (createTable p)
  let _ ← Database.execute server none (registration p)
  Session.emit (.info "RAG project initialized" [("agent", .text p.agentName),
    ("table", .text p.tableName), ("transformer", .text p.transformer)])

/-! ## Documents -/

/-- Chunks in a batch. -/
def batchSize : Nat := 1000

/-- Cuts a list into pieces of one more than `n`, of which the last may be shorter. -/
def batches (n : Nat) (xs : List α) : List (List α) :=
  match xs with
  | [] => []
  | x :: rest => (x :: rest.take n) :: batches n (rest.drop n)
termination_by xs.length
decreasing_by simp only [List.length_cons, List.length_drop]; omega

/-- The batches hold everything once, in order. -/
theorem flatten_batches (n : Nat) (xs : List α) : (batches n xs).flatten = xs := by
  fun_induction batches n xs with
  | case1 => rfl
  | case2 x rest ih => simp [ih]

/-- No batch is larger than allowed, and none is empty. -/
theorem length_le_of_mem_batches {n : Nat} {xs batch : List α} (h : batch ∈ batches n xs) :
    0 < batch.length ∧ batch.length ≤ n + 1 := by
  fun_induction batches n xs with
  | case1 => simp at h
  | case2 x rest ih =>
    rcases List.mem_cons.1 h with rfl | h
    · simp only [List.length_cons, List.length_take]
      omega
    · exact ih h

/-- The statement that inserts a batch of chunks. -/
def insertBatch (p : RagProject) (batch : List DocumentChunk) : Statement :=
  ⟨p.insertDocumentsSql,
    [.textArray (batch.map DocumentChunk.documentName), .textArray (batch.map DocumentChunk.chunkId),
      .jsonbArray (batch.map DocumentChunk.details), .textArray (batch.map DocumentChunk.content)]⟩

/-- Adds rows to a count of 64 bits, unless they leave its range. -/
def addRows (loaded count : Nat) : Session σ Failure Nat :=
  .ofExcept
    (if (loaded + count : Nat) ≤ Text.IntType.unsigned64.highest then .ok (loaded + count)
      else .error .overflow)

/-- Inserts batches after so many rows were counted; gives the count of all rows. -/
def insertBatches (server : Server σ) (p : RagProject) (total : Nat) :
    (loaded : Nat) → List (List DocumentChunk) → Session σ Failure Nat
  | loaded, [] => return loaded
  | loaded, batch :: rest => do
    let count ← Session.mapError .reported (Database.execute server none (insertBatch p batch))
    let loaded ← addRows loaded count
    Session.emit (.debug "Document batch written" [("agent", .text p.agentName),
      ("loaded", .integer loaded), ("total", .integer total)])
    insertBatches server p total loaded rest

/-- Loads chunks into the table of an agent, which is created when it is not there; gives the
count of rows written. -/
def loadDocuments (server : Server σ) (p : RagProject) (chunks : List DocumentChunk) :
    Session σ Failure Nat := do
  let _ ← Session.mapError .reported (Database.execute server none (createTable p))
  if chunks.isEmpty then return 0
  Session.mapError .reported (Database.perform server none .begin fun _ => .ok ())
  let loaded ← insertBatches server p chunks.length 0 (batches (batchSize - 1) chunks)
  Session.mapError .reported (Database.perform server none .commit fun _ => .ok ())
  Session.emit (.info "Documents loaded" [("agent", .text p.agentName),
    ("table", .text p.tableName), ("loaded", .integer loaded)])
  return loaded

/-- The error that a failure is reported as. -/
def errorOf : Failure → QueueError
  | .reported e => e
  | .overflow => .database "count of rows out of range"

/-- Loads chunks and reports every failure. -/
def load (server : Server σ) (p : RagProject) (chunks : List DocumentChunk) :
    Session σ QueueError Nat :=
  Session.mapError errorOf (loadDocuments server p chunks)

/-! ## Prompts -/

/-- The text that adds a prompt. -/
def addPromptSql : String :=
  "INSERT INTO vectorize.prompts (prompt_type, sys_prompt, user_prompt) VALUES ($1, $2, $3)"

/-- Adds a prompt that questions can name as their template. -/
def addPrompt (server : Server σ) (name system user : String) : Session σ QueueError Unit := do
  let _ ← Database.execute server none ⟨addPromptSql, [.text name, .text system, .text user]⟩
  Session.emit (.info "Prompt template added" [("prompt", .text name)])

end Rag
end MessageQueue
