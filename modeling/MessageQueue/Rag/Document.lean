import MessageQueue.Json.Reader
import MessageQueue.Text.Blank

/-!
# Documents and answers

A document comes in chunks that were cut beforehand, in a file with a chunk on each line
that is not blank.  An answer is a text with the context it was drawn from.

Main results:

- Theorem `readChunksFrom_blank`: blank lines hold no chunks.
-/

namespace MessageQueue

/-! ## Chunks -/

/-- A piece of a document. -/
structure DocumentChunk where
  documentName : String
  chunkId : String
  details : Option Json
  content : String
deriving DecidableEq

namespace DocumentChunk

/-- A chunk is written as an object of its fields. -/
def toJson (c : DocumentChunk) : Json :=
  .object [("document_name", .string c.documentName), ("chunk_id", .string c.chunkId),
    ("meta", c.details.getD .null), ("content", .string c.content)]

/-- A chunk is read from an object or array; null stands for no details, as does their
absence. -/
def reader : Json.Reader DocumentChunk :=
  let fields := Json.Fields.cons "document_name" Json.Reader.string .required <|
    .cons "chunk_id" Json.Reader.string .required <|
    .cons "meta" (Json.Reader.optional Json.Reader.any) (.defaulted none) <|
    .cons "content" Json.Reader.string .required .nil
  (fields.read "DocumentChunk").refine fun (name, id, details, content, _) =>
    .ok ⟨name, id, details, content⟩

end DocumentChunk

/-! ## Files of chunks -/

/-- Splits a text at its line feeds; the text of the first line comes first. -/
def splitLines : List Char → List (List Char)
  | [] => [[]]
  | c :: rest =>
    if c = '\n' then [] :: splitLines rest
    else
      match splitLines rest with
      | [] => [[c]]
      | line :: lines => (c :: line) :: lines

/-- A line without the carriage return at its end. -/
def withoutReturn (line : List Char) : List Char :=
  match line.getLast? with
  | some '\r' => line.dropLast
  | _ => line

/-- The lines of a text; a line feed ends a line, so that nothing after the last one is no
further line. -/
def linesOf (s : String) : List String :=
  let pieces := splitLines s.toList
  let ended := pieces.dropLast.map withoutReturn
  let last := pieces.getLast?.getD []
  (if last.isEmpty then ended else ended ++ [last]).map String.ofList

/-- Whether a line holds nothing but white space. -/
def isBlankLine (line : String) : Bool :=
  line.toList.all Text.isBlank

/-- Why a file of chunks is refused: the line at fault, counted from one. -/
structure ChunkError where
  line : Nat
  cause : Json.ReadError
deriving DecidableEq

/-- The chunks of some lines, the first of which has a given number. -/
def readChunksFrom : (number : Nat) → List String → Except ChunkError (List DocumentChunk)
  | _, [] => .ok []
  | number, line :: rest =>
    if isBlankLine line then readChunksFrom (number + 1) rest
    else
      match Json.readText DocumentChunk.reader line with
      | .error cause => .error ⟨number, cause⟩
      | .ok chunk => (readChunksFrom (number + 1) rest).map (chunk :: ·)

/-- The chunks of a file, one on each line that is not blank. -/
def readChunks (s : String) : Except ChunkError (List DocumentChunk) :=
  readChunksFrom 1 (linesOf s)

/-- Blank lines hold no chunks. -/
theorem readChunksFrom_blank {lines : List String} (h : ∀ l ∈ lines, isBlankLine l = true)
    (number : Nat) : readChunksFrom number lines = .ok [] := by
  induction lines generalizing number with
  | nil => rfl
  | cons line rest ih =>
    rw [readChunksFrom, if_pos (h line List.mem_cons_self)]
    exact ih (fun l hl => h l (List.mem_cons_of_mem _ hl)) _

/-! ## Answers -/

/-- The answer to a question with the context it was drawn from. -/
structure ChatResponse where
  context : List Json
  chatResponse : String
deriving DecidableEq

namespace ChatResponse

/-- An answer is written as an object of its fields. -/
def toJson (r : ChatResponse) : Json :=
  .object [("context", .array r.context), ("chat_response", .string r.chatResponse)]

/-- An answer is read from an object or array. -/
def reader : Json.Reader ChatResponse :=
  let fields := Json.Fields.cons "context" (Json.Reader.list Json.Reader.any) .required <|
    .cons "chat_response" Json.Reader.string .required .nil
  (fields.read "ChatResponse").refine fun (context, response, _) => .ok ⟨context, response⟩

end ChatResponse
end MessageQueue
