import Mathlib.Data.List.Forall2
import MessageQueue.Command.Run
import MessageQueue.Proofs.Database.Exchanges
import MessageQueue.Proofs.Interchange
import MessageQueue.Proofs.Json.Controls
import MessageQueue.Proofs.Rag.Lines

/-!
# Files of chunks

A file of chunks is read as a whole or not at all.  If every line that is not blank holds a chunk,
these are its chunks, in order; otherwise the first line that holds none is told, by its number
among all lines of the file, and a command that was to load the file has sent nothing to the server.

Chunks that are written a line each come back, with any ends of the lines and any blank lines among
them, since the text of a chunk is a single line that is not blank.

Main results:

- Theorem `readChunksFrom_eq_ok_iff`: when all lines are read, and as what.
- Theorem `exists_of_readChunksFrom_error`: an error tells the first line that holds no chunk.
- Theorem `readChunks_all_or_nothing`: all together, with what a command sends, and the chunks that
  were written come back.
-/

namespace MessageQueue

open Json (text readText ControlFree)

/-! ## Lines that are read -/

/-- A line that a file of chunks may have: it is blank or holds a chunk. -/
def IsReadable (line : String) : Prop :=
  isBlankLine line = false → ∃ c, readText DocumentChunk.reader line = .ok c

/-- The lines that are not blank hold these chunks, one each and in this order. -/
def HoldChunks (lines : List String) (chunks : List DocumentChunk) : Prop :=
  List.Forall₂ (fun line c => readText DocumentChunk.reader line = .ok c)
    (lines.filter fun line => !isBlankLine line) chunks

section Lines

variable {line : String} {lines : List String} {chunks : List DocumentChunk}

theorem holdChunks_cons_of_blank (h : isBlankLine line = true) :
    HoldChunks (line :: lines) chunks ↔ HoldChunks lines chunks := by
  rw [HoldChunks, List.filter_cons_of_neg (by simp [h]), HoldChunks]

theorem holdChunks_cons (h : isBlankLine line = false) :
    HoldChunks (line :: lines) chunks ↔ ∃ c rest, readText DocumentChunk.reader line = .ok c ∧
      HoldChunks lines rest ∧ chunks = c :: rest := by
  rw [HoldChunks, List.filter_cons_of_pos (by simp [h])]
  exact List.forall₂_cons_left_iff

/-- Readable lines hold some chunks. -/
theorem exists_holdChunks_iff :
    (∃ chunks, HoldChunks lines chunks) ↔ ∀ l ∈ lines, IsReadable l := by
  induction lines with
  | nil => simp [HoldChunks]
  | cons line rest ih =>
      rw [List.forall_mem_cons, ← ih]
      cases hblank : isBlankLine line with
      | true => simp [holdChunks_cons_of_blank hblank, IsReadable, hblank]
      | false =>
          simp only [holdChunks_cons hblank, IsReadable, hblank, forall_const]
          constructor
          · rintro ⟨_, c, more, hread, hmore, rfl⟩
            exact ⟨⟨c, hread⟩, more, hmore⟩
          · rintro ⟨⟨c, hread⟩, more, hmore⟩
            exact ⟨_, c, more, hread, hmore, rfl⟩

/-- Lines are read as the chunks that they hold. -/
theorem readChunksFrom_eq_ok_iff {number : Nat} :
    readChunksFrom number lines = .ok chunks ↔ HoldChunks lines chunks := by
  induction lines generalizing number chunks with
  | nil => simp [readChunksFrom, HoldChunks, eq_comm]
  | cons line rest ih =>
      rw [readChunksFrom]
      cases hblank : isBlankLine line with
      | true => rw [if_pos rfl, ih, holdChunks_cons_of_blank hblank]
      | false =>
          rw [if_neg Bool.false_ne_true, holdChunks_cons hblank]
          cases hread : readText DocumentChunk.reader line with
          | error cause => simp
          | ok c =>
              rw [map_eq_ok_iff]
              simp [ih, eq_comm]

/-- An error tells the first line that is not readable. -/
theorem exists_of_readChunksFrom_error {number : Nat} {e : ChunkError}
    (h : readChunksFrom number lines = .error e) :
    ∃ before line after, lines = before ++ line :: after ∧ (∀ l ∈ before, IsReadable l) ∧
      isBlankLine line = false ∧ readText DocumentChunk.reader line = .error e.cause ∧
      e.line = number + before.length := by
  induction lines generalizing number with
  | nil => cases h
  | cons line rest ih =>
      -- A readable line goes before the one at fault behind it.
      have hbehind (hline : IsReadable line) (hrest : readChunksFrom (number + 1) rest = .error e) :
          ∃ before fault after, line :: rest = before ++ fault :: after ∧
            (∀ l ∈ before, IsReadable l) ∧ isBlankLine fault = false ∧
            readText DocumentChunk.reader fault = .error e.cause ∧
            e.line = number + before.length := by
        obtain ⟨before, fault, after, rfl, hbefore, hblank, hread, hnumber⟩ := ih hrest
        refine ⟨line :: before, fault, after, rfl, List.forall_mem_cons.2 ⟨hline, hbefore⟩, hblank,
          hread, ?_⟩
        rw [hnumber, List.length_cons]
        omega
      rw [readChunksFrom] at h
      cases hblank : isBlankLine line with
      | true =>
          rw [if_pos hblank] at h
          exact hbehind (fun hne => by simp [hblank] at hne) h
      | false =>
          rw [if_neg (by simp [hblank])] at h
          cases hread : readText DocumentChunk.reader line with
          | ok c =>
              simp only [hread] at h
              cases hrest : readChunksFrom (number + 1) rest with
              | ok more =>
                  rw [hrest] at h
                  cases h
              | error e' =>
                  rw [hrest] at h
                  cases h
                  exact hbehind (fun _ => ⟨c, hread⟩) hrest
          | error cause =>
              rw [hread] at h
              cases h
              exact ⟨[], line, rest, rfl, List.forall_mem_nil _, hblank, hread, rfl⟩

/-- Blank lines count. -/
example : (readChunks "\n \r\n[]\n{}").mapError ChunkError.line = .error 3 := by
  decide

end Lines

/-! ## Chunks that are written -/

/-- A chunk that is written without loss: its details are not null but a value as texts can hold it,
without floating point numbers and nested at most 126 levels deep. -/
structure Savable (c : DocumentChunk) : Prop where
  notNull : c.details ≠ some .null
  canonical : ∀ v ∈ c.details, v.isCanonical = true
  floatFree : ∀ v ∈ c.details, v.isFloatFree = true
  depth : ∀ v ∈ c.details, v.depth ≤ 126

namespace Savable

variable {c : DocumentChunk}

/-- The chunk comes back from its text. -/
theorem readText_text (h : Savable c) : readText DocumentChunk.reader (text c.toJson) = .ok c := by
  have hplain : WireType.documentChunk.Plain c :=
    ⟨(fun _ ht => nomatch ht), fun p hp => h.floatFree p (Option.mem_toList.1 hp)⟩
  have hdetails : (c.details.getD .null).depth ≤ 126 := by
    cases hc : c.details with
    | none => exact Nat.zero_le _
    | some v => exact h.depth v hc
  have hdepth : (WireType.documentChunk.write c).depth ≤ 127 := by
    simp only [WireType.write, DocumentChunk.toJson, Json.depth, Json.membersDepth]
    omega
  have hsized : WireType.documentChunk.Sized c :=
    ⟨trivial, fun p hp => h.canonical p (Option.mem_toList.1 hp), hdepth⟩
  have hrestored : WireType.documentChunk.restored c = c := by
    simp only [WireType.restored, if_neg h.notNull]
  have hread := WireType.documentChunk.readText_write hplain hsized
  rwa [hrestored] at hread

/-- The text of the chunk holds no control, and so no end of a line. -/
theorem controlFree_text (h : Savable c) : ControlFree (text c.toJson).toList := by
  have hdetails : (c.details.getD .null).isFloatFree = true := by
    cases hc : c.details with
    | none => rfl
    | some v => exact h.floatFree v hc
  rw [text, String.toList_ofList]
  apply Json.controlFree_chars
  simp [DocumentChunk.toJson, Json.isFloatFree, Json.membersFloatFree, hdetails]

end Savable

/-- The text of a chunk is not blank. -/
theorem isBlankLine_text_toJson (c : DocumentChunk) : isBlankLine (text c.toJson) = false := by
  rw [isBlankLine, text, String.toList_ofList, DocumentChunk.toJson, Json.chars, List.all_cons]
  rfl

/-- What is written to a line: a chunk or blanks. -/
inductive Row where
  | chunk (c : DocumentChunk) (savable : Savable c)
  | blank (s : String) (blank : isBlankLine s = true) (noFeed : '\n' ∉ s.toList)

namespace Row

/-- The text of a row. -/
def text : Row → String
  | chunk c _ => Json.text c.toJson
  | blank s _ _ => s

/-- The chunk in a row, if there is one. -/
def chunks : Row → List DocumentChunk
  | chunk c _ => [c]
  | blank _ _ _ => []

/-- A row is a single line. -/
theorem noFeed_text (row : Row) : '\n' ∉ row.text.toList := by
  cases row with
  | chunk c hc => exact hc.controlFree_text.not_mem (by decide)
  | blank s _ hs => exact hs

/-- A row is read as its chunk, whatever the end of its line. -/
theorem readChunksFrom_cut (row : Row) (ending : LineEnd) (number : Nat) (rest : List String) :
    readChunksFrom number (ending.cut row.text :: rest) =
      (readChunksFrom (number + 1) rest).map (row.chunks ++ ·) := by
  cases row with
  | chunk c hc =>
      have hcut : ending.cut (Json.text c.toJson) = Json.text c.toJson := by
        refine LineEnd.cut_of_ne fun _ hlast => ?_
        exact hc.controlFree_text.not_mem (by decide) (List.mem_of_getLast? hlast)
      rw [text, hcut, readChunksFrom, if_neg (by simp [isBlankLine_text_toJson]), hc.readText_text]
      rfl
  | blank s hs _ =>
      have hcut : isBlankLine (ending.cut s) = true := by
        cases ending with
        | returnFeed => exact hs
        | feed =>
            rw [isBlankLine, List.all_eq_true] at hs ⊢
            rw [LineEnd.cut, String.toList_ofList]
            exact fun ch hch => hs ch (withoutReturn_subset _ hch)
      rw [text, readChunksFrom, if_pos hcut]
      cases readChunksFrom (number + 1) rest <;> rfl

/-- An empty row has no chunk. -/
theorem chunks_of_text_eq_empty {row : Row} (h : row.text = "") : row.chunks = [] := by
  cases row with
  | blank => rfl
  | chunk c _ =>
      have hblank := isBlankLine_text_toJson c
      rw [show Json.text c.toJson = "" from h] at hblank
      cases hblank

end Row

/-- A file of rows with an end to each, and of a last row without one. -/
def fileOfRows (rows : List (Row × LineEnd)) (last : Row) : String :=
  fileOf (rows.map fun r => (r.1.text, r.2)) last.text

/-- The rows of a file are read as their chunks, wherever they stand. -/
theorem readChunksFrom_fileOfRows (rows : List (Row × LineEnd)) (last : Row) (number : Nat) :
    readChunksFrom number (linesOf (fileOfRows rows last)) =
      .ok (rows.flatMap (fun r => r.1.chunks) ++ last.chunks) := by
  induction rows generalizing number with
  | nil =>
      rw [fileOfRows, List.map_nil, fileOf, linesOf_of_not_mem last.noFeed_text]
      by_cases hempty : last.text = ""
      · rw [if_pos hempty, last.chunks_of_text_eq_empty hempty]
        rfl
      · rw [if_neg hempty]
        have hlast := last.readChunksFrom_cut .returnFeed number []
        rwa [readChunksFrom, Except.map, List.append_nil] at hlast
  | cons r rest ih =>
      obtain ⟨row, ending⟩ := r
      rw [fileOfRows, List.map_cons, fileOf, linesOf_ended row.noFeed_text, row.readChunksFrom_cut]
      rw [← fileOfRows, ih, List.flatMap_cons, List.append_assoc]
      rfl

/-! ## Loading a file -/

namespace Command

open Database (Server DriverError Exchange)

variable {σ : Type}

/-- The way to the server is opened without a statement. -/
theorem connecting_store (around : Surroundings) (reach : σ → Except DriverError Unit) (c : Config)
    (r : Request) (w : World σ) : (connecting around reach c r w).2.store = w.store := by
  have hconnect : (Database.connect around.machine c reach w).2.store = w.store := by
    simp only [Database.connect, Session.run_bind, Session.run_ofExcept, Session.run_onStore]
    cases Database.ConnectOptions.ofConfig around.machine c with
    | error e => rfl
    | ok options => cases hreach : reach w.store <;> simp [hreach]
  cases r with
  | setup noRetry => rfl
  | _ => exact hconnect

/-- The trouble with a line of a file. -/
def lineTrouble (path : String) (e : ChunkError) : Trouble :=
  let line := e.line
  (Trouble.of e.cause.message).within s!"{path}:{line}: invalid document chunk"

section Load

variable {around : Surroundings} {path s : String}

/-- The work on a file is to load its chunks, or else fails before anything is sent. -/
theorem perform_ragLoad_of_error {e : ChunkError} (hfile : around.fileText path = .ok s)
    (hread : readChunks s = .error e) (agent : String) (server : Server σ) (c : Client σ)
    (w : World σ) :
    perform around server c (.ragLoad agent path) w =
      (.error (match RagProject.ofName agent with
        | .error e => .of (QueueError.validation e.message).message
        | .ok _ => lineTrouble path e), w) := by
  simp only [perform, agentOf, chunksOf, hfile, hread, Session.run_bind, Session.run_ofExcept]
  cases RagProject.ofName agent <;> rfl

/-- The work on a file of chunks leaves what loading them leaves. -/
theorem perform_ragLoad_of_ok {agent : String} {chunks : List DocumentChunk} {p : RagProject}
    (hfile : around.fileText path = .ok s) (hread : readChunks s = .ok chunks)
    (hagent : RagProject.ofName agent = .ok p) (server : Server σ) (c : Client σ) (w : World σ) :
    (perform around server c (.ragLoad agent path) w).2 = (Rag.load server p chunks w).2 := by
  simp only [perform, agentOf, chunksOf, hfile, hread, hagent, Session.run_bind,
    Session.run_ofExcept, reporting, Session.run_mapError, mapError_ok]
  rcases Rag.load server p chunks w with ⟨r, w'⟩
  cases r <;> rfl

end Load

section Work

variable {around : Surroundings} {server : Server σ} {reach : σ → Except DriverError Unit}
  {i : Invocation} {c : Config} {w w' : World σ}

/-- Without settings a command does nothing. -/
theorem work_of_settings_error {cause : ConfigError}
    (h : settings around.lookup i.databaseUrl = .error cause) :
    work around server reach i w =
      (.error ((Trouble.of (QueueError.config cause.message).message).within
        "Invalid configuration"), w) := by
  rw [work, Session.run_bind, h]
  rfl

/-- With settings it opens the way to the server, and then performs its request. -/
theorem work_of_settings_ok (h : settings around.lookup i.databaseUrl = .ok c) :
    work around server reach i w =
      (connecting around reach c i.request >>= fun _ =>
        perform around server ⟨Database.store server, c.vt⟩ i.request) w := by
  rw [work, h]
  rfl

/-- Once the way to the server is open, the request decides. -/
theorem work_of_connecting_ok {o : Database.ConnectOptions}
    (hsettings : settings around.lookup i.databaseUrl = .ok c)
    (hconnecting : connecting around reach c i.request w = (.ok o, w')) :
    work around server reach i w =
      perform around server ⟨Database.store server, c.vt⟩ i.request w' := by
  rw [work_of_settings_ok hsettings, Session.run_bind_of_ok _ hconnecting]

end Work

/-- What becomes of a command that is to load a file with a line at fault, for a server with a
record of what it is sent. -/
structure LoadFails (around : Surroundings) (agent path : String) (e : ChunkError) : Prop where
  /-- It fails and has sent nothing. -/
  fails : ∀ {σ : Type} (server : Server σ) (reach : σ × List Exchange → Except DriverError Unit)
    (url : Option String) (w : World (σ × List Exchange)),
    ∃ t w', work around server.recorded reach ⟨url, .ragLoad agent path⟩ w = (.error t, w') ∧
      w'.store = w.store
  /-- Unless something else is wrong before the file is read, it tells the line. -/
  tells : ∀ {σ : Type} (server : Server σ) (reach : σ × List Exchange → Except DriverError Unit)
    (url : Option String) (w w' : World (σ × List Exchange)) (c : Config)
    (o : Database.ConnectOptions) (p : RagProject), settings around.lookup url = .ok c →
    connecting around reach c (.ragLoad agent path) w = (.ok o, w') →
    RagProject.ofName agent = .ok p →
    work around server.recorded reach ⟨url, .ragLoad agent path⟩ w =
      (.error (lineTrouble path e), w')

/-- A file with a line at fault is not loaded. -/
theorem loadFails {around : Surroundings} {agent path s : String} {e : ChunkError}
    (hfile : around.fileText path = .ok s) (hread : readChunks s = .error e) :
    LoadFails around agent path e where
  fails server reach url w := by
    cases hsettings : settings around.lookup url with
    | error cause => exact ⟨_, w, work_of_settings_error hsettings, rfl⟩
    | ok c =>
        have hstore := connecting_store around reach c (.ragLoad agent path) w
        rcases hconnecting : connecting around reach c (.ragLoad agent path) w with ⟨t | o, w'⟩
        · rw [hconnecting] at hstore
          refine ⟨t, w', ?_, hstore⟩
          rw [work_of_settings_ok hsettings, Session.run_bind_of_error _ hconnecting]
        · rw [hconnecting] at hstore
          have hperform := perform_ragLoad_of_error hfile hread agent server.recorded
            ⟨Database.store server.recorded, c.vt⟩ w'
          exact ⟨_, w', (work_of_connecting_ok hsettings hconnecting).trans hperform, hstore⟩
  tells server reach url w w' c o p hsettings hconnecting hagent := by
    rw [work_of_connecting_ok hsettings hconnecting, perform_ragLoad_of_error hfile hread, hagent]

/-- What reading a file of chunks comes to, and a command that is to load it. -/
structure FileRead (s : String) : Prop where
  /-- The lines of the file are those that it is put together from. -/
  lines : IsLinesOf s (linesOf s)
  /-- If each is blank or holds a chunk, the chunks are read. -/
  read : (∀ l ∈ linesOf s, IsReadable l) →
    ∃ chunks, readChunks s = .ok chunks ∧ HoldChunks (linesOf s) chunks
  /-- Otherwise the first one that is not tells its number, and nothing is loaded. -/
  refused : (¬ ∀ l ∈ linesOf s, IsReadable l) →
    ∃ e before line after, readChunks s = .error e ∧ linesOf s = before ++ line :: after ∧
      (∀ l ∈ before, IsReadable l) ∧ isBlankLine line = false ∧
      readText DocumentChunk.reader line = .error e.cause ∧ e.line = before.length + 1 ∧
      ∀ (around : Surroundings) (agent path : String), around.fileText path = .ok s →
        LoadFails around agent path e
  /-- The chunks that are read are loaded. -/
  loaded : ∀ chunks, readChunks s = .ok chunks → ∀ (around : Surroundings) (agent path : String),
    around.fileText path = .ok s → ∀ p, RagProject.ofName agent = .ok p →
    ∀ {σ : Type} (server : Server σ) (c : Client σ) (w : World σ),
      (perform around server c (.ragLoad agent path) w).2 = (Rag.load server p chunks w).2

/-- A file is read as the chunks of its lines or refused for its first line at fault, before
anything is sent; and the chunks of a file come back when they were written a line each. -/
theorem readChunks_all_or_nothing :
    (∀ s, FileRead s) ∧ ∀ (rows : List (Row × LineEnd)) (last : Row),
      readChunks (fileOfRows rows last) =
        .ok (rows.flatMap (fun r => r.1.chunks) ++ last.chunks) := by
  refine ⟨fun s => ?_, fun rows last => readChunksFrom_fileOfRows rows last 1⟩
  refine ⟨isLinesOf_linesOf s, ?_, ?_, ?_⟩
  · intro hreadable
    obtain ⟨chunks, hchunks⟩ := exists_holdChunks_iff.2 hreadable
    exact ⟨chunks, readChunksFrom_eq_ok_iff.2 hchunks, hchunks⟩
  · intro hfault
    cases hread : readChunks s with
    | ok chunks =>
        exact absurd (exists_holdChunks_iff.1 ⟨chunks, readChunksFrom_eq_ok_iff.1 hread⟩) hfault
    | error e =>
        obtain ⟨before, line, after, hlines, hbefore, hblank, hline, hnumber⟩ :=
          exists_of_readChunksFrom_error hread
        refine ⟨e, before, line, after, rfl, hlines, hbefore, hblank, hline, ?_, ?_⟩
        · rw [hnumber, Nat.add_comm]
        · exact fun around agent path hfile => loadFails hfile hread
  · intro chunks hread around agent path hfile p hagent σ server c w
    exact perform_ragLoad_of_ok hfile hread hagent server c w

/-- A chunk with ends of lines in its texts. -/
def brokenLines : DocumentChunk where
  documentName := "notes.md"
  chunkId := "1\r"
  details := some (.object [("page", .array [.int 1, .null])])
  content := "first\r\nsecond\n"

theorem savable_brokenLines : Savable brokenLines where
  notNull := by decide
  canonical := by decide
  floatFree := by decide
  depth := by decide

/-- It comes back twice from between lines of blanks. -/
theorem readChunks_all_or_nothing_brokenLines :
    readChunks (fileOf [("\t", .returnFeed), (text brokenLines.toJson, .feed), ("\r", .feed),
      (text brokenLines.toJson, .returnFeed)] " ") = .ok [brokenLines, brokenLines] := by
  have htab : isBlankLine "\t" = true := by decide
  have hreturn : isBlankLine "\r" = true := by decide
  have hspace : isBlankLine " " = true := by decide
  exact readChunks_all_or_nothing.2
    [(.blank "\t" htab (by decide), .returnFeed), (.chunk brokenLines savable_brokenLines, .feed),
      (.blank "\r" hreturn (by decide), .feed),
      (.chunk brokenLines savable_brokenLines, .returnFeed)]
    (.blank " " hspace (by decide))

end Command
end MessageQueue
