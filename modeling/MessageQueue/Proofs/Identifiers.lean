import MessageQueue.Client
import MessageQueue.Proofs.Interchange
import MessageQueue.Proofs.Rag.Tables

/-!
# Identifiers

The names of queues and of agents go into identifiers on the server as they stand.  There is one
alphabet for both: the letters and the digits of ASCII, and the underscore.  The text of a queue
may come in by itself or as a JSON string, in any spelling of it, and is judged alike; what is
wrong with it is told in a fixed order, the length in bytes.  Nothing else comes to be a name, so
that no identifier made of names ends where the name goes on.

Main results:

- Theorem `isNameChar_iff`: the alphabet.
- Theorems `QueueName.exists_ofString_iff` and `RagProject.exists_ofName_iff`: which texts are
  names.
- Theorem `QueueName.readText_reader`: a name is judged alike in all its spellings.
- Theorem `Spliced.isPlain`: identifiers keep to the alphabet.
- Theorem `names_governed`: all of it about one text.
-/

namespace MessageQueue

open Json (Reader readText readValue text)

/-! ## The alphabet -/

/-- The letters and the digits of ASCII, and the underscore. -/
def IsIdentifierChar (c : Char) : Prop :=
  ('a' ≤ c ∧ c ≤ 'z') ∨ ('A' ≤ c ∧ c ≤ 'Z') ∨ ('0' ≤ c ∧ c ≤ '9') ∨ c = '_'

/-- A text in the alphabet of identifiers. -/
def IsPlain (s : String) : Prop := ∀ c ∈ s.toList, IsIdentifierChar c

/-- Characters that end an identifier, or stand around one. -/
def separators : List Char := "\"'.; ".toList

/-- Names are held to the alphabet of identifiers. -/
theorem isNameChar_iff {c : Char} : isNameChar c = true ↔ IsIdentifierChar c := by
  rw [isNameChar, Bool.or_eq_true, beq_iff_eq]
  delta Char.isAlphanum Char.isAlpha Char.isUpper Char.isLower Char.isDigit
  simp only [Bool.or_eq_true, Bool.and_eq_true, decide_eq_true_eq]
  constructor
  · rintro (((hupper | hlower) | hdigit) | hunderscore)
    · exact .inr (.inl hupper)
    · exact .inl hlower
    · exact .inr (.inr (.inl hdigit))
    · exact .inr (.inr (.inr hunderscore))
  · rintro (hlower | hupper | hdigit | hunderscore)
    · exact .inl (.inl (.inr hlower))
    · exact .inl (.inl (.inl hupper))
    · exact .inl (.inr hdigit)
    · exact .inr hunderscore

theorem isPlain_iff {s : String} : IsPlain s ↔ ∀ c ∈ s.toList, isNameChar c = true := by
  simp only [IsPlain, isNameChar_iff]

/-- No separator is in the alphabet. -/
theorem isNameChar_of_mem_separators : ∀ c ∈ separators, (!isNameChar c) = true :=
  List.all_eq_true.1 (by decide)

theorem IsPlain.not_mem {s : String} (h : IsPlain s) {c : Char} (hc : c ∈ separators) :
    c ∉ s.toList := by
  intro hmem
  have hforeign : (!isNameChar c) = true := isNameChar_of_mem_separators c hc
  rw [isPlain_iff.1 h c hmem] at hforeign
  exact absurd hforeign (by decide)

/-! ## Texts taken further -/

namespace Json

variable {α β : Type} {r : Reader α} {f : α → Except String β} {t : String}

/-- How a reader tells that something is refused. -/
def refusal (reason : String) : ReadError := .mismatch (.refused reason)

/-- A text is read as a whole. -/
theorem readText_eq_ok_iff {a : α} :
    readText r t = .ok a ↔ r (.text nestingLimit) (Draft.ofTokens (tokens t.toList)).1 = .ok a ∧
      (Draft.ofTokens (tokens t.toList)).2 = some [] := by
  unfold readText
  cases hread : r (.text nestingLimit) (Draft.ofTokens (tokens t.toList)).1 with
  | error e => simp [hread]
  | ok b =>
      simp only [hread]
      split
      · simp [*]
      · simp [*]

/-- What is read from a text is taken further or refused. -/
theorem readText_refine {a : α} (h : readText r t = .ok a) :
    readText (r.refine f) t = (f a).mapError refusal := by
  obtain ⟨hread, hwhole⟩ := readText_eq_ok_iff.1 h
  cases hf : f a with
  | error reason => simp [readText, Reader.refine, hread, hf, refusal]
  | ok b =>
      refine readText_eq_ok_iff.2 ⟨?_, hwhole⟩
      simp [Reader.refine, hread, hf]

/-- Nothing else is taken further. -/
theorem exists_of_readText_refine {b : β} (h : readText (r.refine f) t = .ok b) :
    ∃ a, readText r t = .ok a ∧ f a = .ok b := by
  obtain ⟨hread, hwhole⟩ := readText_eq_ok_iff.1 h
  obtain ⟨a, ha, hf⟩ := Reader.exists_of_refine hread
  exact ⟨a, readText_eq_ok_iff.2 ⟨ha, hwhole⟩, hf⟩

end Json

/-! ## Names of queues -/

theorem NameError.message_tooLong (bytes : Nat) : (NameError.tooLong bytes).message =
    "Queue name too long: " ++ toString bytes ++ " bytes (max 47)" := by
  have hend : " bytes (max 47)" = " bytes (max " ++ (toString QueueName.maxBytes ++ ")") := rfl
  rw [hend, ← String.append_assoc, ← String.append_assoc]
  rfl

namespace QueueName

variable {s t : String} {q : QueueName}

/-- The names are the texts in the alphabet of 1 to 47 bytes. -/
theorem exists_ofString_iff :
    (∃ q, ofString s = .ok q) ↔ 1 ≤ s.utf8ByteSize ∧ s.utf8ByteSize ≤ 47 ∧ IsPlain s := by
  have hsize : 1 ≤ s.utf8ByteSize ↔ s ≠ "" := by
    rw [Nat.one_le_iff_ne_zero, ne_eq, String.utf8ByteSize_eq_zero_iff]
  rw [hsize, isPlain_iff, show (47 : Nat) = maxBytes from rfl, ← accepts_iff]
  constructor
  · rintro ⟨q, hq⟩
    rw [← ofString_eq_ok_iff.1 hq]
    exact q.accepted
  · exact fun h => ⟨⟨s, h⟩, ofString_text ⟨s, h⟩⟩

/-- The text of a name is in the alphabet. -/
theorem isPlain_text (q : QueueName) : IsPlain q.text :=
  (exists_ofString_iff.1 ⟨q, ofString_text q⟩).2.2

/-- The length is wrong before the characters are. -/
theorem ofString_of_lt (h : maxBytes < s.utf8ByteSize) :
    ofString s = .error (.tooLong s.utf8ByteSize) := by
  have hrefused : ¬accepts s = true :=
    fun haccepts => Nat.not_le.2 h (accepts_iff.1 haccepts).2.1
  have hne : ¬s.isEmpty = true := by
    rw [String.isEmpty_iff]
    rintro rfl
    exact absurd h (by decide)
  rw [ofString, dif_neg hrefused, if_neg hne, if_pos h]

/-- Last come the characters. -/
theorem ofString_of_not_isPlain (hne : s ≠ "") (hle : s.utf8ByteSize ≤ maxBytes)
    (h : ¬IsPlain s) :
    ofString s = .error (.badCharacter s) := by
  have hrefused : ¬accepts s = true :=
    fun haccepts => h (isPlain_iff.2 (accepts_iff.1 haccepts).2.2)
  rw [ofString, dif_neg hrefused, if_neg (by rwa [String.isEmpty_iff]), if_neg (Nat.not_lt.2 hle)]

/-- A name in a JSON string is judged as the text is, however the string is spelled. -/
theorem readText_reader (h : readText Reader.string t = .ok s) :
    readText reader t = (Client.checkName s).mapError fun e => Json.refusal e.message := by
  rw [reader, Json.readText_refine h, Client.checkName]
  cases ofString s with
  | error e => rfl
  | ok q => rfl

theorem readValue_reader (s : String) : readValue reader (.string s) =
    (Client.checkName s).mapError fun e => Json.refusal e.message := by
  have hstring : Reader.string .value (Json.Draft.ofJson (.string s)) = .ok s :=
    Reader.string_ofJson .value s
  simp only [readValue, reader, Reader.refine, hstring, Client.checkName]
  cases ofString s with
  | error e => rfl
  | ok q => rfl

/-- A name is read from nothing but the spellings of its text. -/
theorem readText_string_of_reader (h : readText reader t = .ok q) :
    readText Reader.string t = .ok q.text := by
  obtain ⟨s, hstring, hname⟩ := Json.exists_of_readText_refine h
  rw [hstring, ofString_eq_ok_iff.1 (mapError_eq_ok_iff.1 hname)]

end QueueName

/-! ## Names of agents -/

namespace RagProject

/-- The agents that there can be: those of names, with any models for their documents. -/
inductive Made : RagProject → Prop
  | named {s : String} {p : RagProject} (h : ofName s = .ok p) : Made p
  | withTransformer {p : RagProject} (h : Made p) (transformer : String) :
    Made (p.withTransformer transformer)

/-- The names of agents are the texts in the alphabet but the empty one, at any length. -/
theorem exists_ofName_iff {s : String} : (∃ p, ofName s = .ok p) ↔ s ≠ "" ∧ IsPlain s := by
  simp only [ofName_eq_ok_iff, isPlain_iff, exists_and_left, exists_eq, and_true]

/-- Every agent has the name of one. -/
theorem Made.exists_ofName {p : RagProject} (h : Made p) : ∃ q, ofName p.agentName = .ok q := by
  induction h with
  | named h =>
      obtain ⟨-, rfl⟩ := ofName_eq_ok_iff.1 h
      exact ⟨_, h⟩
  | withTransformer _ _ ih => exact ih

theorem Made.isPlain_agentName {p : RagProject} (h : Made p) : IsPlain p.agentName :=
  (exists_ofName_iff.1 h.exists_ofName).2

theorem Made.isPlain_tableName {p : RagProject} (h : Made p) : IsPlain p.tableName := by
  obtain ⟨q, hq⟩ := h.exists_ofName
  have htable : q.tableName = p.tableName := by rw [(ofName_eq_ok_iff.1 hq).2]; rfl
  rw [← htable, isPlain_iff]
  exact isNameChar_of_mem_tableName hq

end RagProject

/-! ## Identifiers made of names -/

/-- The texts that go into identifiers as they stand. -/
inductive Spliced : String → Prop
  | queue (q : QueueName) : Spliced q.text
  | agent {p : RagProject} (h : p.Made) : Spliced p.agentName
  | table {p : RagProject} (h : p.Made) : Spliced p.tableName

/-- Identifiers keep to the alphabet. -/
theorem Spliced.isPlain {s : String} (h : Spliced s) : IsPlain s := by
  cases h with
  | queue q => exact q.isPlain_text
  | agent h => exact h.isPlain_agentName
  | table h => exact h.isPlain_tableName

/-- How a text is judged as a name. -/
structure Governed (s : String) : Prop where
  /-- The names of queues are the texts of 1 to 47 bytes in the alphabet. -/
  queue : (∃ q, QueueName.ofString s = .ok q) ↔
    1 ≤ s.utf8ByteSize ∧ s.utf8ByteSize ≤ 47 ∧ ∀ c ∈ s.toList, IsIdentifierChar c
  /-- A client takes the same names. -/
  client : ∀ q, Client.checkName s = .ok q ↔ QueueName.ofString s = .ok q
  /-- A name is its text, writes itself as a string of it and is read back from there. -/
  itself : ∀ q, QueueName.ofString s = .ok q →
    q.text = s ∧ q.toJson = .string s ∧ readText QueueName.reader (text q.toJson) = .ok q
  /-- The first thing wrong is that there is no text. -/
  empty : s = "" → Client.checkName s = .error (.validation "Queue name cannot be empty")
  /-- The next is its length in bytes. -/
  long : 47 < s.utf8ByteSize → Client.checkName s = .error
    (.validation ("Queue name too long: " ++ toString s.utf8ByteSize ++ " bytes (max 47)"))
  /-- The last is a character out of the alphabet. -/
  foreign : s ≠ "" → s.utf8ByteSize ≤ 47 → (∃ c ∈ s.toList, ¬IsIdentifierChar c) →
    Client.checkName s =
      .error (.validation ("Queue name must be alphanumeric or underscore: " ++ s))
  /-- The JSON string of the text is judged as the text is. -/
  value : readValue QueueName.reader (.string s) =
    (Client.checkName s).mapError fun e => Json.refusal e.message
  /-- So is every spelling of the string. -/
  spelling : ∀ t, readText Reader.string t = .ok s → readText QueueName.reader t =
    (Client.checkName s).mapError fun e => Json.refusal e.message
  /-- The string has a spelling. -/
  spelled : readText Reader.string (text (.string s)) = .ok s
  /-- A name is read from the spellings of its text only. -/
  only : ∀ q t, readText QueueName.reader t = .ok q → q.text = s →
    readText Reader.string t = .ok s
  /-- The names of agents are the texts in the alphabet but the empty one. -/
  agent : (∃ p, RagProject.ofName s = .ok p) ↔ s ≠ "" ∧ ∀ c ∈ s.toList, IsIdentifierChar c
  /-- If the text goes into an identifier, it is in the alphabet and has no separator in it. -/
  spliced : Spliced s →
    (∀ c ∈ s.toList, IsIdentifierChar c) ∧ ∀ c ∈ separators, c ∉ s.toList

/-- Every text is judged by one grammar, whichever way it comes in. -/
theorem names_governed (s : String) : Governed s where
  queue := QueueName.exists_ofString_iff
  client _ := mapError_eq_ok_iff
  itself q hq := by
    obtain rfl := QueueName.ofString_eq_ok_iff.1 hq
    exact ⟨rfl, rfl, q.restores.readText rfl rfl (Nat.succ_pos _)⟩
  empty hempty := by
    rw [hempty]
    rfl
  long hlong := by
    rw [Client.checkName, QueueName.ofString_of_lt hlong, mapError_error, NameError.message_tooLong]
  foreign hne hle := by
    rintro ⟨c, hc, hforeign⟩
    have hplain : ¬IsPlain s := fun h => hforeign (h c hc)
    rw [Client.checkName, QueueName.ofString_of_not_isPlain hne hle hplain]
    rfl
  value := QueueName.readValue_reader s
  spelling _ ht := QueueName.readText_reader ht
  spelled := (Reader.restores_string s).readText rfl rfl (Nat.succ_pos _)
  only _ _ hread htext := htext ▸ QueueName.readText_string_of_reader hread
  agent := RagProject.exists_ofName_iff
  spliced hspliced := ⟨hspliced.isPlain, fun _ hc => hspliced.isPlain.not_mem hc⟩

end MessageQueue
