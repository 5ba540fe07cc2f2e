import MessageQueue.Json.Reader

/-!
# Queue names

A queue name becomes part of table names on the server, so only ASCII letters, digits and
underscores are let in, and at most 47 of them.

Main results:

- Theorem `accepts_iff`: the grammar of names.
- Theorems `ofString_eq_ok_iff` and `ofString_text`: exactly the names are accepted, each
  as itself.
-/

namespace MessageQueue

/-- The characters of an identifier. -/
def isNameChar (c : Char) : Bool :=
  c.isAlphanum || c == '_'

/-- The characters of an identifier are in ASCII. -/
theorem val_le_of_isNameChar {c : Char} (h : isNameChar c = true) : c.val.toNat ≤ 127 := by
  rw [isNameChar, Bool.or_eq_true, beq_iff_eq] at h
  rcases h with halphanum | rfl
  · delta Char.isAlphanum Char.isAlpha Char.isUpper Char.isLower Char.isDigit at halphanum
    simp only [Bool.or_eq_true, Bool.and_eq_true, decide_eq_true_eq] at halphanum
    rcases halphanum with (⟨-, hle⟩ | ⟨-, hle⟩) | ⟨-, hle⟩
    · exact Nat.le_trans hle (by decide)
    · exact Nat.le_trans hle (by decide)
    · exact Nat.le_trans hle (by decide)
  · decide

/-- Why a text is no queue name. -/
inductive NameError where
  | empty
  | tooLong (bytes : Nat)
  | badCharacter (name : String)
deriving DecidableEq, Repr

namespace QueueName

/-- The greatest length of a name in bytes, so that table names built from it still fit. -/
def maxBytes : Nat := 47

/-- Whether a text is a queue name. -/
def accepts (s : String) : Bool :=
  !s.isEmpty && s.utf8ByteSize ≤ maxBytes && s.toList.all isNameChar

theorem accepts_iff {s : String} :
    accepts s = true ↔
      s ≠ "" ∧ s.utf8ByteSize ≤ maxBytes ∧ ∀ c ∈ s.toList, isNameChar c = true := by
  simp [accepts, and_assoc]

end QueueName

/-- The wording of a name error. -/
def NameError.message : NameError → String
  | empty => "Queue name cannot be empty"
  | tooLong bytes =>
    let most := QueueName.maxBytes
    s!"Queue name too long: {bytes} bytes (max {most})"
  | badCharacter name => "Queue name must be alphanumeric or underscore: " ++ name

/-- A queue name. -/
structure QueueName where
  text : String
  accepted : QueueName.accepts text = true
deriving DecidableEq

namespace QueueName

/-- The name that a text is; of several faults an empty text counts first, then its length. -/
def ofString (s : String) : Except NameError QueueName :=
  if h : accepts s = true then .ok ⟨s, h⟩
  else if s.isEmpty then .error .empty
  else if maxBytes < s.utf8ByteSize then .error (.tooLong s.utf8ByteSize)
  else .error (.badCharacter s)

/-- An accepted text is the text of its name. -/
theorem ofString_eq_ok_iff {s : String} {q : QueueName} : ofString s = .ok q ↔ q.text = s := by
  constructor
  · intro h
    unfold ofString at h
    split at h
    · cases h; rfl
    · repeat' split at h
      all_goals cases h
  · rintro rfl
    simp [ofString, q.accepted]

/-- A name is accepted as itself. -/
theorem ofString_text (q : QueueName) : ofString q.text = .ok q :=
  ofString_eq_ok_iff.2 rfl

/-- The text with quotes inside the word for the type. -/
def shown (q : QueueName) : String :=
  "QueueName(" ++ Text.quote q.text ++ ")"

/-- A name is written as its text. -/
def toJson (q : QueueName) : Json := .string q.text

/-- A name is read from its text. -/
def reader : Json.Reader QueueName :=
  Json.Reader.string.refine fun s =>
    (ofString s).mapError fun e => "Validation error: " ++ e.message

end QueueName
end MessageQueue
