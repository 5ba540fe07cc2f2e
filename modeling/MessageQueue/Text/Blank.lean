/-!
# Blank characters

The white space of the Unicode property `White_Space`, and texts with the blanks
at their two ends removed.

Main results:

- Theorem `isBlank_of_isWhitespace`: every ASCII white space character is blank.
- Theorem `trim_eq_nil_iff`: trimming leaves nothing exactly when all is blank.
-/

namespace MessageQueue
namespace Text

/-- A character with the Unicode property `White_Space`. -/
def isBlank (c : Char) : Bool :=
  let n := c.toNat
  (9 ≤ n && n ≤ 13) || n == 0x20 || n == 0x85 || n == 0xA0 || n == 0x1680 ||
    (0x2000 ≤ n && n ≤ 0x200A) || n == 0x2028 || n == 0x2029 || n == 0x202F ||
    n == 0x205F || n == 0x3000

/-- The characters from the first one that is not blank. -/
def trimStart (cs : List Char) : List Char :=
  cs.dropWhile isBlank

/-- The characters up to the last one that is not blank. -/
def trimEnd (cs : List Char) : List Char :=
  (cs.reverse.dropWhile isBlank).reverse

/-- The characters without the blanks at both ends. -/
def trim (cs : List Char) : List Char :=
  trimEnd (trimStart cs)

theorem isBlank_of_isWhitespace {c : Char} (h : c.isWhitespace = true) :
    isBlank c = true := by
  simp only [Char.isWhitespace, Bool.or_eq_true, decide_eq_true_eq] at h
  rcases h with ((h | h) | h) | h <;> subst h <;> decide

/-- What is not blank at the front stays there. -/
theorem trimStart_of_not_isBlank {c : Char} (h : isBlank c = false) (cs : List Char) :
    trimStart (c :: cs) = c :: cs := by
  rw [trimStart, List.dropWhile_cons, h]
  rfl

theorem trimStart_eq_nil_iff {cs : List Char} :
    trimStart cs = [] ↔ ∀ c ∈ cs, isBlank c = true := by
  induction cs with
  | nil => simp [trimStart]
  | cons c r ih =>
    cases h : isBlank c with
    | true =>
      rw [trimStart] at ih ⊢
      rw [List.dropWhile_cons_of_pos h, ih]
      simp [h]
    | false => simp [trimStart, h]

theorem trimEnd_eq_nil_iff {cs : List Char} :
    trimEnd cs = [] ↔ ∀ c ∈ cs, isBlank c = true := by
  rw [trimEnd, List.reverse_eq_nil_iff, ← trimStart, trimStart_eq_nil_iff]
  simp only [List.mem_reverse]

/-- Trimming leaves nothing exactly when every character is blank. -/
theorem trim_eq_nil_iff {cs : List Char} :
    trim cs = [] ↔ ∀ c ∈ cs, isBlank c = true := by
  induction cs with
  | nil => simp [trim, trimStart, trimEnd]
  | cons c r ih =>
    cases h : isBlank c with
    | true => simpa [trim, trimStart, List.dropWhile_cons, h] using ih
    | false =>
      have hs : trimStart (c :: r) = c :: r := by simp [trimStart, h]
      rw [trim, hs, trimEnd_eq_nil_iff]

end Text
end MessageQueue
