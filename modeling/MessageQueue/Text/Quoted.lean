import MessageQueue.Text.Unprintable

/-!
# Quoted texts

A text between double quotes, in the form in which settings and errors show it: a
quote and a backslash get a backslash, five controls have a letter of their own, and
every other character without a visible form is shown by its number.

Main results:

- Theorem `escape_visible`: a visible character stands for itself.
-/

namespace MessageQueue
namespace Text

/-- The hexadecimal form of a character that has no visible form. -/
def escapeByNumber (c : Char) : List Char :=
  '\\' :: 'u' :: '\x7b' :: Nat.toDigits 16 c.toNat ++ ['\x7d']

/-- The quoted form of one character. -/
def escape (c : Char) : List Char :=
  if c = '"' then ['\\', '"']
  else if c = '\\' then ['\\', '\\']
  else if c = '\x00' then ['\\', '0']
  else if c = '\t' then ['\\', 't']
  else if c = '\n' then ['\\', 'n']
  else if c = '\r' then ['\\', 'r']
  else if c.toNat < 0x20 || c.toNat == 0x7F then escapeByNumber c
  else if c.toNat < 0x80 then [c]
  else if isUnprintable c then escapeByNumber c
  else [c]

/-- A text between double quotes. -/
def quote (s : String) : String :=
  String.ofList ('"' :: s.toList.flatMap escape ++ ['"'])

/-- A letter, digit or other visible ASCII character that is neither a quote nor a backslash
stands for itself. -/
theorem escape_visible {c : Char} (hlow : 0x20 ≤ c.toNat) (hhigh : c.toNat < 0x7F)
    (hquote : c ≠ '"') (hback : c ≠ '\\') : escape c = [c] := by
  have hzero : c ≠ '\x00' := by rintro rfl; exact absurd hlow (by decide)
  have htab : c ≠ '\t' := by rintro rfl; exact absurd hlow (by decide)
  have hnewline : c ≠ '\n' := by rintro rfl; exact absurd hlow (by decide)
  have hreturn : c ≠ '\r' := by rintro rfl; exact absurd hlow (by decide)
  have hcontrol : (c.toNat < 0x20 || c.toNat == 0x7F) = false := by
    simp only [Bool.or_eq_false_iff, decide_eq_false_iff_not, beq_eq_false_iff_ne]
    omega
  rw [escape, if_neg hquote, if_neg hback, if_neg hzero, if_neg htab, if_neg hnewline,
    if_neg hreturn, hcontrol, if_neg (by decide), if_pos (by omega)]

end Text
end MessageQueue
