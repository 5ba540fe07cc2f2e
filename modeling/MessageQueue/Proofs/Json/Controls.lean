import MessageQueue.Proofs.Json.Lexing

/-!
# Texts of values hold no controls

The text of a value escapes every control character of its strings and has none of its own, so that
it is a single line.  The texts of floating point numbers are left aside.

Main results:

- Theorem `controlFree_stringText`: no text of a string holds a control, whatever the string holds.
- Theorem `controlFree_chars`: nor does the text of a value without floating point numbers.
-/

namespace MessageQueue
namespace Json

/-! ## Characters without controls -/

/-- There is no control character below the blank. -/
def ControlFree (cs : List Char) : Prop := ∀ c ∈ cs, 0x20 ≤ c.toNat

@[simp]
theorem controlFree_nil : ControlFree [] :=
  fun _ hc => nomatch hc

@[simp]
theorem controlFree_cons {c : Char} {cs : List Char} :
    ControlFree (c :: cs) ↔ 0x20 ≤ c.toNat ∧ ControlFree cs :=
  List.forall_mem_cons

@[simp]
theorem controlFree_append {cs ds : List Char} :
    ControlFree (cs ++ ds) ↔ ControlFree cs ∧ ControlFree ds :=
  List.forall_mem_append

theorem ControlFree.not_mem {cs : List Char} (h : ControlFree cs) {c : Char}
    (hc : c.toNat < 0x20) : c ∉ cs :=
  fun hmem => absurd (h c hmem) (Nat.not_le.2 hc)

/-! ## Strings and integers -/

theorem le_toNat_digitChar : ∀ k < 16, 0x20 ≤ (Nat.digitChar k).toNat := by
  decide

/-- A control character is escaped by others. -/
theorem controlFree_escape (c : Char) : ControlFree (escape c) := by
  have hrest := le_toNat_digitChar (c.toNat % 16) (Nat.mod_lt _ (by decide))
  unfold escape
  split_ifs with hquote hback hb hf hn hr ht hlow
  iterate 7 next => simp
  · have hhigh := le_toNat_digitChar (c.toNat / 16) (by omega)
    simp [hhigh, hrest]
  · simpa using hlow

/-- No text of a string holds a control. -/
theorem controlFree_stringText (s : String) : ControlFree (stringText s) := by
  have hescaped : ControlFree (s.toList.flatMap escape) := by
    intro c hc
    obtain ⟨d, -, hcd⟩ := List.mem_flatMap.1 hc
    exact controlFree_escape d c hcd
  simp [stringText, hescaped]

theorem controlFree_digits (n : Nat) : ControlFree (Text.digits n) := by
  intro c hc
  have hdigit := isDigit_of_mem_digits hc
  simp only [Char.isDigit, Bool.and_eq_true, decide_eq_true_eq, UInt32.le_iff_toNat_le] at hdigit
  exact Nat.le_trans (by decide) hdigit.1

theorem controlFree_integerText (n : Int) : ControlFree (integerText n) := by
  unfold integerText
  split
  · simp [controlFree_digits]
  · exact controlFree_digits _

/-! ## Values -/

mutual

/-- The text of a value without floating point numbers holds no control. -/
theorem controlFree_chars : (v : Json) → v.isFloatFree = true → ControlFree (chars v)
  | .null, _ => by simp [chars]
  | .bool true, _ => by simp [chars]
  | .bool false, _ => by simp [chars]
  | .number (.integer n), _ => controlFree_integerText n
  | .string s, _ => controlFree_stringText s
  | .array vs, h => controlFree_cons.2 ⟨by decide, controlFree_itemChars vs h⟩
  | .object ms, h => controlFree_cons.2 ⟨by decide, controlFree_memberChars ms h⟩

theorem controlFree_itemChars :
    (vs : List Json) → itemsFloatFree vs = true → ControlFree (itemChars vs)
  | [], _ => by simp [itemChars]
  | [v], h => by
      rw [itemsFloatFree, Bool.and_eq_true] at h
      simp [itemChars, controlFree_chars v h.1]
  | v :: w :: rest, h => by
      rw [itemsFloatFree, Bool.and_eq_true] at h
      simp [itemChars, controlFree_chars v h.1, controlFree_itemChars (w :: rest) h.2]

theorem controlFree_memberChars :
    (ms : List (String × Json)) → membersFloatFree ms = true → ControlFree (memberChars ms)
  | [], _ => by simp [memberChars]
  | [(k, v)], h => by
      rw [membersFloatFree, Bool.and_eq_true] at h
      simp [memberChars, controlFree_stringText k, controlFree_chars v h.1]
  | (k, v) :: m :: rest, h => by
      rw [membersFloatFree, Bool.and_eq_true] at h
      simp [memberChars, controlFree_stringText k, controlFree_chars v h.1,
        controlFree_memberChars (m :: rest) h.2]

end

end Json
end MessageQueue
