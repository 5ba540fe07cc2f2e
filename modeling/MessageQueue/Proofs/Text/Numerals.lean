import MessageQueue.Text.Blank
import MessageQueue.Text.Integer

/-!
# Numerals

A numeral is one or more digits behind a sign, if there is one; only a signed type has a minus.  A
text is read as an integer of a type exactly when it is a numeral for a number of that type,
however many zeros it begins with.  Numerals neither begin nor end with a blank, so that blanks
around them can be told apart from them.

Main results:

- Theorem `readInteger_eq_ok_iff`: which texts are read, and as which number.
- Theorem `readInteger_trim_eq_ok_iff`: the same with blanks around them.
-/

namespace MessageQueue
namespace Text

variable {t : IntType} {cs : List Char} {n : Int}

/-! ## Numbers from digits -/

/-- A number is not smaller than the digits read of it so far. -/
theorem le_ofDigitChars (ds : List Char) (n : Nat) : n ≤ Nat.ofDigitChars 10 ds n := by
  rw [Nat.ofDigitChars_eq_ofDigitChars_zero]
  calc n = 1 * n := (Nat.one_mul n).symm
    _ ≤ 10 ^ ds.length * n := Nat.mul_le_mul_right n (Nat.one_le_pow _ _ (by decide))
    _ ≤ _ := Nat.le_add_right _ _

/-- A number with the sign of a text. -/
def signed (negative : Bool) (n : Nat) : Int := if negative then -n else n

theorem appendDigit_signed (negative : Bool) (n d : Nat) :
    appendDigit negative (signed negative n) d = signed negative (10 * n + d) := by
  cases negative <;> simp only [appendDigit, signed] <;> simp <;> omega

/-- A type that has a number has all between it and zero. -/
theorem contains_signed {negative : Bool} {m n : Nat} (hle : m ≤ n)
    (h : t.contains (signed negative n) = true) : t.contains (signed negative m) = true := by
  have hzero := IntType.contains_iff.1 t.contains_zero
  rw [IntType.contains_iff] at h ⊢
  cases negative <;> simp only [signed] at h ⊢ <;> simp at h ⊢ <;> omega

/-- Digits are read as long as the number stays in the type, which is as long as the whole number is
in it. -/
theorem readDigits_eq_ok_iff {negative : Bool} {m : Nat}
    (hm : t.contains (signed negative m) = true) :
    readDigits t negative (signed negative m) cs = .ok n ↔
      (∀ c ∈ cs, c.isDigit = true) ∧
        t.contains (signed negative (Nat.ofDigitChars 10 cs m)) = true ∧
        n = signed negative (Nat.ofDigitChars 10 cs m) := by
  induction cs generalizing m with
  | nil =>
      simp only [readDigits, Nat.ofDigitChars_nil, hm, Except.ok.injEq, eq_comm]
      simp
  | cons c rest ih =>
      by_cases hc : c.isDigit = true
      · have hread : digitValue? c = some (c.toNat - 48) := digitValue?_of_isDigit hc
        have hnext : 10 * m + (c.toNat - 48) ≤ Nat.ofDigitChars 10 (c :: rest) m := by
          rw [Nat.ofDigitChars_cons]
          exact le_ofDigitChars rest _
        simp only [readDigits, hread, appendDigit_signed]
        by_cases hin : t.contains (signed negative (10 * m + (c.toNat - 48))) = true
        · rw [if_pos hin, ih hin, Nat.ofDigitChars_cons]
          simp only [List.forall_mem_cons, hc, true_and]
          rfl
        · have hout : ¬t.contains (signed negative (Nat.ofDigitChars 10 (c :: rest) m)) = true :=
            fun h => hin (contains_signed hnext h)
          simp [if_neg hin, hout]
      · have hread : digitValue? c = none := by rw [digitValue?, if_neg hc]
        simp [readDigits, hread, hc]

/-! ## Numerals -/

/-- A text that stands for a number: digits behind a sign, if there is one. -/
inductive IsNumeral (t : IntType) : List Char → Int → Prop
  | plain {ds : List Char} (hne : ds ≠ []) (hdigits : ∀ c ∈ ds, c.isDigit = true) :
      IsNumeral t ds (Nat.ofDigitChars 10 ds 0)
  | plus {ds : List Char} (hne : ds ≠ []) (hdigits : ∀ c ∈ ds, c.isDigit = true) :
      IsNumeral t ('+' :: ds) (Nat.ofDigitChars 10 ds 0)
  | minus {ds : List Char} (hsigned : t.isSigned = true) (hne : ds ≠ [])
      (hdigits : ∀ c ∈ ds, c.isDigit = true) :
      IsNumeral t ('-' :: ds) (-(Nat.ofDigitChars 10 ds 0 : Nat))

/-- A number in digits behind a sign is read when it is in the type. -/
theorem readDigits_zero_eq_ok_iff (negative : Bool) :
    readDigits t negative 0 cs = .ok n ↔
      (∀ c ∈ cs, c.isDigit = true) ∧
        t.contains (signed negative (Nat.ofDigitChars 10 cs 0)) = true ∧
        n = signed negative (Nat.ofDigitChars 10 cs 0) := by
  have hzero : signed negative 0 = 0 := by cases negative <;> rfl
  have hin : t.contains (signed negative 0) = true := hzero.symm ▸ t.contains_zero
  rw [← readDigits_eq_ok_iff hin, hzero]

/-- A plus in front of something is passed over. -/
theorem readInteger_plus (hne : cs ≠ []) : readInteger t ('+' :: cs) = readDigits t false 0 cs := by
  cases cs with
  | nil => contradiction
  | cons d rest => rw [readInteger, if_pos rfl]; simp

/-- So is a minus, if the type has one, and the number is below zero. -/
theorem readInteger_minus (hsigned : t.isSigned = true) (hne : cs ≠ []) :
    readInteger t ('-' :: cs) = readDigits t true 0 cs := by
  cases cs with
  | nil => contradiction
  | cons d rest => simp [readInteger, hsigned]

/-- Anything else has to be digits. -/
theorem readInteger_plain {c : Char} {rest : List Char}
    (h : rest = [] ∨ (c ≠ '+' ∧ ¬(c = '-' ∧ t.isSigned = true))) :
    readInteger t (c :: rest) = readDigits t false 0 (c :: rest) := by
  cases rest with
  | nil => rfl
  | cons d rest =>
      obtain ⟨hplus, hminus⟩ := h.resolve_left (List.cons_ne_nil d rest)
      simp [readInteger, hplus, hminus]

/-- The texts that are read as integers of a type are the numerals for its numbers. -/
theorem readInteger_eq_ok_iff :
    readInteger t cs = .ok n ↔ IsNumeral t cs n ∧ t.contains n = true := by
  constructor
  · intro h
    refine ⟨?_, readInteger_contains h⟩
    cases cs with
    | nil => cases h
    | cons c rest =>
        by_cases hplain : rest = [] ∨ (c ≠ '+' ∧ ¬(c = '-' ∧ t.isSigned = true))
        · rw [readInteger_plain hplain, readDigits_zero_eq_ok_iff] at h
          obtain ⟨hdigits, -, rfl⟩ := h
          exact .plain (List.cons_ne_nil c rest) hdigits
        · obtain ⟨hne, hsign⟩ := not_or.1 hplain
          by_cases hplus : c = '+'
          · subst hplus
            rw [readInteger_plus hne, readDigits_zero_eq_ok_iff] at h
            obtain ⟨hdigits, -, rfl⟩ := h
            exact .plus hne hdigits
          · obtain ⟨rfl, hsigned⟩ :=
              Decidable.byContradiction fun hminus => hsign ⟨hplus, hminus⟩
            rw [readInteger_minus hsigned hne, readDigits_zero_eq_ok_iff] at h
            obtain ⟨hdigits, -, rfl⟩ := h
            exact .minus hsigned hne hdigits
  · rintro ⟨hnumeral, hin⟩
    cases hnumeral with
    | plain hne hdigits =>
        cases cs with
        | nil => contradiction
        | cons c rest =>
            have hc : c.isDigit = true := hdigits c List.mem_cons_self
            have hsign : c ≠ '+' ∧ ¬(c = '-' ∧ t.isSigned = true) := by
              constructor
              · rintro rfl
                exact absurd hc (by decide)
              · rintro ⟨rfl, -⟩
                exact absurd hc (by decide)
            rw [readInteger_plain (.inr hsign)]
            exact (readDigits_zero_eq_ok_iff false).2 ⟨hdigits, hin, rfl⟩
    | plus hne hdigits =>
        rw [readInteger_plus hne]
        exact (readDigits_zero_eq_ok_iff false).2 ⟨hdigits, hin, rfl⟩
    | minus hsigned hne hdigits =>
        rw [readInteger_minus hsigned hne]
        exact (readDigits_zero_eq_ok_iff true).2 ⟨hdigits, hin, rfl⟩

/-! ## Blanks around numerals -/

theorem isBlank_of_isDigit {c : Char} (h : c.isDigit = true) : isBlank c = false := by
  have hrange : 48 ≤ c.toNat ∧ c.toNat ≤ 57 := by
    simpa [Char.isDigit, UInt32.le_iff_toNat_le] using h
  simp [isBlank]
  omega

/-- Digits neither begin nor end with a blank. -/
theorem isBlank_ends_of_isDigit (hdigits : ∀ c ∈ cs, c.isDigit = true) :
    (∀ c ∈ cs.head?, isBlank c = false) ∧ ∀ c ∈ cs.getLast?, isBlank c = false :=
  ⟨fun c hc => isBlank_of_isDigit (hdigits c (List.mem_of_mem_head? hc)),
    fun c hc => isBlank_of_isDigit (hdigits c (List.mem_of_mem_getLast? hc))⟩

theorem IsNumeral.ne_nil (h : IsNumeral t cs n) : cs ≠ [] := by
  cases h with
  | plain hne => exact hne
  | plus | minus => exact List.cons_ne_nil _ _

/-- A numeral neither begins nor ends with a blank. -/
theorem IsNumeral.isBlank_ends (h : IsNumeral t cs n) :
    (∀ c ∈ cs.head?, isBlank c = false) ∧ ∀ c ∈ cs.getLast?, isBlank c = false := by
  have hsign : ∀ {sign : Char} {ds : List Char}, isBlank sign = false → ds ≠ [] →
      (∀ c ∈ ds, c.isDigit = true) →
      (∀ c ∈ (sign :: ds).head?, isBlank c = false) ∧
        ∀ c ∈ (sign :: ds).getLast?, isBlank c = false := by
    intro sign ds hsign hne hdigits
    constructor
    · rintro c ⟨⟩
      exact hsign
    · rw [List.getLast?_cons_of_ne_nil hne]
      exact (isBlank_ends_of_isDigit hdigits).2
  cases h with
  | plain _ hdigits => exact isBlank_ends_of_isDigit hdigits
  | plus hne hdigits => exact hsign (by decide) hne hdigits
  | minus _ hne hdigits => exact hsign (by decide) hne hdigits

theorem trimStart_append {left : List Char} (hleft : ∀ c ∈ left, isBlank c = true)
    (hcs : ∀ c ∈ cs.head?, isBlank c = false) : trimStart (left ++ cs) = cs := by
  rw [trimStart, List.dropWhile_append_of_pos hleft]
  cases cs with
  | nil => rfl
  | cons c rest => exact trimStart_of_not_isBlank (hcs c rfl) rest

theorem trimEnd_append {right : List Char} (hright : ∀ c ∈ right, isBlank c = true)
    (hcs : ∀ c ∈ cs.getLast?, isBlank c = false) : trimEnd (cs ++ right) = cs := by
  have hstart : trimStart (right.reverse ++ cs.reverse) = cs.reverse := by
    apply trimStart_append
    · simpa using hright
    · simpa using hcs
  have hend : trimEnd (cs ++ right) = (trimStart (right.reverse ++ cs.reverse)).reverse := by
    rw [← List.reverse_append]
    rfl
  rw [hend, hstart, List.reverse_reverse]

/-- What neither begins nor ends with a blank is left when the blanks around it are. -/
theorem trim_append {left right : List Char} (hleft : ∀ c ∈ left, isBlank c = true)
    (hright : ∀ c ∈ right, isBlank c = true) (hne : cs ≠ [])
    (hfirst : ∀ c ∈ cs.head?, isBlank c = false) (hlast : ∀ c ∈ cs.getLast?, isBlank c = false) :
    trim (left ++ cs ++ right) = cs := by
  have hstart : trimStart (left ++ (cs ++ right)) = cs ++ right := by
    apply trimStart_append hleft
    cases cs with
    | nil => contradiction
    | cons c rest => exact hfirst
  rw [trim, List.append_assoc, hstart, trimEnd_append hright hlast]

theorem exists_trimStart (cs : List Char) :
    ∃ left, cs = left ++ trimStart cs ∧ ∀ c ∈ left, isBlank c = true :=
  ⟨cs.takeWhile isBlank, List.takeWhile_append_dropWhile.symm,
    List.all_eq_true.1 List.all_takeWhile⟩

/-- A text is what is left of it when it is trimmed, and blanks around that. -/
theorem exists_trim (cs : List Char) :
    ∃ left right, cs = left ++ trim cs ++ right ∧ (∀ c ∈ left, isBlank c = true) ∧
      ∀ c ∈ right, isBlank c = true := by
  obtain ⟨left, hcs, hleft⟩ := exists_trimStart cs
  obtain ⟨right, hend, hright⟩ := exists_trimStart (trimStart cs).reverse
  have htrim : trimStart cs = trim cs ++ right.reverse := by
    have h := congrArg List.reverse hend
    rwa [List.reverse_reverse, List.reverse_append] at h
  refine ⟨left, right.reverse, ?_, hleft, ?_⟩
  · rw [List.append_assoc, ← htrim, ← hcs]
  · simpa using hright

/-- A text stands for a number of a type when it is a numeral for the number with blanks around
it. -/
def Denotes (t : IntType) (cs : List Char) (n : Int) : Prop :=
  ∃ left numeral right, cs = left ++ numeral ++ right ∧
    (∀ c ∈ left, isBlank c = true) ∧ (∀ c ∈ right, isBlank c = true) ∧
      IsNumeral t numeral n ∧ t.lowest ≤ n ∧ n ≤ t.highest

/-- The texts that are read once blanks are left out are those that stand for numbers. -/
theorem readInteger_trim_eq_ok_iff : readInteger t (trim cs) = .ok n ↔ Denotes t cs n := by
  rw [readInteger_eq_ok_iff, IntType.contains_iff]
  constructor
  · rintro ⟨hnumeral, hin⟩
    obtain ⟨left, right, hcs, hleft, hright⟩ := exists_trim cs
    exact ⟨left, trim cs, right, hcs, hleft, hright, hnumeral, hin⟩
  · rintro ⟨left, numeral, right, rfl, hleft, hright, hnumeral, hin⟩
    rw [trim_append hleft hright hnumeral.ne_nil hnumeral.isBlank_ends.1 hnumeral.isBlank_ends.2]
    exact ⟨hnumeral, hin⟩

end Text
end MessageQueue
