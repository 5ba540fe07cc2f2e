import Mathlib.Data.List.TakeWhile
import MessageQueue.Json.Printer
import MessageQueue.Json.Token

/-!
# Cutting texts of values into tokens

The text of a value is cut into the tokens of the value.  A token ends where the next one
begins, except for numbers, which go on as long as they can; what follows a number in the text of a
value never goes on with it.

Main results:

- Theorem `cutsInto_chars`: the text of a value is cut into its tokens.
- Theorem `tokens_chars`: so is the text of a value that stands alone.
-/

namespace MessageQueue
namespace Json

/-! ## Numbers -/

/-- What does not go on with a number. -/
def EndsNumber (cs : List Char) : Prop :=
  ∀ c ∈ cs.head?, c.isDigit = false ∧ c ≠ '.' ∧ c ≠ 'e' ∧ c ≠ 'E'

theorem endsNumber_nil : EndsNumber [] := by
  intro c hc
  cases hc

theorem leadingDigits_append {cs rest : List Char} (h : EndsNumber rest) :
    leadingDigits (cs ++ rest) = leadingDigits cs := by
  unfold leadingDigits
  congr 1
  induction cs with
  | nil =>
      cases rest with
      | nil => rfl
      | cons c tl => simp [(h c rfl).1]
  | cons c tl ih =>
      rw [List.cons_append, List.takeWhile_cons, List.takeWhile_cons, ih]

theorem afterDigits_append {cs rest : List Char} (h : EndsNumber rest) :
    afterDigits (cs ++ rest) = afterDigits cs ++ rest := by
  unfold afterDigits
  induction cs with
  | nil =>
      cases rest with
      | nil => rfl
      | cons c tl => simp [(h c rfl).1]
  | cons c tl ih =>
      rw [List.cons_append, List.dropWhile_cons, List.dropWhile_cons, ih]
      split <;> rfl

theorem scanFraction_of_ne {c : Char} (h : c ≠ '.') (cs : List Char) :
    scanFraction (c :: cs) = some (none, c :: cs) := by
  unfold scanFraction
  split
  · rename_i heq
    cases heq
    exact absurd rfl h
  · rfl

theorem scanFraction_append {cs rest after : List Char} {fraction : Option (List Nat)}
    (h : EndsNumber rest) (hscan : scanFraction cs = some (fraction, after)) :
    scanFraction (cs ++ rest) = some (fraction, after ++ rest) := by
  cases cs with
  | nil =>
      cases hscan
      cases rest with
      | nil => rfl
      | cons c tl => exact scanFraction_of_ne (h c rfl).2.1 tl
  | cons c tl =>
      by_cases hpoint : c = '.'
      · subst hpoint
        rw [List.cons_append]
        simp only [scanFraction] at hscan ⊢
        rw [leadingDigits_append h, afterDigits_append h]
        split at hscan
        · cases hscan
        · rename_i hne
          cases hscan
          rw [if_neg hne]
      · rw [scanFraction_of_ne hpoint] at hscan
        cases hscan
        exact scanFraction_of_ne hpoint (tl ++ rest)

theorem scanExponentDigits_append {cs rest after : List Char} {negative : Bool}
    {exponent : Option Int} (h : EndsNumber rest)
    (hscan : scanExponentDigits negative cs = some (exponent, after)) :
    scanExponentDigits negative (cs ++ rest) = some (exponent, after ++ rest) := by
  unfold scanExponentDigits at hscan ⊢
  rw [leadingDigits_append h, afterDigits_append h]
  split at hscan
  · cases hscan
  · rename_i hne
    cases hscan
    rw [if_neg hne]

theorem scanExponent_append {cs rest after : List Char} {exponent : Option Int}
    (h : EndsNumber rest) (hscan : scanExponent cs = some (exponent, after)) :
    scanExponent (cs ++ rest) = some (exponent, after ++ rest) := by
  cases cs with
  | nil =>
      cases hscan
      cases rest with
      | nil => rfl
      | cons c tl =>
          obtain ⟨-, -, he, hE⟩ := h c rfl
          simp [scanExponent, he, hE]
  | cons c tl =>
      by_cases hletter : c = 'e' ∨ c = 'E'
      · simp only [List.cons_append, scanExponent, if_pos hletter] at hscan ⊢
        cases tl with
        | nil => cases hscan
        | cons sign more =>
            rw [List.cons_append]
            split at hscan
            · rename_i heq
              cases heq
              exact scanExponentDigits_append h hscan
            · rename_i heq
              cases heq
              exact scanExponentDigits_append h hscan
            · rename_i hminus hplus
              split
              · rename_i heq
                cases heq
                exact absurd rfl (hminus more)
              · rename_i heq
                cases heq
                exact absurd rfl (hplus more)
              · exact scanExponentDigits_append h hscan
      · simp only [List.cons_append, scanExponent, if_neg hletter] at hscan ⊢
        cases hscan
        rfl

/-- A number that is cut off a text is cut off it the same way when something follows that does
not go on with it. -/
theorem scanNumeral_append {cs rest after : List Char} {negative : Bool} {numeral : Numeral}
    (h : EndsNumber rest) (hscan : scanNumeral negative cs = some (numeral, after)) :
    scanNumeral negative (cs ++ rest) = some (numeral, after ++ rest) := by
  unfold scanNumeral at hscan ⊢
  rw [leadingDigits_append h, afterDigits_append h]
  split at hscan
  · cases hscan
  · cases hscan
  · rename_i hnil hzero
    obtain ⟨⟨fraction, more⟩, hfraction, hscan⟩ := Option.bind_eq_some_iff.1 hscan
    obtain ⟨⟨exponent, last⟩, hexponent, hscan⟩ := Option.bind_eq_some_iff.1 hscan
    cases hscan
    simp [scanFraction_append h hfraction, scanExponent_append h hexponent]

theorem isDigit_of_mem_digits {n : Nat} {c : Char} (h : c ∈ Text.digits n) :
    c.isDigit = true :=
  Nat.isDigit_of_mem_toDigits (by decide) (by decide) h

/-- The values of digits, each as far from zero as its place in the alphabet. -/
theorem leadingDigits_digits (n : Nat) :
    leadingDigits (Text.digits n) = (Text.digits n).map fun c => c.toNat - 48 := by
  unfold leadingDigits
  rw [List.takeWhile_eq_self_iff.2]
  exact fun c hc => isDigit_of_mem_digits hc

theorem afterDigits_digits (n : Nat) : afterDigits (Text.digits n) = [] := by
  unfold afterDigits
  rw [List.dropWhile_eq_nil_iff]
  exact fun c hc => isDigit_of_mem_digits hc

/-- Digits that stay below `2 ^ 64` are gathered without loss. -/
theorem gatherWhole_of_lt {ds : List Nat} {acc : Nat}
    (h : ds.foldl (fun acc d => acc * 10 + d) acc < Nat.pow 2 64) :
    Decimal.gatherWhole acc ds = ⟨ds.foldl (fun acc d => acc * 10 + d) acc, 0⟩ := by
  induction ds generalizing acc with
  | nil => rfl
  | cons d rest ih =>
      have hgrows (xs : List Nat) (k : Nat) : k ≤ xs.foldl (fun acc d => acc * 10 + d) k := by
        induction xs generalizing k with
        | nil => exact Nat.le_refl k
        | cons x xs ihx => exact Nat.le_trans (by omega) (ihx (k * 10 + x))
      have hfits : Decimal.fits acc d = true :=
        decide_eq_true (Nat.lt_of_le_of_lt (hgrows rest (acc * 10 + d)) h)
      rw [Decimal.gatherWhole, if_pos hfits]
      exact ih h

/-- The digits of a number are gathered to that number. -/
theorem gatherWhole_digits {n : Nat} (h : n < Nat.pow 2 64) :
    Decimal.gatherWhole 0 ((Text.digits n).map fun c => c.toNat - 48) = ⟨n, 0⟩ := by
  have hfold : ((Text.digits n).map fun c => c.toNat - 48).foldl (fun acc d => acc * 10 + d) 0 =
      n := by
    calc ((Text.digits n).map fun c => c.toNat - 48).foldl (fun acc d => acc * 10 + d) 0
      _ = (Text.digits n).foldl (fun acc c => 10 * acc + (c.toNat - 48)) 0 := by
          rw [List.foldl_map]
          simp only [Nat.mul_comm]
      _ = n := Nat.ofDigitChars_toDigits (by decide) (by decide)
  rw [gatherWhole_of_lt (by rwa [hfold]), hfold]

/-- The digits of a number below ten. -/
theorem digits_of_lt {n : Nat} (h : n < 10) : Text.digits n = [Nat.digitChar n] :=
  Nat.toDigits_of_lt_base h

/-- The digits of a number of at least ten: those of its tenth and the last. -/
theorem digits_of_le {n : Nat} (h : 10 ≤ n) :
    Text.digits n = Text.digits (n / 10) ++ [Nat.digitChar (n % 10)] :=
  Nat.toDigits_of_base_le (by decide) h

/-- The values of the digits of a number are not empty, and begin with a zero only when the
number is zero. -/
theorem digitValues_cases (n : Nat) :
    (n = 0 ∧ (Text.digits n).map (fun c => c.toNat - 48) = [0]) ∨
      ∃ d ds, d ≠ 0 ∧ (Text.digits n).map (fun c => c.toNat - 48) = d :: ds := by
  induction n using Nat.strongRecOn with
  | ind n ih =>
      by_cases hten : n < 10
      · rw [digits_of_lt hten, List.map_singleton, Nat.toNat_digitChar_sub_48_of_lt_ten hten]
        by_cases hzero : n = 0
        · exact .inl ⟨hzero, by rw [hzero]⟩
        · exact .inr ⟨n, [], hzero, rfl⟩
      · have hle : 10 ≤ n := Nat.le_of_not_lt hten
        rw [digits_of_le hle, List.map_append]
        rcases ih (n / 10) (by omega) with ⟨hzero, -⟩ | ⟨d, ds, hd, heq⟩
        · omega
        · exact .inr ⟨d, _, hd, by rw [heq]; rfl⟩

/-- The digits of a number are a numeral without fraction and exponent. -/
theorem scanNumeral_digits (negative : Bool) (n : Nat) :
    scanNumeral negative (Text.digits n) =
      some (⟨negative, (Text.digits n).map fun c => c.toNat - 48, none, none⟩, []) := by
  unfold scanNumeral
  rw [leadingDigits_digits, afterDigits_digits]
  rcases digitValues_cases n with ⟨-, heq⟩ | ⟨d, ds, hd, heq⟩
  · rw [heq]
    rfl
  · rw [heq]
    split
    · rename_i hnil
      cases hnil
    · rename_i hzero
      cases hzero
      exact absurd rfl hd
    · rfl

/-- The numeral of the digits of a number, with or without a minus sign, stands for it. -/
theorem number?_digits {n : Int} (h : isWide n = true) :
    (⟨decide (n < 0), (Text.digits n.natAbs).map fun c => c.toNat - 48, none, none⟩ :
      Numeral).number? = some (.integer n) := by
  have hrange : -9223372036854775808 ≤ n ∧ n ≤ 18446744073709551615 := by
    simpa [isWide] using h
  have hlt : n.natAbs < Nat.pow 2 64 := by
    have hpow : Nat.pow 2 64 = 18446744073709551616 := by decide
    omega
  have hpow : Nat.pow 2 63 = 9223372036854775808 := by decide
  have hgather := gatherWhole_digits hlt
  by_cases hneg : n < 0
  · have hsmall : ¬(n.natAbs = 0 ∨ Nat.pow 2 63 < n.natAbs) := by omega
    have hback : -(n.natAbs : Int) = n := by omega
    simp only [Numeral.number?, Numeral.whole?, hgather, hneg, decide_true, if_neg hsmall, hback]
    rfl
  · have hback : (n.natAbs : Int) = n := by omega
    simp only [Numeral.number?, Numeral.whole?, hgather, hneg, decide_false, hback]
    rfl

/-! ## Single tokens -/

/-- A token that begins with a minus sign is a number. -/
theorem nextToken_minus (cs : List Char) :
    nextToken ('-' :: cs) =
      (scanNumeral true cs).map fun p => (.number p.1.number?, p.2) := by
  cases hscan : scanNumeral true cs <;> simp [nextToken, mark?, hscan]

/-- A character that is none of some others. -/
theorem ne_of_isDigit {c d : Char} (h : c.isDigit = true) (hd : d.isDigit = false) : c ≠ d := by
  rintro rfl
  cases h.symm.trans hd

/-- A token that begins with a digit is a number. -/
theorem nextToken_of_isDigit {c : Char} (h : c.isDigit = true) (cs : List Char) :
    nextToken (c :: cs) =
      (scanNumeral false (c :: cs)).map fun p => (.number p.1.number?, p.2) := by
  have hmark : mark? c = none := by
    unfold mark?
    simp [ne_of_isDigit h (d := '['), ne_of_isDigit h (d := ']'), ne_of_isDigit h (d := '\x7b'),
      ne_of_isDigit h (d := '\x7d'), ne_of_isDigit h (d := ','), ne_of_isDigit h (d := ':')]
  unfold nextToken
  split
  · rename_i heq
    cases heq
  · rename_i heq
    cases heq
    cases h
  · rename_i heq
    cases heq
    cases h
  · rename_i heq
    cases heq
    cases h
  · rename_i heq
    cases heq
    rw [hmark]
    simp only [if_neg (ne_of_isDigit h (show '"'.isDigit = false from rfl)),
      if_neg (ne_of_isDigit h (show '-'.isDigit = false from rfl)), if_pos h]
    cases scanNumeral false (c :: cs) <;> rfl

/-- No mark is a number. -/
theorem mark?_ne_number (c : Char) (value : Option Number) : mark? c ≠ some (.number value) := by
  unfold mark?
  repeat' split
  all_goals simp

/-- Numbers begin with a digit or a minus sign. -/
theorem head_of_nextToken_number {cs after : List Char} {value : Option Number}
    (h : nextToken cs = some (.number value, after)) :
    ∃ c tl, cs = c :: tl ∧ (c = '-' ∨ c.isDigit = true) := by
  unfold nextToken at h
  split at h
  · cases h
  · cases h
  · cases h
  · cases h
  · rename_i c tl _ _ _
    refine ⟨c, tl, rfl, ?_⟩
    split at h
    · rename_i token hmark
      cases h
      exact absurd hmark (mark?_ne_number c value)
    · split at h
      · obtain ⟨p, -, heq⟩ := Option.bind_eq_some_iff.1 h
        cases heq
      · split at h
        · exact .inl ‹_›
        · split at h
          · exact .inr ‹_›
          · cases h

/-- A number that is a token of its own is one in front of what does not go on with it. -/
theorem nextToken_number_append {cs rest : List Char} {value : Option Number}
    (h : nextToken cs = some (.number value, [])) (hrest : EndsNumber rest) :
    nextToken (cs ++ rest) = some (.number value, rest) := by
  obtain ⟨c, tl, rfl, hc⟩ := head_of_nextToken_number h
  rw [List.cons_append]
  rcases hc with rfl | hc
  · rw [nextToken_minus] at h ⊢
    obtain ⟨⟨numeral, after⟩, hscan, heq⟩ := Option.map_eq_some_iff.1 h
    cases heq
    rw [scanNumeral_append hrest hscan]
    rfl
  · rw [nextToken_of_isDigit hc] at h ⊢
    obtain ⟨⟨numeral, after⟩, hscan, heq⟩ := Option.map_eq_some_iff.1 h
    cases heq
    rw [← List.cons_append, scanNumeral_append hrest hscan]
    rfl

/-- The text of an integer is a token of its own. -/
theorem nextToken_integerText {n : Int} (h : isWide n = true) :
    nextToken (integerText n) = some (.number (some (.integer n)), []) := by
  have hnumber := number?_digits h
  unfold integerText
  split
  · rename_i hneg
    rw [nextToken_minus, scanNumeral_digits]
    simp only [hneg, decide_true] at hnumber
    rw [Option.map_some, hnumber]
  · rename_i hneg
    simp only [hneg, decide_false] at hnumber
    cases hdigits : Text.digits n.natAbs with
    | nil => exact absurd hdigits Nat.toDigits_ne_nil
    | cons c tl =>
        have hc : c.isDigit = true :=
          isDigit_of_mem_digits (hdigits ▸ List.mem_cons_self)
        rw [nextToken_of_isDigit hc, ← hdigits, scanNumeral_digits, Option.map_some, hnumber]

/-! ## Strings -/

/-- How a character stands in the text of a string: a control without a letter of its own by its
number, every other one as the character that it is. -/
def pieceOf (c : Char) : Piece :=
  if c.toNat < 0x20 ∧ c ≠ '\x08' ∧ c ≠ '\x0c' ∧ c ≠ '\n' ∧ c ≠ '\r' ∧ c ≠ '\t' then
    .unit c.toNat
  else .char c

/-- The digits of a control stand for its number. -/
theorem hexUnit?_control : ∀ k < 0x20,
    hexUnit? '0' '0' (Nat.digitChar (k / 16)) (Nat.digitChar (k % 16)) = some k := by
  decide

/-- The escaped form of a character is read as its piece. -/
theorem scanPieces_escape {c : Char} {cs after : List Char} {pieces : List Piece}
    (h : scanPieces cs = some (pieces, after)) :
    scanPieces (escape c ++ cs) = some (pieceOf c :: pieces, after) := by
  by_cases hshort : c = '"' ∨ c = '\\' ∨ c = '\x08' ∨ c = '\x0c' ∨ c = '\n' ∨ c = '\r' ∨ c = '\t'
  · rcases hshort with rfl | rfl | rfl | rfl | rfl | rfl | rfl <;>
      simp [escape, scanPieces, shortEscape?, pieceOf, h]
  · simp only [not_or] at hshort
    obtain ⟨hquote, hback, hb, hf, hn, hr, ht⟩ := hshort
    by_cases hlow : c.toNat < 0x20
    · simp [escape, scanPieces, pieceOf, hquote, hback, hb, hf, hn, hr, ht, hlow,
        hexUnit?_control _ hlow, h]
    · rw [escape_visible (Nat.le_of_not_lt hlow) hquote hback]
      simp [scanPieces, pieceOf, hquote, hback, hlow, h]

/-- A string is read up to its closing quote, character by character. -/
theorem scanPieces_string (cs rest : List Char) :
    scanPieces (cs.flatMap escape ++ '"' :: rest) = some (cs.map pieceOf, rest) := by
  induction cs with
  | nil => simp [scanPieces]
  | cons c tl ih =>
      rw [List.flatMap_cons, List.append_assoc]
      exact scanPieces_escape ih

/-- A unit that is no half of a pair is a character by itself. -/
theorem assemble_unit {n : Nat} (h : n < 0xD800) (pieces : List Piece) :
    assemble (.unit n :: pieces) = (assemble pieces).map (Char.ofNat n :: ·) := by
  have hhigh : isHighSurrogate n = false := by simp [isHighSurrogate]; omega
  have hlow : isLowSurrogate n = false := by simp [isLowSurrogate]; omega
  cases pieces with
  | nil => simp [assemble, hhigh, hlow]
  | cons piece rest => cases piece <;> simp [assemble, hhigh, hlow]

/-- The pieces of characters assemble to the characters. -/
theorem assemble_pieceOf (cs : List Char) : assemble (cs.map pieceOf) = some cs := by
  induction cs with
  | nil => rfl
  | cons c tl ih =>
      rw [List.map_cons]
      by_cases hunit : c.toNat < 0x20 ∧ c ≠ '\x08' ∧ c ≠ '\x0c' ∧ c ≠ '\n' ∧ c ≠ '\r' ∧ c ≠ '\t'
      · rw [pieceOf, if_pos hunit, assemble_unit (by omega), ih, Char.ofNat_toNat]
        rfl
      · rw [pieceOf, if_neg hunit, assemble, ih]
        rfl

/-- The text of a string is a token of its own, whatever follows. -/
theorem nextToken_stringText (s : String) (rest : List Char) :
    nextToken (stringText s ++ rest) = some (.string (some s), rest) := by
  have hpieces := scanPieces_string s.toList rest
  simp [stringText, nextToken, mark?, hpieces, assemble_pieceOf]

/-! ## Tokens of values -/

mutual

/-- The tokens of a value. -/
def tokensOf : Json → List Token
  | .null => [.null]
  | .bool b => [.bool b]
  | .number n => [.number (some n)]
  | .string s => [.string (some s)]
  | .array vs => .openArray :: itemTokens vs
  | .object ms => .openObject :: memberTokens ms

/-- The tokens of the items of an array, with the closing bracket. -/
def itemTokens : List Json → List Token
  | [] => [.closeArray]
  | [v] => tokensOf v ++ [.closeArray]
  | v :: rest => tokensOf v ++ .comma :: itemTokens rest

/-- The tokens of the members of an object, with the closing brace. -/
def memberTokens : List (String × Json) → List Token
  | [] => [.closeObject]
  | [(k, v)] => .string (some k) :: .colon :: tokensOf v ++ [.closeObject]
  | (k, v) :: rest => .string (some k) :: .colon :: tokensOf v ++ .comma :: memberTokens rest

end

/-- Some characters are cut into some tokens in front of others, whatever bound is left for
those. -/
def CutsInto (cs : List Char) (ts : List Token) (rest : List Char) : Prop :=
  ts.length ≤ cs.length ∧
    ∀ n, tokensWithin (n + ts.length) (cs ++ rest) = ts ++ tokensWithin n rest

/-- Characters that are a token by themselves. -/
theorem cutsInto_singleton {c : Char} {cs rest : List Char} {token : Token}
    (hspace : isSpace c = false) (h : nextToken (c :: cs ++ rest) = some (token, rest)) :
    CutsInto (c :: cs) [token] rest := by
  refine ⟨by simp, fun n => ?_⟩
  rw [List.length_singleton, List.cons_append] at *
  rw [tokensWithin]
  simp [hspace, h]

/-- Characters that are cut one after the other. -/
theorem CutsInto.append {cs ds rest : List Char} {ts us : List Token}
    (hcs : CutsInto cs ts (ds ++ rest)) (hds : CutsInto ds us rest) :
    CutsInto (cs ++ ds) (ts ++ us) rest := by
  refine ⟨?_, fun n => ?_⟩
  · rw [List.length_append, List.length_append]
    exact Nat.add_le_add hcs.1 hds.1
  · rw [List.length_append, List.append_assoc, Nat.add_comm ts.length, ← Nat.add_assoc, hcs.2,
      hds.2, List.append_assoc]

/-! ## Texts of values -/

mutual

/-- The floating point numbers in a value. -/
def floats : Json → List Float
  | .null | .bool _ | .string _ | .number (.integer _) => []
  | .number (.float x) => [x]
  | .array vs => itemFloats vs
  | .object ms => memberFloats ms

/-- The floating point numbers in the items of an array. -/
def itemFloats : List Json → List Float
  | [] => []
  | v :: rest => floats v ++ itemFloats rest

/-- The floating point numbers in the values of an object. -/
def memberFloats : List (String × Json) → List Float
  | [] => []
  | (_, v) :: rest => floats v ++ memberFloats rest

end

/-- A floating point number reads back when its text is a token of its own that stands for that
number.  Not every one does: its digits may be scaled to a neighbour of it. -/
def ReadsBack (x : Float) : Prop :=
  nextToken (floatText x).toList = some (.number (some (.float x)), [])

instance (x : Float) : Decidable (ReadsBack x) :=
  inferInstanceAs (Decidable (_ = _))

/-- A number that is a token of its own is cut off what does not go on with it. -/
theorem cutsInto_number {cs rest : List Char} {value : Option Number}
    (h : nextToken cs = some (.number value, [])) (hrest : EndsNumber rest) :
    CutsInto cs [.number value] rest := by
  obtain ⟨c, tl, rfl, hc⟩ := head_of_nextToken_number h
  refine cutsInto_singleton ?_ (nextToken_number_append h hrest)
  rcases hc with rfl | hc
  · rfl
  · simp [isSpace, ne_of_isDigit hc (d := ' '), ne_of_isDigit hc (d := '\n'),
      ne_of_isDigit hc (d := '\t'), ne_of_isDigit hc (d := '\r')]

/-- The text of a string is cut off whatever follows. -/
theorem cutsInto_string (s : String) (rest : List Char) :
    CutsInto (stringText s) [.string (some s)] rest :=
  cutsInto_singleton rfl (nextToken_stringText s rest)

/-- A mark is cut off whatever follows. -/
theorem cutsInto_mark {c : Char} {token : Token} (hspace : isSpace c = false)
    (h : ∀ rest, nextToken (c :: rest) = some (token, rest)) (rest : List Char) :
    CutsInto [c] [token] rest :=
  cutsInto_singleton hspace (h rest)

theorem cutsInto_closeArray (rest : List Char) : CutsInto [']'] [.closeArray] rest :=
  cutsInto_mark rfl (fun _ => rfl) rest

theorem cutsInto_closeObject (rest : List Char) : CutsInto ['\x7d'] [.closeObject] rest :=
  cutsInto_mark rfl (fun _ => rfl) rest

/-- Characters with a mark behind them. -/
theorem CutsInto.closed {cs rest : List Char} {ts : List Token} {c : Char} {token : Token}
    (hcs : CutsInto cs ts (c :: rest)) (hmark : CutsInto [c] [token] rest) :
    CutsInto (cs ++ [c]) (ts ++ [token]) rest :=
  CutsInto.append hcs hmark

/-- Characters with a comma between them. -/
theorem CutsInto.comma {cs ds rest : List Char} {ts us : List Token}
    (hcs : CutsInto cs ts (',' :: (ds ++ rest))) (hds : CutsInto ds us rest) :
    CutsInto (cs ++ ',' :: ds) (ts ++ .comma :: us) rest := by
  have hcomma : CutsInto [','] [.comma] (ds ++ rest) := cutsInto_mark rfl (fun _ => rfl) _
  exact CutsInto.append hcs (hcomma.append hds)

/-- A name and a colon are cut off in front of what is cut into tokens. -/
theorem cutsInto_member (k : String) {cs rest : List Char} {ts : List Token}
    (h : CutsInto cs ts rest) :
    CutsInto (stringText k ++ ':' :: cs) (.string (some k) :: .colon :: ts) rest :=
  (cutsInto_string k _).append ((cutsInto_mark rfl (fun _ => rfl) _).append h)

theorem endsNumber_cons {c : Char} (h : c = ',' ∨ c = ']' ∨ c = '\x7d') (rest : List Char) :
    EndsNumber (c :: rest) := by
  intro d hd
  cases hd
  rcases h with rfl | rfl | rfl <;> decide

mutual

/-- The text of a value is cut into its tokens in front of what does not go on with a number. -/
theorem cutsInto_chars : (v : Json) → v.isCanonical = true → (∀ x ∈ v.floats, ReadsBack x) →
    ∀ {rest}, EndsNumber rest → CutsInto (chars v) (tokensOf v) rest
  | .null, _, _, _, _ => cutsInto_singleton rfl rfl
  | .bool true, _, _, _, _ => cutsInto_singleton rfl rfl
  | .bool false, _, _, _, _ => cutsInto_singleton rfl rfl
  | .string s, _, _, _, _ => cutsInto_string s _
  | .number (.integer _), hcanonical, _, _, hrest =>
      cutsInto_number (nextToken_integerText hcanonical) hrest
  | .number (.float x), _, hfloats, _, hrest =>
      cutsInto_number (hfloats x List.mem_cons_self) hrest
  | .array vs, hcanonical, hfloats, _, _ =>
      (cutsInto_mark rfl (fun _ => rfl) _).append (cutsInto_itemChars vs hcanonical hfloats _)
  | .object ms, hcanonical, hfloats, _, _ => by
      rw [isCanonical, Bool.and_eq_true] at hcanonical
      exact (cutsInto_mark rfl (fun _ => rfl) _).append
        (cutsInto_memberChars ms hcanonical.1 hfloats _)

/-- The text of the items of an array is cut into their tokens. -/
theorem cutsInto_itemChars : (vs : List Json) → areCanonical vs = true →
    (∀ x ∈ itemFloats vs, ReadsBack x) → ∀ rest, CutsInto (itemChars vs) (itemTokens vs) rest
  | [], _, _, rest => cutsInto_closeArray rest
  | [v], hcanonical, hfloats, rest => by
      rw [areCanonical, Bool.and_eq_true] at hcanonical
      have hv := cutsInto_chars v hcanonical.1 (fun x hx => hfloats x (List.mem_append_left _ hx))
        (endsNumber_cons (.inr (.inl rfl)) rest)
      exact hv.closed (cutsInto_closeArray rest)
  | v :: w :: more, hcanonical, hfloats, rest => by
      rw [areCanonical, Bool.and_eq_true] at hcanonical
      have hv := cutsInto_chars v hcanonical.1 (fun x hx => hfloats x (List.mem_append_left _ hx))
        (endsNumber_cons (.inl rfl) (itemChars (w :: more) ++ rest))
      have hmore := cutsInto_itemChars (w :: more) hcanonical.2
        (fun x hx => hfloats x (List.mem_append_right _ hx)) rest
      exact hv.comma hmore

/-- The text of the members of an object is cut into their tokens. -/
theorem cutsInto_memberChars : (ms : List (String × Json)) → membersCanonical ms = true →
    (∀ x ∈ memberFloats ms, ReadsBack x) →
    ∀ rest, CutsInto (memberChars ms) (memberTokens ms) rest
  | [], _, _, rest => cutsInto_closeObject rest
  | [(k, v)], hcanonical, hfloats, rest => by
      rw [membersCanonical, Bool.and_eq_true] at hcanonical
      have hv := cutsInto_chars v hcanonical.1 (fun x hx => hfloats x (List.mem_append_left _ hx))
        (endsNumber_cons (.inr (.inr rfl)) rest)
      exact (cutsInto_member k hv).closed (cutsInto_closeObject rest)
  | (k, v) :: w :: more, hcanonical, hfloats, rest => by
      rw [membersCanonical, Bool.and_eq_true] at hcanonical
      have hv := cutsInto_chars v hcanonical.1 (fun x hx => hfloats x (List.mem_append_left _ hx))
        (endsNumber_cons (.inl rfl) (memberChars (w :: more) ++ rest))
      have hmore := cutsInto_memberChars (w :: more) hcanonical.2
        (fun x hx => hfloats x (List.mem_append_right _ hx)) rest
      exact (cutsInto_member k hv).comma hmore

end

/-- What is cut into tokens in front of nothing has these tokens. -/
theorem CutsInto.tokens_eq {cs : List Char} {ts : List Token} (h : CutsInto cs ts []) :
    tokens cs = ts := by
  obtain ⟨hlength, hcut⟩ := h
  have htokens := hcut (cs.length - ts.length)
  rw [Nat.sub_add_cancel hlength, List.append_nil] at htokens
  rw [tokens, htokens]
  cases cs.length - ts.length <;> simp [tokensWithin]

/-- The text of a value that stands alone is cut into its tokens. -/
theorem tokens_chars {v : Json} (hcanonical : v.isCanonical = true)
    (hfloats : ∀ x ∈ v.floats, ReadsBack x) : tokens (chars v) = tokensOf v :=
  (cutsInto_chars v hcanonical hfloats endsNumber_nil).tokens_eq

/-- So is the text of an object whose members are written in any order. -/
theorem tokens_object {ms : List (String × Json)} (hcanonical : membersCanonical ms = true)
    (hfloats : ∀ x ∈ memberFloats ms, ReadsBack x) :
    tokens (chars (.object ms)) = tokensOf (.object ms) := by
  have hmembers := cutsInto_memberChars ms hcanonical hfloats []
  have hbrace : CutsInto ['\x7b'] [.openObject] (memberChars ms ++ []) :=
    cutsInto_mark rfl (fun _ => rfl) _
  exact (hbrace.append hmembers).tokens_eq

end Json
end MessageQueue
