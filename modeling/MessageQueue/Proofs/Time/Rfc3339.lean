import MessageQueue.Proofs.Text.Numerals
import MessageQueue.Proofs.Time.Calendar
import MessageQueue.Time.Rfc3339

/-!
# Reading the texts of instants

The text of an instant outside a leap second is read as that instant: its fields are taken off the
text one by one, and the fields make up the instant again.  Numbers are written with as many digits
as are read at most, or something that is no digit follows them.

Main results:

- Theorem `scanDigits_append`: digits are read up to their end.
- Theorem `scanFields_text`: the fields of a time are read from their text.
- Theorem `readInstant_zuluText`: reading undoes writing.
-/

namespace MessageQueue

namespace Text

/-! ## Padded digits -/

theorem isDigit_of_mem_paddedDigits {width n : Nat} {c : Char} (h : c ∈ paddedDigits width n) :
    c.isDigit = true := by
  rcases List.mem_append.1 h with hzero | hdigit
  · rw [List.eq_of_mem_replicate hzero]
    rfl
  · exact Nat.isDigit_of_mem_toDigits (by decide) (by decide) hdigit

/-- Zeros in front do not change a number. -/
theorem ofDigitChars_paddedDigits (width n : Nat) :
    Nat.ofDigitChars 10 (paddedDigits width n) 0 = n := by
  rw [paddedDigits, Nat.ofDigitChars_append, Nat.ofDigitChars_replicate_zero, Nat.mul_zero, digits,
    Nat.ofDigitChars_ten_toDigits]

/-- A number that fits a width is filled up to it. -/
theorem length_paddedDigits {width n : Nat} (hwidth : 0 < width) (h : n < Nat.pow 10 width) :
    (paddedDigits width n).length = width := by
  have hle : (digits n).length ≤ width := (Nat.length_toDigits_le_iff (by decide) hwidth).2 h
  rw [paddedDigits, List.length_append, List.length_replicate]
  omega

theorem exists_paddedDigits_eq_cons (width n : Nat) :
    ∃ c ds, paddedDigits width n = c :: ds ∧ c.isDigit = true := by
  cases heq : paddedDigits width n with
  | nil =>
    have hnil : digits n = [] := (List.append_eq_nil_iff.1 heq).2
    exact absurd hnil Nat.toDigits_ne_nil
  | cons c ds => exact ⟨c, ds, rfl, isDigit_of_mem_paddedDigits (heq ▸ List.mem_cons_self)⟩

end Text

namespace Time

variable {α β : Type}

/-! ## Steps of the reader -/

/-- A reader in two steps goes on where its first step ended. -/
theorem scan_bind_of_ok {s : Scan α} {cs rest : List Char} {a : α} (f : α → Scan β)
    (h : s cs = .ok (a, rest)) : (s >>= f) cs = f a rest := by
  change Except.bind (s cs) (fun p => f p.1 p.2) = _
  rw [h]
  rfl

theorem skipBlanks_of_not_isBlank {c : Char} (h : Text.isBlank c = false) (cs : List Char) :
    skipBlanks (c :: cs) = .ok ((), c :: cs) := by
  rw [skipBlanks, Text.trimStart_of_not_isBlank h]

/-- Digits are read up to their end: as many as are read at most, or up to what is no digit. -/
theorem scanDigits_append {ds rest : List Char} {most : Nat} (acc : Nat)
    (hdigits : ∀ c ∈ ds, c.isDigit = true) (hlength : ds.length ≤ most)
    (hend : ds.length = most ∨ ∀ c ∈ rest.head?, c.isDigit = false)
    (hlt : Nat.ofDigitChars 10 ds acc < 9223372036854775808) :
    scanDigits most acc (ds ++ rest) = .ok (Nat.ofDigitChars 10 ds acc, rest) := by
  induction ds generalizing most acc with
  | nil =>
    cases most with
    | zero => rfl
    | succ most =>
      have hrest := hend.resolve_left (by simp)
      cases rest with
      | nil => rfl
      | cons c tl =>
        have hnone : Text.digitValue? c = none := by
          rw [Text.digitValue?, if_neg (by simp [hrest c rfl])]
        rw [List.nil_append, scanDigits]
        simp only [hnone]
        rfl
  | cons c tl ih =>
    cases most with
    | zero => simp at hlength
    | succ most =>
      rw [Nat.ofDigitChars_cons, Nat.mul_comm] at hlt ⊢
      have hfits : acc * 10 + (c.toNat - 48) < 9223372036854775808 :=
        Nat.lt_of_le_of_lt (Text.le_ofDigitChars tl _) hlt
      rw [List.cons_append, scanDigits]
      simp only [Text.digitValue?_of_isDigit (hdigits c List.mem_cons_self), if_pos hfits]
      exact ih _ (fun d hd => hdigits d (List.mem_cons_of_mem c hd))
        (Nat.le_of_succ_le_succ hlength) (hend.imp_left Nat.succ_inj.1) hlt

/-- A padded number is read up to its end. -/
theorem scanNumber_paddedDigits {width n most : Nat} (rest : List Char)
    (hlength : (Text.paddedDigits width n).length ≤ most)
    (hend : (Text.paddedDigits width n).length = most ∨ ∀ c ∈ rest.head?, c.isDigit = false)
    (hlt : n < 9223372036854775808) :
    scanNumber most (Text.paddedDigits width n ++ rest) = .ok (n, rest) := by
  have hdigits : ∀ c ∈ Text.paddedDigits width n, c.isDigit = true :=
    fun _ => Text.isDigit_of_mem_paddedDigits
  have hscan := scanDigits_append 0 hdigits hlength hend (by rwa [Text.ofDigitChars_paddedDigits])
  rw [Text.ofDigitChars_paddedDigits] at hscan
  obtain ⟨c, ds, heq, hc⟩ := Text.exists_paddedDigits_eq_cons width n
  rw [heq, List.cons_append] at hscan ⊢
  rw [scanNumber, if_pos hc, hscan]

/-! ## Fields -/

/-- A field of two digits is read if it lies in its range. -/
theorem scanField_paddedDigits {lowest highest n : Nat} (hlowest : lowest ≤ n)
    (hhighest : n ≤ highest) (hlt : highest < 100) (rest : List Char) :
    scanField lowest highest (Text.paddedDigits 2 n ++ rest) = .ok (n, rest) := by
  have hlength : (Text.paddedDigits 2 n).length = 2 :=
    Text.length_paddedDigits (by decide) (Nat.lt_of_le_of_lt hhighest hlt)
  have hnumber := scanNumber_paddedDigits rest (Nat.le_of_eq hlength) (.inl hlength) (by omega)
  obtain ⟨c, ds, heq, hc⟩ := Text.exists_paddedDigits_eq_cons 2 n
  have hblanks := skipBlanks_of_not_isBlank (Text.isBlank_of_isDigit hc) (ds ++ rest)
  rw [heq, List.cons_append] at hnumber ⊢
  rw [scanField, scan_bind_of_ok _ hblanks, scan_bind_of_ok _ hnumber,
    if_pos ⟨hlowest, hhighest⟩]
  rfl

/-- A separator that is there is passed over. -/
theorem scanSeparator_cons {c : Char} (h : Text.isBlank c = false) (rest : List Char) :
    scanSeparator c (c :: rest) = .ok ((), rest) := by
  have hchar : scanChar (· == c) (c :: rest) = .ok (c, rest) := by simp [scanChar]
  rw [scanSeparator, scan_bind_of_ok _ (skipBlanks_of_not_isBlank h rest),
    scan_bind_of_ok _ hchar]
  rfl

/-- Digits without a sign are those of a year of up to four digits. -/
theorem scanSignedYear_of_isDigit {c : Char} (h : c.isDigit = true) (cs : List Char) :
    scanSignedYear (c :: cs) = (fun r => ((r.1 : Int), r.2)) <$> scanNumber 4 (c :: cs) := by
  unfold scanSignedYear
  split
  · rename_i heq
    cases heq
    cases h
  · rename_i heq
    cases heq
    cases h
  · rfl

/-- The digits of a year are read up to what is no digit. -/
theorem scanSignedYear_yearText {year : Int} (h : year.natAbs < 1000000) {c : Char}
    (hc : c.isDigit = false) (rest : List Char) :
    scanSignedYear (yearText year ++ c :: rest) = .ok (year, c :: rest) := by
  have hend : ∀ d ∈ (c :: rest).head?, d.isDigit = false := by
    intro d hd
    cases hd
    exact hc
  rw [yearText]
  by_cases hplain : 0 ≤ year ∧ year ≤ 9999
  · have hlength : (Text.paddedDigits 4 year.natAbs).length = 4 :=
      Text.length_paddedDigits (by decide) (show year.natAbs < 10000 by omega)
    have hnumber := scanNumber_paddedDigits (c :: rest) (Nat.le_of_eq hlength) (.inl hlength)
      (by omega)
    obtain ⟨d, ds, heq, hd⟩ := Text.exists_paddedDigits_eq_cons 4 year.natAbs
    rw [if_pos hplain]
    rw [heq, List.cons_append] at hnumber ⊢
    rw [scanSignedYear_of_isDigit hd, hnumber]
    change Except.ok ((year.natAbs : Int), c :: rest) = _
    rw [Int.natAbs_of_nonneg hplain.1]
  · generalize hdigits : Text.paddedDigits 4 year.natAbs = ds
    have hnumber : scanNumber (ds ++ c :: rest).length (ds ++ c :: rest) =
        .ok (year.natAbs, c :: rest) := by
      rw [← hdigits]
      exact scanNumber_paddedDigits (c :: rest) (by rw [List.length_append]; omega) (.inr hend)
        (by omega)
    rw [if_neg hplain]
    by_cases hneg : year < 0
    · rw [if_pos hneg, List.cons_append, scanSignedYear, hnumber]
      change Except.ok (-(year.natAbs : Int), c :: rest) = _
      rw [show -(year.natAbs : Int) = year by omega]
    · rw [if_neg hneg, List.cons_append, scanSignedYear, hnumber]
      change Except.ok ((year.natAbs : Int), c :: rest) = _
      rw [show (year.natAbs : Int) = year by omega]

/-- The text of a year begins with what is not blank. -/
theorem exists_yearText_eq_cons (year : Int) :
    ∃ c cs, yearText year = c :: cs ∧ Text.isBlank c = false := by
  rw [yearText]
  split
  · obtain ⟨c, ds, heq, hc⟩ := Text.exists_paddedDigits_eq_cons 4 year.natAbs
    exact ⟨c, ds, heq, Text.isBlank_of_isDigit hc⟩
  · split
    · exact ⟨'-', _, rfl, rfl⟩
    · exact ⟨'+', _, rfl, rfl⟩

/-- A year is read from its text. -/
theorem scanYear_yearText {year : Int} (h : year.natAbs < 1000000) {c : Char}
    (hc : c.isDigit = false) (rest : List Char) :
    scanYear (yearText year ++ c :: rest) = .ok (year, c :: rest) := by
  have hyear := scanSignedYear_yearText h hc rest
  have hwidth : Text.IntType.signed32.contains year = true :=
    Text.IntType.contains_iff.2 ⟨by simp only [Text.IntType.lowest]; omega,
      by simp only [Text.IntType.highest]; omega⟩
  obtain ⟨d, ds, heq, hd⟩ := exists_yearText_eq_cons year
  have hblanks := skipBlanks_of_not_isBlank hd (ds ++ c :: rest)
  rw [heq, List.cons_append] at hyear ⊢
  rw [scanYear, scan_bind_of_ok _ hblanks, scan_bind_of_ok _ hyear, if_pos hwidth]
  rfl

/-- Up to nine decimals are read as nanoseconds. -/
theorem scanFraction_paddedDigits {width k : Nat} {c : Char} (hpos : 0 < width)
    (hnine : width ≤ 9) (h : k < Nat.pow 10 width) (hc : c.isDigit = false) (rest : List Char) :
    scanFraction ('.' :: Text.paddedDigits width k ++ c :: rest) =
      .ok (k * Nat.pow 10 (9 - width), c :: rest) := by
  have hlength : (Text.paddedDigits width k).length = width := Text.length_paddedDigits hpos h
  have hend : ∀ d ∈ (c :: rest).head?, d.isDigit = false := by
    intro d hd
    cases hd
    exact hc
  have hlt : k < 9223372036854775808 := by
    calc k < Nat.pow 10 width := h
      _ ≤ Nat.pow 10 9 := Nat.pow_le_pow_right (by decide) hnine
      _ < 9223372036854775808 := by decide
  have hnumber := scanNumber_paddedDigits (c :: rest) (hlength ▸ hnine) (.inr hend) hlt
  have hread : (Text.paddedDigits width k ++ c :: rest).length - (c :: rest).length = width := by
    rw [List.length_append, hlength, Nat.add_sub_cancel]
  rw [List.cons_append, scanFraction, hnumber]
  change Except.ok (k * Nat.pow 10 (9 - _), (c :: rest).dropWhile Char.isDigit) = _
  rw [hread, List.dropWhile_cons, hc]
  rfl

/-- The decimals of a second are read from their text. -/
theorem scanFraction_fractionText {nano : Nat} (h : nano < 1000000000) {c : Char}
    (hc : c.isDigit = false) (hpoint : c ≠ '.') (rest : List Char) :
    scanFraction (fractionText nano ++ c :: rest) = .ok (nano, c :: rest) := by
  rw [fractionText]
  by_cases hzero : nano = 0
  · rw [if_pos hzero, List.nil_append, hzero]
    unfold scanFraction
    split
    · rename_i heq
      cases heq
      exact absurd rfl hpoint
    · rfl
  rw [if_neg hzero]
  by_cases hmilli : nano % 1000000 = 0
  · have hlt : nano / 1000000 < 1000 := by omega
    rw [if_pos hmilli, scanFraction_paddedDigits (by decide) (by decide) hlt hc]
    rw [show Nat.pow 10 (9 - 3) = 1000000 from rfl,
      Nat.div_mul_cancel (Nat.dvd_of_mod_eq_zero hmilli)]
  rw [if_neg hmilli]
  by_cases hmicro : nano % 1000 = 0
  · have hlt : nano / 1000 < 1000000 := by omega
    rw [if_pos hmicro, scanFraction_paddedDigits (by decide) (by decide) hlt hc]
    rw [show Nat.pow 10 (9 - 6) = 1000 from rfl,
      Nat.div_mul_cancel (Nat.dvd_of_mod_eq_zero hmicro)]
  · rw [if_neg hmicro, scanFraction_paddedDigits (by decide) (by decide) h hc]
    rw [show Nat.pow 10 (9 - 9) = 1 from rfl, Nat.mul_one]

/-! ## Times -/

/-- The text of the fields of a time in universal time. -/
def Fields.text (f : Fields) : List Char :=
  yearText f.date.year ++ '-' :: (Text.paddedDigits 2 f.date.month ++
    '-' :: (Text.paddedDigits 2 f.date.day ++ 'T' :: (Text.paddedDigits 2 f.hour ++
    ':' :: (Text.paddedDigits 2 f.minute ++ ':' :: (Text.paddedDigits 2 f.second ++
    (fractionText f.nano ++ ['Z']))))))

/-- Fields in their ranges: a year of six digits, and no leap second. -/
structure Fields.InRange (f : Fields) : Prop where
  year : f.date.year.natAbs < 1000000
  month : 1 ≤ f.date.month ∧ f.date.month ≤ 12
  day : 1 ≤ f.date.day ∧ f.date.day ≤ 31
  hour : f.hour ≤ 23
  minute : f.minute ≤ 59
  second : f.second ≤ 59
  nano : f.nano < 1000000000
  offset : f.offset = 0

/-- The fields of a time are read from their text. -/
theorem scanFields_text {f : Fields} (h : f.InRange) : scanFields f.text = .ok (f, []) := by
  obtain ⟨⟨year, month, day⟩, hour, minute, second, nano, offset⟩ := f
  obtain ⟨hyear, hmonth, hday, hhour, hminute, hsecond, hnano, rfl⟩ := h
  have hT (rest : List Char) :
      scanChar (fun c => c == 'T' || c == 't' || c == ' ') ('T' :: rest) = .ok ('T', rest) := rfl
  have hmonthText := scanField_paddedDigits hmonth.1 hmonth.2 (by decide)
  have hdayText := scanField_paddedDigits hday.1 hday.2 (by decide)
  have hhourText := scanField_paddedDigits (Nat.zero_le hour) hhour (by decide)
  have hminuteText := scanField_paddedDigits (Nat.zero_le minute) hminute (by decide)
  have hsecondText := scanField_paddedDigits (Nat.zero_le second) (Nat.le_succ_of_le hsecond)
    (by decide)
  have hnanoText := scanFraction_fractionText hnano (show 'Z'.isDigit = false from rfl)
    (by decide) []
  rw [Fields.text, scanFields]
  rw [scan_bind_of_ok _ (scanYear_yearText hyear (by decide) _)]
  rw [scan_bind_of_ok _ (scanSeparator_cons (by decide) _), scan_bind_of_ok _ (hmonthText _)]
  rw [scan_bind_of_ok _ (scanSeparator_cons (by decide) _), scan_bind_of_ok _ (hdayText _)]
  rw [scan_bind_of_ok _ (hT _), scan_bind_of_ok _ (hhourText _)]
  rw [scan_bind_of_ok _ (scanSeparator_cons (by decide) _), scan_bind_of_ok _ (hminuteText _)]
  rw [scan_bind_of_ok _ (scanSeparator_cons (by decide) _), scan_bind_of_ok _ (hsecondText _)]
  rw [scan_bind_of_ok _ hnanoText, scan_bind_of_ok _ (skipBlanks_of_not_isBlank (by decide) _)]
  rfl

/-- The fields in which an instant outside a leap second is written. -/
def fieldsOf (t : Instant) : Fields :=
  let secondOfDay := (t.second % 86400).toNat
  ⟨Date.ofDayNumber (t.second / 86400), secondOfDay / 3600, secondOfDay / 60 % 60,
    secondOfDay % 60, t.nano, 0⟩

/-- An instant outside a leap second is written as its fields. -/
theorem localText_eq {t : Instant} (h : t.inLeapSecond = false) :
    localText t ++ ['Z'] = (fieldsOf t).text := by
  simp [localText, Fields.text, fieldsOf, h]

/-- The fields of an instant are in their ranges. -/
theorem fieldsOf_inRange {t : Instant} (h : t.inLeapSecond = false) : (fieldsOf t).InRange := by
  obtain ⟨hmonth, hday⟩ := Date.isValid_iff.1 (Date.isValid_ofDayNumber (t.second / 86400))
  have hlength (year : Int) (month : Nat) : Date.daysInMonth year month ≤ 31 := by
    unfold Date.daysInMonth
    repeat' split
    all_goals omega
  have hfirst := t.first_le
  have hlast := t.le_last
  rw [firstSecond] at hfirst
  rw [lastSecond] at hlast
  constructor
  · exact Date.natAbs_year_lt (by omega)
  · exact hmonth
  · exact ⟨hday.1, Nat.le_trans hday.2 (hlength _ _)⟩
  · simp only [fieldsOf]
    omega
  · simp only [fieldsOf]
    omega
  · simp only [fieldsOf]
    omega
  · change t.nano < 1000000000
    simpa [Instant.inLeapSecond] using h
  · rfl

/-- The fields of an instant make up the instant. -/
theorem toInstant_fieldsOf {t : Instant} (h : t.inLeapSecond = false) :
    (fieldsOf t).toInstant = .ok t := by
  have hvalid : (fieldsOf t).date.isValid = true := Date.isValid_ofDayNumber _
  have hday : (fieldsOf t).date.dayNumber = t.second / 86400 := Date.dayNumber_ofDayNumber _
  have hleap : ((fieldsOf t).second == 60) = false := by
    have hsecond := (fieldsOf_inRange h).second
    exact beq_false_of_ne (by omega)
  have hstart : ¬(¬True ∨ t.second / 86400 * 86400 < firstSecond ∨
      lastSecond < t.second / 86400 * 86400) := by
    have hfirst := t.first_le
    have hlast := t.le_last
    rw [firstSecond] at hfirst ⊢
    rw [lastSecond] at hlast ⊢
    rintro (hnot | hbefore | hafter)
    · exact hnot trivial
    · omega
    · omega
  have hoffset : ¬86400 ≤ (fieldsOf t).offset.natAbs := (by decide : ¬86400 ≤ (0 : Int).natAbs)
  have hsum : t.second / 86400 * 86400 + (((fieldsOf t).hour : Int) * 3600 +
      ((fieldsOf t).minute : Int) * 60 + ((fieldsOf t).second : Int)) - (fieldsOf t).offset =
      t.second := by
    simp only [fieldsOf]
    omega
  have hparts : Instant.ofParts? t.second (fieldsOf t).nano = some t :=
    dif_pos ⟨t.nano_lt, t.first_le, t.le_last⟩
  rw [Fields.toInstant]
  simp only [hvalid, hday, hleap, if_neg hstart, if_neg hoffset, Bool.false_eq_true, if_false,
    hsum, hparts]

/-- An instant outside a leap second is read from its text. -/
theorem readInstant_zuluText {t : Instant} (h : t.inLeapSecond = false) :
    readInstant (zuluText t) = .ok t := by
  have hscan := scanFields_text (fieldsOf_inRange h)
  rw [readInstant, zuluText, String.toList_ofList, localText_eq h, hscan]
  exact toInstant_fieldsOf h

end Time
end MessageQueue
