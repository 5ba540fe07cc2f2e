import MessageQueue.Time.Calendar

/-!
# Dates and day numbers

Every day number has a date, and that date has this day number.  A cycle of four hundred years is
cut into its centuries first, for which the year that holds a day can be told from the day by
linear arithmetic alone.

Main results:

- Theorem `isValid_ofDayNumber`: the date with a day number exists.
- Theorem `dayNumber_ofDayNumber`: it has that day number.
- Theorem `natAbs_year_lt`: its year is not too far away.
-/

namespace MessageQueue
namespace Time
namespace Date

/-! ## Years of a cycle -/

/-- A year of a cycle that holds a day of it.  Only a year that ends with a leap day has a day after
its first 365. -/
structure HoldsDay (year day : Int) : Prop where
  of_cycle : 0 ≤ year ∧ year < 400
  begun : daysBeforeYear year ≤ day
  not_over : day ≤ daysBeforeYear year + 365
  leap : day = daysBeforeYear year + 365 → year % 4 = 3 ∧ (year % 100 = 99 → year = 399)

/-- The year that is told from a day of the cycle holds that day. -/
theorem yearOfCycle_holdsDay {day : Int} (hle : 0 ≤ day) (hlt : day < 146097) :
    HoldsDay (yearOfCycle day) day := by
  generalize hyear : yearOfCycle day = year
  unfold yearOfCycle at hyear
  -- A century has 36524 days, and the last one of a cycle has one more.
  have hcentury : day / 36524 = 0 ∨ day / 36524 = 1 ∨ day / 36524 = 2 ∨ day / 36524 = 3 ∨
      day / 36524 = 4 := by
    omega
  have hfours : year / 4 = (day + day / 36524 - day / 146096) / 1461 := by
    rcases hcentury with hc | hc | hc | hc | hc <;> rw [hc] at hyear ⊢ <;> omega
  have hhundreds : year / 100 = day / 36524 - day / 146096 := by
    rcases hcentury with hc | hc | hc | hc | hc <;> rw [hc] at hfours hyear ⊢ <;> omega
  have hcycle : year / 400 = 0 := by omega
  constructor
  · omega
  · rw [daysBeforeYear]
    rcases hcentury with hc | hc | hc | hc | hc <;> rw [hc] at hfours hyear hhundreds <;> omega
  · rw [daysBeforeYear]
    rcases hcentury with hc | hc | hc | hc | hc <;> rw [hc] at hfours hyear hhundreds <;> omega
  · rw [daysBeforeYear]
    intro hlast
    constructor
    · rcases hcentury with hc | hc | hc | hc | hc <;> rw [hc] at hfours hyear hhundreds <;> omega
    · rcases hcentury with hc | hc | hc | hc | hc <;> rw [hc] at hfours hyear hhundreds <;> omega

/-- Cycles have the same number of days. -/
theorem daysBeforeYear_cycle (cycle year : Int) :
    daysBeforeYear (cycle * 400 + year) = cycle * 146097 + daysBeforeYear year := by
  rw [daysBeforeYear, daysBeforeYear]
  omega

/-- A year of a cycle with a day after its first 365 is followed by a leap year. -/
theorem HoldsDay.isLeapYear {year day : Int} (h : HoldsDay year day)
    (hlast : day = daysBeforeYear year + 365) (cycle : Int) :
    isLeapYear (cycle * 400 + year + 1) = true := by
  obtain ⟨hfour, hhundred⟩ := h.leap hlast
  have hcycle := h.of_cycle
  simp only [Date.isLeapYear, Bool.and_eq_true, Bool.or_eq_true, beq_iff_eq, bne_iff_ne]
  omega

/-! ## Months of a year -/

/-- The month, counted from zero in March, that holds a day of a year. -/
theorem month_holds {day : Nat} (h : day ≤ 365) :
    (5 * day + 2) / 153 < 12 ∧ daysBeforeMonth ((5 * day + 2) / 153) ≤ day := by
  rw [daysBeforeMonth]
  omega

/-- Before January every month that is counted from March is long enough for its days. -/
theorem daysInMonth_of_lt {day : Nat} (year : Int) (h : (5 * day + 2) / 153 < 10) :
    day - daysBeforeMonth ((5 * day + 2) / 153) + 1 ≤
      daysInMonth year ((5 * day + 2) / 153 + 3) := by
  generalize hmonth : (5 * day + 2) / 153 = month at h ⊢
  simp only [daysInMonth, daysBeforeMonth, beq_iff_eq, Bool.or_eq_true]
  split
  · omega
  · split
    · omega
    · omega

/-- So are January and February, the latter in a leap year if it has a last day. -/
theorem daysInMonth_of_le {day : Nat} {year : Int} (hle : day ≤ 365)
    (h : 10 ≤ (5 * day + 2) / 153) (hleap : day = 365 → isLeapYear year = true) :
    day - daysBeforeMonth ((5 * day + 2) / 153) + 1 ≤
      daysInMonth year ((5 * day + 2) / 153 - 9) := by
  generalize hmonth : (5 * day + 2) / 153 = month at h ⊢
  simp only [daysInMonth, daysBeforeMonth, beq_iff_eq, Bool.or_eq_true]
  by_cases hlast : day = 365
  · rw [if_pos (hleap hlast)]
    split
    · omega
    · split
      · omega
      · omega
  · split
    · split
      · omega
      · omega
    · split
      · omega
      · omega

/-! ## Dates -/

/-- The parts from which the date with a day number is made. -/
theorem exists_ofDayNumber (n : Int) :
    ∃ (cycle year : Int) (day : Nat),
      HoldsDay year (daysBeforeYear year + day) ∧ day ≤ 365 ∧
      n + epochShift = daysBeforeYear (cycle * 400 + year) + day ∧
      ofDayNumber n =
        if (5 * day + 2) / 153 < 10 then
          ⟨cycle * 400 + year, (5 * day + 2) / 153 + 3,
            day - daysBeforeMonth ((5 * day + 2) / 153) + 1⟩
        else
          ⟨cycle * 400 + year + 1, (5 * day + 2) / 153 - 9,
            day - daysBeforeMonth ((5 * day + 2) / 153) + 1⟩ := by
  have hholds : HoldsDay (yearOfCycle ((n + epochShift) % 146097)) ((n + epochShift) % 146097) :=
    yearOfCycle_holdsDay (by omega) (by omega)
  obtain ⟨-, hbegun, hover, -⟩ := id hholds
  refine ⟨(n + epochShift) / 146097, yearOfCycle ((n + epochShift) % 146097),
    ((n + epochShift) % 146097 - daysBeforeYear (yearOfCycle ((n + epochShift) % 146097))).toNat,
    ?_, by omega, ?_, rfl⟩
  · have hday : ∀ before day : Int, before ≤ day → before + (day - before).toNat = day := by omega
    rwa [hday _ _ hbegun]
  · rw [daysBeforeYear_cycle]
    omega

/-- The date with a day number exists. -/
theorem isValid_ofDayNumber (n : Int) : (ofDayNumber n).isValid = true := by
  obtain ⟨cycle, year, day, hholds, hday, -, hdate⟩ := exists_ofDayNumber n
  have hmonth := (month_holds hday).1
  rw [isValid_iff, hdate]
  by_cases hten : (5 * day + 2) / 153 < 10
  · rw [if_pos hten]
    have hlength := daysInMonth_of_lt (cycle * 400 + year) hten
    exact ⟨⟨by simp only; omega, by simp only; omega⟩, Nat.le_add_left 1 _, hlength⟩
  · rw [if_neg hten]
    have hleap : day = 365 → Date.isLeapYear (cycle * 400 + year + 1) = true := fun hlast =>
      hholds.isLeapYear (by rw [hlast]; rfl) cycle
    have hlength := daysInMonth_of_le hday (Nat.le_of_not_lt hten) hleap
    exact ⟨⟨by simp only; omega, by simp only; omega⟩, Nat.le_add_left 1 _, hlength⟩

/-- The date with a day number has that day number. -/
theorem dayNumber_ofDayNumber (n : Int) : (ofDayNumber n).dayNumber = n := by
  obtain ⟨cycle, year, day, -, hday, hn, hdate⟩ := exists_ofDayNumber n
  obtain ⟨hmonth, hbefore⟩ := month_holds hday
  rw [hdate]
  by_cases hten : (5 * day + 2) / 153 < 10
  · rw [if_pos hten, dayNumber, marchYear, marchMonth]
    simp only [if_neg (show ¬(5 * day + 2) / 153 + 3 ≤ 2 by omega), Nat.add_sub_cancel]
    omega
  · rw [if_neg hten, dayNumber, marchYear, marchMonth]
    simp only [if_pos (show (5 * day + 2) / 153 - 9 ≤ 2 by omega), Int.add_sub_cancel,
      Nat.sub_add_cancel (show 9 ≤ (5 * day + 2) / 153 by omega)]
    omega

/-- Years do not grow faster than day numbers. -/
theorem natAbs_year_lt {n : Int} (h : n.natAbs < 100000000) :
    (ofDayNumber n).year.natAbs < 1000000 := by
  obtain ⟨cycle, year, day, -, hday, hn, hdate⟩ := exists_ofDayNumber n
  generalize hsum : cycle * 400 + year = sum at hn hdate
  rw [daysBeforeYear, epochShift] at hn
  rw [hdate]
  split
  · simp only
    omega
  · simp only
    omega

end Date
end Time
end MessageQueue
