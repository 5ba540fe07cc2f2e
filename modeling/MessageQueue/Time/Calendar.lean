/-!
# The proleptic Gregorian calendar

Dates and the day numbers that count from the first of January 1970.  Years are counted
from the first of March, so that the leap day is the last of its year, and cycles of
four hundred years repeat.

Main results:

- Theorem `isValid_iff`: a date exists exactly when its month and its day do.
-/

namespace MessageQueue
namespace Time

/-- A date of the calendar; year 0 comes before year 1. -/
structure Date where
  year : Int
  month : Nat
  day : Nat
deriving DecidableEq, Repr

namespace Date

/-! ## Which dates exist -/

/-- Every fourth year has a leap day, but of the hundredth years only every fourth. -/
def isLeapYear (year : Int) : Bool :=
  year % 4 == 0 && (year % 100 != 0 || year % 400 == 0)

/-- How many days a month of a year has. -/
def daysInMonth (year : Int) (month : Nat) : Nat :=
  if month == 2 then (if isLeapYear year then 29 else 28)
  else if month == 4 || month == 6 || month == 9 || month == 11 then 30
  else 31

/-- Whether the date exists. -/
def isValid (d : Date) : Bool :=
  1 ≤ d.month && d.month ≤ 12 && 1 ≤ d.day && d.day ≤ daysInMonth d.year d.month

theorem isValid_iff {d : Date} :
    d.isValid = true ↔
      (1 ≤ d.month ∧ d.month ≤ 12) ∧ 1 ≤ d.day ∧ d.day ≤ daysInMonth d.year d.month := by
  simp [isValid, and_assoc]

/-! ## Day numbers -/

/-- Days from the first of March of year 0 to the first of January 1970. -/
def epochShift : Int := 719468

/-- The year that began on the first of March before or on a date. -/
def marchYear (d : Date) : Int :=
  if d.month ≤ 2 then d.year - 1 else d.year

/-- The month of a date, counted from zero in March. -/
def marchMonth (d : Date) : Nat :=
  if d.month ≤ 2 then d.month + 9 else d.month - 3

/-- Days before a month of a year that begins in March. -/
def daysBeforeMonth (marchMonth : Nat) : Nat :=
  (153 * marchMonth + 2) / 5

/-- Days before a year that begins in March, counted from year 0. -/
def daysBeforeYear (marchYear : Int) : Int :=
  365 * marchYear + marchYear / 4 - marchYear / 100 + marchYear / 400

/-- The day number of a date. -/
def dayNumber (d : Date) : Int :=
  daysBeforeYear d.marchYear + daysBeforeMonth d.marchMonth + ((d.day : Int) - 1) - epochShift

/-- The year of a cycle of four hundred that holds a day of the cycle. -/
def yearOfCycle (day : Int) : Int :=
  (day - day / 1460 + day / 36524 - day / 146096) / 365

/-- The date with a day number. -/
def ofDayNumber (n : Int) : Date :=
  let shifted := n + epochShift
  let cycle := shifted / 146097
  let day := shifted % 146097
  let year := yearOfCycle day
  let dayOfYear := (day - daysBeforeYear year).toNat
  let month := (5 * dayOfYear + 2) / 153
  let dayOfMonth := dayOfYear - daysBeforeMonth month + 1
  if month < 10 then ⟨cycle * 400 + year, month + 3, dayOfMonth⟩
  else ⟨cycle * 400 + year + 1, month - 9, dayOfMonth⟩

end Date

end Time
end MessageQueue
