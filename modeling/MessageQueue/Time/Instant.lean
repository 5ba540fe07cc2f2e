import MessageQueue.Time.Calendar

/-!
# Instants

An instant of universal time is a second since the first of January 1970 and a count
of nanoseconds in it.  The count goes on past a billion during a leap second, which
belongs to the second before it.  Instants end with the years −262143 and 262142, so
moving one by a span may have no answer.

Main results:

- Theorem `le_iff_not_lt`: the order on instants is total.
- Theorem `addSeconds?_eq_none_iff`: adding whole seconds to an instant outside a leap
  second fails exactly when the sum leaves the range.
- Theorem `lt_of_addSeconds?`: whole seconds added lead to a later instant.
-/

namespace MessageQueue
namespace Time

/-- The first second of the range. -/
def firstSecond : Int := -8334601228800

/-- The last second of the range. -/
def lastSecond : Int := 8210266876799

/-- An instant of universal time. -/
structure Instant where
  second : Int
  nano : Nat
  nano_lt : nano < 2000000000
  first_le : firstSecond ≤ second
  le_last : second ≤ lastSecond
deriving DecidableEq

namespace Instant

/-! ## Order -/

/-- An earlier second, or the same second and fewer nanoseconds. -/
def before (a b : Instant) : Bool :=
  a.second < b.second || (a.second == b.second && a.nano < b.nano)

instance : LT Instant := ⟨fun a b => a.before b = true⟩

instance : LE Instant := ⟨fun a b => b.before a = false⟩

instance (a b : Instant) : Decidable (a < b) := inferInstanceAs (Decidable (_ = true))

instance (a b : Instant) : Decidable (a ≤ b) := inferInstanceAs (Decidable (_ = false))

theorem lt_iff {a b : Instant} :
    a < b ↔ a.second < b.second ∨ (a.second = b.second ∧ a.nano < b.nano) := by
  change a.before b = true ↔ _
  simp [before]

theorem le_iff_not_lt {a b : Instant} : a ≤ b ↔ ¬ b < a := by
  change b.before a = false ↔ ¬ b.before a = true
  simp

/-! ## Making and moving -/

/-- The instant at a second and nanosecond, if it is in range. -/
def ofParts? (second : Int) (nano : Nat) : Option Instant :=
  if h : nano < 2000000000 ∧ firstSecond ≤ second ∧ second ≤ lastSecond then
    some ⟨second, nano, h.1, h.2.1, h.2.2⟩
  else none

/-- The first of January 1970 at midnight. -/
def epoch : Instant := ⟨0, 0, by decide, by decide, by decide⟩

/-- Whether the instant lies in a leap second. -/
def inLeapSecond (t : Instant) : Bool := 1000000000 ≤ t.nano

/-- The instant a signed count of nanoseconds later.  A move that stays in the leap second only
changes the nanoseconds; one that leaves it counts from the second before, or backwards from the
second after. -/
def addNanoseconds? (t : Instant) (shift : Int) : Option Instant :=
  let seconds := shift.tdiv 1000000000
  let fraction := shift.tmod 1000000000
  let nano : Int := t.nano
  if t.inLeapSecond ∧ ¬ (0 < seconds ∨ (0 < fraction ∧ 2000000000 - fraction ≤ nano)) ∧
      ¬ seconds < 0 then
    ofParts? t.second (nano + fraction).toNat
  else
    let start :=
      if t.inLeapSecond then
        if 0 < seconds ∨ 0 < fraction then (t.second, nano - 1000000000)
        else (t.second + 1, nano - 1000000000)
      else (t.second, nano)
    let total := start.2 + fraction
    ofParts? (start.1 + seconds + total / 1000000000) (total % 1000000000).toNat

/-- The instant a signed count of whole seconds later. -/
def addSeconds? (t : Instant) (n : Int) : Option Instant :=
  t.addNanoseconds? (n * 1000000000)

/-- The second of the day. -/
def secondOfDay (t : Instant) : Int := t.second % 86400

/-- The signed span from `earlier` to `t` in nanoseconds.  A leap second of the same day that
lies between the two counts as a second of its own. -/
def nanosecondsSince (t earlier : Instant) : Int :=
  let leap : Int :=
    if earlier.secondOfDay < t.secondOfDay ∧ earlier.inLeapSecond then 1
    else if t.secondOfDay < earlier.secondOfDay ∧ t.inLeapSecond then -1
    else 0
  (t.second - earlier.second + leap) * 1000000000 + ((t.nano : Int) - earlier.nano)

/-- The signed span from `earlier` to `t` in whole seconds, cut toward zero. -/
def secondsSince (t earlier : Instant) : Int :=
  (t.nanosecondsSince earlier).tdiv 1000000000

/-! ## Moving by whole seconds -/

theorem ofParts?_eq_none_iff {second : Int} {nano : Nat} (h : nano < 2000000000) :
    ofParts? second nano = none ↔ second < firstSecond ∨ lastSecond < second := by
  simp only [ofParts?]
  split
  · simp; omega
  · simp; omega

/-- Outside a leap second, whole seconds are added to the second alone. -/
theorem addSeconds?_eq {t : Instant} {n : Int} (h : t.inLeapSecond = false) :
    t.addSeconds? n = ofParts? (t.second + n) t.nano := by
  have hnano : t.nano < 1000000000 := by simpa [inLeapSecond] using h
  have hdiv : (n * 1000000000).tdiv 1000000000 = n := Int.mul_tdiv_cancel n (by decide)
  have hmod : (n * 1000000000).tmod 1000000000 = 0 := Int.mul_tmod_left n 1000000000
  have hq : (t.nano : Int) / 1000000000 = 0 := by omega
  have hr : ((t.nano : Int) % 1000000000).toNat = t.nano := by omega
  simp [addSeconds?, addNanoseconds?, hdiv, hmod, h, hq, hr]

/-- Outside a leap second, adding whole seconds fails exactly when the sum leaves the range. -/
theorem addSeconds?_eq_none_iff {t : Instant} {n : Int} (h : t.inLeapSecond = false) :
    t.addSeconds? n = none ↔ t.second + n < firstSecond ∨ lastSecond < t.second + n := by
  rw [addSeconds?_eq h, ofParts?_eq_none_iff t.nano_lt]

/-- The second of an instant that is made of parts. -/
theorem second_of_ofParts? {second : Int} {nano : Nat} {t : Instant}
    (h : ofParts? second nano = some t) : t.second = second := by
  unfold ofParts? at h
  split at h
  · cases h
    rfl
  · cases h

/-- An instant whole seconds later is later, also from within a leap second. -/
theorem lt_of_addSeconds? {t u : Instant} {n : Int} (hn : 1 ≤ n)
    (h : t.addSeconds? n = some u) : t < u := by
  have hnano := t.nano_lt
  rw [lt_iff]
  left
  by_cases hleap : t.inLeapSecond = true
  · have hlarge : 1000000000 ≤ t.nano := by simpa [inLeapSecond] using hleap
    have hpos : 0 < n := by omega
    have hdiv : (n * 1000000000).tdiv 1000000000 = n := Int.mul_tdiv_cancel n (by decide)
    have hmod : (n * 1000000000).tmod 1000000000 = 0 := Int.mul_tmod_left n 1000000000
    rw [addSeconds?, addNanoseconds?, hdiv, hmod] at h
    simp only [hleap, hpos, true_or, not_true_eq_false, false_and, and_false, if_false,
      if_true] at h
    have hsecond := second_of_ofParts? h
    omega
  · rw [addSeconds?_eq (by simpa using hleap)] at h
    have hsecond := second_of_ofParts? h
    omega

end Instant

end Time
end MessageQueue
