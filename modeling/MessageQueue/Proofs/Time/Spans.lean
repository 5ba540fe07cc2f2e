import MessageQueue.Time.Instant

/-!
# Spans on a clock that goes forward

The order of instants is total, and a clock that is moved by a span that is not negative reaches
an instant that is not earlier.  Inside a leap second such a clock can only come from the same
leap second.  A span to a later instant counts no negative seconds, and of two instants on the way
of such a clock the earlier one is further back, unless it lies in a leap second: that second is
not counted once a midnight has passed.

Main results:

- Theorem `reaches_of_addNanoseconds?`: where a clock that goes forward can be next.
- Theorem `secondsSince_nonneg`: no negative seconds to a later instant.
- Theorems `secondsSince_le` and `secondsSince_le_succ`: the seconds since the earlier of two
  instants against those since the later one.
-/

namespace MessageQueue
namespace Time
namespace Instant

variable {s t u : Instant}

/-! ## Order -/

/-- An instant is not after another when it lies in an earlier second, or in the same second and
no more nanoseconds in. -/
theorem le_iff : t ≤ u ↔ t.second < u.second ∨ (t.second = u.second ∧ t.nano ≤ u.nano) := by
  rw [le_iff_not_lt, lt_iff]
  omega

theorem le_refl (t : Instant) : t ≤ t :=
  le_iff.2 (Or.inr ⟨rfl, Nat.le_refl _⟩)

theorem le_of_lt (h : t < u) : t ≤ u := by
  rw [lt_iff] at h
  rw [le_iff]
  omega

theorem le_trans (h₁ : s ≤ t) (h₂ : t ≤ u) : s ≤ u := by
  rw [le_iff] at *
  omega

theorem le_antisymm (h₁ : t ≤ u) (h₂ : u ≤ t) : t = u := by
  rw [le_iff] at h₁ h₂
  have hsecond : t.second = u.second := by omega
  have hnano : t.nano = u.nano := by omega
  cases t
  cases u
  simp only at hsecond hnano
  subst hsecond hnano
  rfl

/-! ## Clocks that go forward -/

/-- A clock that goes forward can be at `u` after it was at `t`. -/
structure Reaches (t u : Instant) : Prop where
  le : t ≤ u
  /-- A leap second is reached only from within. -/
  leap : u.inLeapSecond = true → t.inLeapSecond = true ∧ t.second = u.second

theorem Reaches.refl (t : Instant) : t.Reaches t :=
  ⟨le_refl t, fun h => ⟨h, rfl⟩⟩

theorem Reaches.trans (h₁ : s.Reaches t) (h₂ : t.Reaches u) : s.Reaches u where
  le := le_trans h₁.le h₂.le
  leap := by
    intro hu
    rcases h₂.leap hu with ⟨ht, htu⟩
    rcases h₁.leap ht with ⟨hs, hst⟩
    exact ⟨hs, hst.trans htu⟩

/-- Outside leap seconds a clock stays outside. -/
theorem Reaches.not_leap (h : t.Reaches u) (ht : t.inLeapSecond = false) :
    u.inLeapSecond = false := by
  rw [← Bool.not_eq_true]
  intro hu
  rw [(h.leap hu).1] at ht
  cases ht

/-- The nanoseconds of an instant that is made of parts. -/
theorem nano_of_ofParts? {second : Int} {nano : Nat} (h : ofParts? second nano = some t) :
    t.nano = nano := by
  unfold ofParts? at h
  split at h
  · cases h
    rfl
  · cases h

/-- A span that is not negative moves a clock forward. -/
theorem reaches_of_addNanoseconds? {n : Int} (hn : 0 ≤ n) (h : t.addNanoseconds? n = some u) :
    t.Reaches u := by
  have hseconds : 0 ≤ n.tdiv 1000000000 := Int.tdiv_nonneg hn (by decide)
  have hfraction : 0 ≤ n.tmod 1000000000 := Int.tmod_nonneg _ hn
  have hrest : n.tmod 1000000000 < 1000000000 := Int.tmod_lt_of_pos n (by decide)
  have hnano := t.nano_lt
  simp only [addNanoseconds?] at h
  generalize n.tdiv 1000000000 = seconds at h hseconds
  generalize n.tmod 1000000000 = fraction at h hfraction hrest
  have hleap : t.inLeapSecond = true ↔ 1000000000 ≤ t.nano := by simp [inLeapSecond]
  have hleap' : u.inLeapSecond = true ↔ 1000000000 ≤ u.nano := by simp [inLeapSecond]
  split at h
  · -- the move stays in the leap second
    rename_i hstays
    have hsecond := second_of_ofParts? h
    have hmoved := nano_of_ofParts? h
    exact ⟨le_iff.2 (by omega), fun _ => ⟨hstays.1, by omega⟩⟩
  · rename_i hleaves
    have hsecond := second_of_ofParts? h
    have hmoved := nano_of_ofParts? h
    have hout : ¬ 1000000000 ≤ u.nano := by omega
    refine ⟨le_iff.2 ?_, fun hu => absurd (hleap'.1 hu) hout⟩
    by_cases hin : t.inLeapSecond = true
    · -- the leap second has been left, so a whole second has passed since it began
      have hlarge := hleap.1 hin
      simp only [hin, true_and, not_and, Int.not_lt] at hleaves
      have hcross : 0 < seconds ∨ (0 < fraction ∧ 2000000000 - fraction ≤ (t.nano : Int)) := by
        omega
      have hforward : 0 < seconds ∨ 0 < fraction := by omega
      simp only [hin, if_true, hforward] at hsecond
      omega
    · have hsmall : ¬ 1000000000 ≤ t.nano := fun hle => hin (hleap.2 hle)
      simp only [hin, Bool.false_eq_true, if_false] at hsecond hmoved
      omega

/-! ## Seconds between instants -/

/-- The span between two instants differs from that of their seconds and nanoseconds by at most
one second, counted only for a leap second. -/
theorem exists_nanosecondsSince (t u : Instant) :
    ∃ leap : Int, u.nanosecondsSince t =
        (u.second - t.second + leap) * 1000000000 + ((u.nano : Int) - t.nano) ∧
      (leap = 0 ∨ (leap = 1 ∧ t.inLeapSecond = true ∧ t.second ≠ u.second) ∨
        (leap = -1 ∧ u.inLeapSecond = true ∧ t.second ≠ u.second)) := by
  have hne : ∀ a b : Instant, a.secondOfDay < b.secondOfDay → a.second ≠ b.second := by
    intro a b hlt heq
    simp only [secondOfDay, heq] at hlt
    omega
  refine ⟨_, rfl, ?_⟩
  split
  · rename_i h
    exact Or.inr (Or.inl ⟨rfl, h.2, hne t u h.1⟩)
  · split
    · rename_i h
      exact Or.inr (Or.inr ⟨rfl, h.2, (hne u t h.1).symm⟩)
    · exact Or.inl rfl

/-- To a later instant less than a second is missing. -/
theorem nanosecondsSince_gt (h : t ≤ u) : -1000000000 < u.nanosecondsSince t := by
  rcases exists_nanosecondsSince t u with ⟨leap, hspan, hleap⟩
  have ht := t.nano_lt
  have hu : u.inLeapSecond = true ↔ 1000000000 ≤ u.nano := by simp [inLeapSecond]
  rw [le_iff] at h
  rw [hspan]
  rcases hleap with rfl | ⟨rfl, -, hne⟩ | ⟨rfl, hleap, hne⟩
  · omega
  · omega
  · have hlarge := hu.1 hleap
    omega

/-- The seconds to a later instant are those of the span, where less than none counts as none. -/
theorem secondsSince_eq (h : t ≤ u) :
    u.secondsSince t = max 0 (u.nanosecondsSince t) / 1000000000 := by
  have hgt := nanosecondsSince_gt h
  rw [secondsSince]
  by_cases hneg : u.nanosecondsSince t < 0
  · have hzero : (u.nanosecondsSince t).tdiv 1000000000 = 0 := by
      rw [← Int.neg_neg (u.nanosecondsSince t), Int.neg_tdiv,
        Int.tdiv_eq_zero_of_lt (by omega) (by omega), Int.neg_zero]
    omega
  · rw [Int.tdiv_eq_ediv_of_nonneg (by omega)]
    omega

/-- To a later instant there are no negative seconds. -/
theorem secondsSince_nonneg (h : t ≤ u) : 0 ≤ u.secondsSince t := by
  rw [secondsSince_eq h]
  omega

section OnTheWay

variable (hst : s.Reaches t) (htu : t.Reaches u)

include hst htu

/-- On the way of a clock the earlier instant is further back, but for less than a second, and
for nothing when it does not lie in a leap second. -/
theorem nanosecondsSince_le :
    u.nanosecondsSince t < u.nanosecondsSince s + 1000000000 ∧
      (s.inLeapSecond = false → u.nanosecondsSince t ≤ u.nanosecondsSince s) := by
  have hs := s.nano_lt
  have hleap : ∀ v : Instant, v.inLeapSecond = false ↔ v.nano < 1000000000 := by
    simp [inLeapSecond]
  have hle := le_iff.1 hst.le
  cases ht : t.inLeapSecond with
  | true =>
      -- both instants lie in one leap second, which is counted for both or for none
      rcases hst.leap ht with ⟨hin, hsame⟩
      have hspan : u.nanosecondsSince s = u.nanosecondsSince t + ((t.nano : Int) - s.nano) := by
        unfold nanosecondsSince secondOfDay
        rw [hin, ht, hsame]
        dsimp only
        omega
      rw [hin]
      simp only [Bool.true_eq_false, false_implies, and_true]
      omega
  | false =>
      have hu := htu.not_leap ht
      rcases exists_nanosecondsSince s u with ⟨a, hspan, ha⟩
      rcases exists_nanosecondsSince t u with ⟨b, hspan', hb⟩
      have hnone : b = 0 := by simpa [ht, hu] using hb
      rw [hleap] at ht
      cases hin : s.inLeapSecond with
      | true =>
          have hone : a = 0 ∨ a = 1 := by
            simp only [hu, Bool.false_eq_true, false_and, and_false, or_false] at ha
            omega
          simp only [Bool.true_eq_false, false_implies, and_true]
          omega
      | false =>
          have hnone' : a = 0 := by simpa [hin, hu] using ha
          rw [hleap] at hin
          omega

/-- The earlier of two instants is at least as many seconds back as the later one, if it does not
lie in a leap second. -/
theorem secondsSince_le (hs : s.inLeapSecond = false) : u.secondsSince t ≤ u.secondsSince s := by
  have hle := (nanosecondsSince_le hst htu).2 hs
  rw [secondsSince_eq htu.le, secondsSince_eq (hst.trans htu).le]
  omega

/-- The earlier of two instants is at most one second less back than the later one. -/
theorem secondsSince_le_succ : u.secondsSince t ≤ u.secondsSince s + 1 := by
  have hle := (nanosecondsSince_le hst htu).1
  rw [secondsSince_eq htu.le, secondsSince_eq (hst.trans htu).le]
  omega

end OnTheWay

end Instant
end Time
end MessageQueue
