import Mathlib.Algebra.Order.Ring.Int
import MessageQueue.Proofs.Time.Spans
import MessageQueue.Text.Integer

/-!
# The ends of time

Instants end with the years −262143 and 262142, and moving one by whole seconds has no answer when
it would land beyond.  From an instant that is at least 2³¹ seconds away from both ends every count
of seconds in 32 bits leads to an instant.  The span between two instants is always one that 64 bits
of milliseconds hold, wherever the instants are.

Main results:

- Theorem `addSeconds?_eq_none_iff_landing`: adding seconds fails exactly when the second they lead
  to is out of range.
- Theorem `Inside.isSome_addSeconds?`: inside the range no 32 bits of seconds lead out of it.
- Theorem `fitsSpan_nanosecondsSince`: the span between any two instants fits.
-/

namespace MessageQueue
namespace Time
namespace Instant

/-! ## Where seconds lead -/

/-- The second that whole seconds from an instant lead to.  Backwards a leap second counts as the
second after it. -/
def landing (t : Instant) (n : Int) : Int :=
  if t.inLeapSecond = true ∧ n < 0 then t.second + n + 1 else t.second + n

/-- A second before the first or after the last. -/
def OutOfRange (second : Int) : Prop :=
  second < firstSecond ∨ lastSecond < second

instance (second : Int) : Decidable (OutOfRange second) := inferInstanceAs (Decidable (_ ∨ _))

/-- From within a leap second, whole seconds lead to their landing as well. -/
theorem exists_addSeconds?_eq {t : Instant} (h : t.inLeapSecond = true) (n : Int) :
    ∃ nano : Nat, nano < 2000000000 ∧ t.addSeconds? n = ofParts? (t.landing n) nano := by
  have hnano := t.nano_lt
  have hlarge : 1000000000 ≤ t.nano := by simpa [inLeapSecond] using h
  have hdiv : (n * 1000000000).tdiv 1000000000 = n := Int.mul_tdiv_cancel n (by decide)
  have hmod : (n * 1000000000).tmod 1000000000 = 0 := Int.mul_tmod_left n 1000000000
  have hwhole : ((t.nano : Int) - 1000000000 + 0) / 1000000000 = 0 := by omega
  have hrest : (((t.nano : Int) - 1000000000 + 0) % 1000000000).toNat < 2000000000 := by omega
  rw [addSeconds?, addNanoseconds?, hdiv, hmod]
  rcases Int.lt_trichotomy n 0 with hneg | rfl | hpos
  · -- backwards the count begins at the second after the leap second
    have hforward : ¬ 0 < n := by omega
    refine ⟨_, hrest, ?_⟩
    simp only [h, hneg, hforward, landing, Int.lt_irrefl, false_and, or_false, not_true_eq_false,
      not_false_eq_true, and_false, if_false, and_true, if_true, hwhole]
    congr 1
    omega
  · -- nothing is moved, so the instant stays in its leap second
    refine ⟨t.nano, hnano, ?_⟩
    simp [h, landing]
  · -- forwards the leap second is no second of its own
    have hbackward : ¬ n < 0 := by omega
    refine ⟨_, hrest, ?_⟩
    simp only [h, hpos, hbackward, landing, true_or, not_true_eq_false, false_and, and_false,
      if_false, if_true, hwhole]
    congr 1
    omega

/-- Adding whole seconds fails exactly when the second that they lead to is out of range. -/
theorem addSeconds?_eq_none_iff_landing (t : Instant) (n : Int) :
    t.addSeconds? n = none ↔ OutOfRange (t.landing n) := by
  cases h : t.inLeapSecond with
  | false =>
      have hlanding : t.landing n = t.second + n := by simp [landing, h]
      rw [hlanding]
      exact addSeconds?_eq_none_iff h
  | true =>
      rcases exists_addSeconds?_eq h n with ⟨nano, hnano, heq⟩
      rw [heq]
      exact ofParts?_eq_none_iff hnano

/-! ## Away from the ends -/

/-- An instant is at least 2³¹ seconds away from both ends of the range. -/
def Inside (t : Instant) : Prop :=
  firstSecond + 2 ^ 31 ≤ t.second ∧ t.second + 2 ^ 31 ≤ lastSecond

instance (t : Instant) : Decidable t.Inside := inferInstanceAs (Decidable (_ ∧ _))

/-- From an instant inside the range no 32 bits of seconds lead out of it. -/
theorem Inside.isSome_addSeconds? {t : Instant} (h : t.Inside) {n : Int}
    (hn : Text.IntType.signed32.contains n = true) : (t.addSeconds? n).isSome = true := by
  rw [Option.isSome_iff_ne_none, Ne, addSeconds?_eq_none_iff_landing]
  obtain ⟨hfirst, hlast⟩ := h
  rw [Text.IntType.contains_iff] at hn
  simp only [Text.IntType.lowest, Text.IntType.highest] at hn
  simp only [OutOfRange, landing]
  split <;> omega

/-! ## Spans -/

/-- A span of nanoseconds has no more milliseconds, either way, than 64 bits hold. -/
def FitsSpan (nanoseconds : Int) : Prop :=
  nanoseconds.natAbs ≤ (2 ^ 63 - 1) * 1000000

/-- The span between any two instants fits. -/
theorem fitsSpan_nanosecondsSince (t u : Instant) : FitsSpan (u.nanosecondsSince t) := by
  rcases exists_nanosecondsSince t u with ⟨leap, hspan, hleap⟩
  have ht := t.nano_lt
  have hu := u.nano_lt
  have htfirst := t.first_le
  have htlast := t.le_last
  have hufirst := u.first_le
  have hulast := u.le_last
  have hone : -1 ≤ leap ∧ leap ≤ 1 := by omega
  simp only [firstSecond, lastSecond] at htfirst htlast hufirst hulast
  rw [FitsSpan, hspan]
  omega

end Instant
end Time
end MessageQueue
