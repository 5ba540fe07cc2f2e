import Mathlib.Algebra.Order.BigOperators.Group.List
import Mathlib.Algebra.Order.Ring.Nat
import Mathlib.Data.List.Sort
import MessageQueue.Bench.Summary

/-!
# Summaries as groups

A summary looks at the timings of one operation at a time, in the order in which they were taken.
So it is made of four lists of timings, one for each operation, and it is the same however timings
of different operations are mixed.

Main results:

- Theorem `operations_eq`: the rows are those of the operations that were timed, in their order.
- Theorem `summarize_eq`: a summary is made of the timings of each operation by themselves.
- Theorem `sum_count_summarize`: every timing counts in exactly one row.
- Theorem `summarize_groups`: which rows a summary has, and what each of them depends on.
-/

namespace MessageQueue
namespace Bench

/-! ## The timings of one operation -/

/-- The place of an operation among the rows of a summary. -/
def Operation.rank : Operation → Nat
  | write => 0
  | read => 1
  | archive => 2
  | delete => 3

theorem Operation.rank_injective {o p : Operation} (h : o.rank = p.rank) : o = p := by
  cases o <;> cases p <;> first | rfl | cases h

theorem Operation.le_iff {o p : Operation} : o.le p = true ↔ o.rank ≤ p.rank := by
  cases o <;> cases p <;> decide

/-- All operations in their order. -/
def Operation.all : List Operation := [write, read, archive, delete]

theorem Operation.mem_all (o : Operation) : o ∈ all := by
  cases o <;> decide

/-- All operations are listed by their places. -/
theorem Operation.all_pairwise : all.Pairwise fun a b => a.rank < b.rank := by
  decide

/-- The timings of an operation, in their order. -/
def timingsOf (o : Operation) (timings : List Timing) : List Timing :=
  timings.filter fun t => t.operation = o

section Timings

variable {o : Operation} {timings : List Timing}

theorem timingsOf_ne_nil_iff : timingsOf o timings ≠ [] ↔ ∃ t ∈ timings, t.operation = o := by
  simp [timingsOf]

/-- There are as many timings of an operation as the count of its row says. -/
theorem length_timingsOf (o : Operation) (timings : List Timing) :
    (timingsOf o timings).length = (samples o timings).length := by
  rw [samples_length, timingsOf, List.countP_eq_length_filter]

/-- Of the timings of one operation none is of another. -/
theorem timingsOf_timingsOf (o p : Operation) (timings : List Timing) :
    timingsOf p (timingsOf o timings) = if p = o then timingsOf o timings else [] := by
  by_cases h : p = o
  · subst h
    simp [timingsOf, List.filter_filter]
  · rw [if_neg h, timingsOf, timingsOf, List.filter_filter, List.filter_eq_nil_iff]
    intro t ht hboth
    simp only [Bool.and_eq_true, decide_eq_true_eq] at hboth
    exact h (hboth.1.symm.trans hboth.2)

/-- Every timing is of exactly one operation. -/
theorem sum_length_timingsOf (timings : List Timing) :
    (Operation.all.map fun o => (timingsOf o timings).length).sum = timings.length := by
  induction timings with
  | nil => simp [timingsOf, Operation.all]
  | cons t rest ih =>
      simp only [Operation.all, List.map_cons, List.map_nil, List.sum_cons, List.sum_nil,
        timingsOf, List.filter_cons] at ih ⊢
      cases h : t.operation with
      | write => simp; omega
      | read => simp; omega
      | archive => simp; omega
      | delete => simp; omega

end Timings

/-! ## Rows -/

/-- The row of an operation in a summary. -/
def row (o : Operation) (timings : List Timing) : Summary :=
  summaryOf o (samples o timings)

/-- A row is made of the timings of its operation. -/
theorem row_timingsOf (o : Operation) (timings : List Timing) :
    row o (timingsOf o timings) = row o timings := by
  rw [row, timingsOf, samples_filter, row]

/-- The operations that were timed, in the order of the rows. -/
def timed (timings : List Timing) : List Operation :=
  Operation.all.filter fun o => timingsOf o timings ≠ []

theorem mem_timed_iff {o : Operation} {timings : List Timing} :
    o ∈ timed timings ↔ timingsOf o timings ≠ [] := by
  simp [timed, Operation.mem_all]

theorem timed_pairwise (timings : List Timing) :
    (timed timings).Pairwise fun a b => a.rank < b.rank :=
  Operation.all_pairwise.filter _

/-- Leaving out repetitions leaves the same entries. -/
theorem mem_dedup {α : Type} [DecidableEq α] {a : α} {xs : List α} : a ∈ dedup xs ↔ a ∈ xs := by
  fun_induction dedup xs with
  | case1 b rest ih => simp [ih]
  | case2 b c rest hne ih => simp [ih]
  | case3 short => rfl

/-- Sorted operations ascend when no one is repeated. -/
theorem dedup_pairwise {os : List Operation} (h : os.Pairwise fun a b => a.rank ≤ b.rank) :
    (dedup os).Pairwise fun a b => a.rank < b.rank := by
  fun_induction dedup os with
  | case1 a rest ih => exact ih h.of_cons
  | case2 a b rest hne ih =>
      rw [List.pairwise_cons] at h ⊢
      refine ⟨fun c hc => ?_, ih h.2⟩
      have hab : a.rank < b.rank :=
        Nat.lt_of_le_of_ne (h.1 b List.mem_cons_self) fun heq => hne (Operation.rank_injective heq)
      rcases List.mem_cons.1 (mem_dedup.1 hc) with rfl | hrest
      · exact hab
      · exact Nat.lt_of_lt_of_le hab (List.rel_of_pairwise_cons h.2 hrest)
  | case3 short hshort =>
      match short, hshort with
      | [], _ => exact .nil
      | [a], _ => exact List.pairwise_singleton ..
      | a :: b :: rest, hshort => exact absurd rfl (hshort a b rest)

/-- Sorting the operations of the timings and leaving out repetitions gives those that were timed
in the order of the rows. -/
theorem operations_eq (timings : List Timing) : operations timings = timed timings := by
  have hsorted : ((timings.map Timing.operation).mergeSort Operation.le).Pairwise
      fun a b => a.rank ≤ b.rank := by
    simp only [← Operation.le_iff]
    refine List.pairwise_mergeSort (fun a b c => ?_) (fun a b => ?_) _
    · simp only [Operation.le_iff]
      exact Nat.le_trans
    · simp only [Bool.or_eq_true, Operation.le_iff]
      exact Nat.le_total ..
  have : Std.Irrefl fun a b : Operation => a.rank < b.rank := ⟨fun _ => Nat.lt_irrefl _⟩
  have : Std.Antisymm fun a b : Operation => a.rank < b.rank :=
    ⟨fun _ _ h h' => absurd h' (Nat.lt_asymm h)⟩
  refine (dedup_pairwise hsorted).eq_of_mem_iff (timed_pairwise timings) fun o => ?_
  rw [mem_dedup, List.mem_mergeSort, List.mem_map, mem_timed_iff, timingsOf_ne_nil_iff]

/-- A summary is made of the timings of each operation by themselves. -/
theorem summarize_eq (timings : List Timing) :
    summarize timings = (timed timings).map fun o => row o (timingsOf o timings) := by
  rw [summarize, operations_eq]
  simp only [row_timingsOf]
  rfl

theorem map_operation_summarize (timings : List Timing) :
    (summarize timings).map Summary.operation = timed timings := by
  rw [summarize_eq, List.map_map]
  exact List.map_id (timed timings)

/-- A summary of the timings of one operation has one row. -/
theorem summarize_timingsOf {o : Operation} {timings : List Timing} (h : timingsOf o timings ≠ []) :
    summarize (timingsOf o timings) = [row o timings] := by
  have htimed : timed (timingsOf o timings) = [o] := by
    simp only [timed, timingsOf_timingsOf]
    cases o <;> simp [Operation.all, h]
  rw [summarize_eq, htimed, List.map_singleton, row_timingsOf, row_timingsOf]

/-- What is left out of a sum adds nothing to it, if it is zero. -/
theorem sum_map_filter_of_zero {α : Type} {p : α → Bool} {f : α → Nat} (xs : List α)
    (h : ∀ x, p x = false → f x = 0) : ((xs.filter p).map f).sum = (xs.map f).sum := by
  induction xs with
  | nil => simp
  | cons x rest ih =>
      cases hx : p x with
      | true => simp [hx, ih]
      | false => simp [hx, ih, h x hx]

/-- Every timing counts in exactly one row. -/
theorem sum_count_summarize (timings : List Timing) :
    ((summarize timings).map Summary.count).sum = timings.length := by
  have hcounts : (summarize timings).map Summary.count =
      (timed timings).map fun o => (timingsOf o timings).length := by
    rw [summarize_eq, List.map_map]
    apply List.map_congr_left
    intro o _
    rw [Function.comp_apply, row_timingsOf, length_timingsOf]
    rfl
  rw [hcounts, timed, sum_map_filter_of_zero, sum_length_timingsOf]
  intro o ho
  simpa using ho

/-! ## Groups -/

/-- A summary has a row for each operation that was timed, which is made of the timings of that
operation in their order, and of nothing else. -/
structure Groups (timings : List Timing) (rows : List Summary) : Prop where
  ascending : rows.Pairwise fun a b => a.operation.rank < b.operation.rank
  occurring : ∀ o, (∃ r ∈ rows, r.operation = o) ↔ ∃ t ∈ timings, t.operation = o
  counts : ∀ r ∈ rows, r.count = timings.countP fun t => t.operation = r.operation
  total : (rows.map Summary.count).sum = timings.length
  /-- Each row is the whole summary of the timings of its operation. -/
  apart : ∀ r ∈ rows, summarize (timings.filter fun t => t.operation = r.operation) = [r]
  /-- It does not matter how the operations are mixed. -/
  unmixed : ∀ others : List Timing,
    (∀ o, (others.filter fun t => t.operation = o) = timings.filter fun t => t.operation = o) →
      summarize others = rows

/-- A summary groups the timings by their operations. -/
theorem summarize_groups (timings : List Timing) : Groups timings (summarize timings) := by
  have hrow : ∀ r ∈ summarize timings,
      timingsOf r.operation timings ≠ [] ∧ r = row r.operation timings := by
    intro r hr
    rw [summarize_eq, List.mem_map] at hr
    rcases hr with ⟨o, ho, rfl⟩
    rw [row_timingsOf]
    exact ⟨mem_timed_iff.1 ho, rfl⟩
  constructor
  · rw [← List.pairwise_map (f := Summary.operation) (R := fun a b => a.rank < b.rank),
      map_operation_summarize]
    exact timed_pairwise timings
  · intro o
    rw [← List.mem_map, map_operation_summarize, mem_timed_iff, timingsOf_ne_nil_iff]
  · intro r hr
    rw [← samples_length]
    exact congrArg Summary.count (hrow r hr).2
  · exact sum_count_summarize timings
  · intro r hr
    rcases hrow r hr with ⟨hoccurs, heq⟩
    rw [heq]
    exact summarize_timingsOf hoccurs
  · intro others hsame
    have htimings : ∀ o, timingsOf o others = timingsOf o timings := hsame
    have htimed : timed others = timed timings := by
      simp only [timed, htimings]
    simp only [summarize_eq, htimed, htimings]

end Bench
end MessageQueue
