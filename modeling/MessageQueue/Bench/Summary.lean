import MessageQueue.Decimal.Fixed
import MessageQueue.Text.Table
import MessageQueue.Time.Duration

/-!
# Timings and their summary

A timing is one round trip to a store.  A summary has a row for every operation that was
timed, in a fixed order, with count, mean, sample standard deviation, least and greatest
time in milliseconds.

Main results:

- Theorem `samples_length`: the count of a row is the number of its timings.
- Theorem `samples_filter`: a row depends only on the timings of its operation.
-/

namespace MessageQueue
namespace Bench

/-! ## Timings -/

/-- What is timed, in the order of the rows of a summary. -/
inductive Operation where
  | write
  | read
  | archive
  | delete
deriving DecidableEq, Ord, Repr

namespace Operation

/-- The name of an operation. -/
def name : Operation → String
  | write => "write"
  | read => "read"
  | archive => "archive"
  | delete => "delete"

/-- An operation comes no later than another in a summary. -/
def le (o p : Operation) : Bool := (compare o p).isLE

end Operation

/-- One timed round trip. -/
structure Timing where
  operation : Operation
  duration : Time.Duration
  id : Int
deriving DecidableEq, Repr

/-! ## Summary -/

/-- The timings of one operation in milliseconds, summed up. -/
structure Summary where
  operation : Operation
  count : Nat
  mean : Float
  deviation : Float
  least : Float
  greatest : Float
deriving DecidableEq

/-- The milliseconds of the timings of one operation. -/
def samples (o : Operation) (timings : List Timing) : List Float :=
  (timings.filter fun t => t.operation = o).map fun t => t.duration.toSeconds * 1000.0

/-- The count of a row is the number of its timings. -/
theorem samples_length (o : Operation) (timings : List Timing) :
    (samples o timings).length = timings.countP fun t => t.operation = o := by
  simp [samples, List.countP_eq_length_filter]

/-- The sum of some numbers, from the left. -/
def sum (xs : List Float) : Float :=
  xs.foldl (· + ·) 0.0

/-- The mean square distance from the mean, with one degree of freedom spent on the mean; a single
sample has none. -/
def variance (mean : Float) (xs : List Float) : Float :=
  if 1 < xs.length then
    sum (xs.map fun x => (x - mean) * (x - mean)) / (Float.ofNat xs.length - 1.0)
  else 0.0

/-- The lesser of two numbers. -/
def lesser (x y : Float) : Float := if y < x then y else x

/-- The greater of two numbers. -/
def greater (x y : Float) : Float := if x < y then y else x

/-- The row of an operation with given samples. -/
def summaryOf (o : Operation) (xs : List Float) : Summary :=
  let mean := sum xs / Float.ofNat xs.length
  { operation := o
    count := xs.length
    mean
    deviation := (variance mean xs).sqrt
    least := xs.foldl lesser (1.0 / 0.0)
    greatest := xs.foldl greater (-1.0 / 0.0) }

/-- A list without the entries that repeat the one before them. -/
def dedup {α : Type} [DecidableEq α] : List α → List α
  | a :: b :: rest => if a = b then dedup (b :: rest) else a :: dedup (b :: rest)
  | short => short

/-- The operations that were timed, sorted and without repetitions. -/
def operations (timings : List Timing) : List Operation :=
  dedup ((timings.map Timing.operation).mergeSort Operation.le)

/-- The rows of all operations that were timed. -/
def summarize (timings : List Timing) : List Summary :=
  (operations timings).map fun o => summaryOf o (samples o timings)

/-- A row depends only on the timings of its operation. -/
theorem samples_filter (o : Operation) (timings : List Timing) :
    samples o (timings.filter fun t => t.operation = o) = samples o timings := by
  simp [samples, List.filter_filter]

/-! ## Table -/

/-- The headings of a summary. -/
def headings : List String :=
  ["operation", "count", "mean (ms)", "stddev (ms)", "min (ms)", "max (ms)"]

/-- Times are shown with three decimals. -/
def milliseconds (x : Float) : String := Decimal.fixed 3 x

/-- The cells of a row. -/
def Summary.cells (s : Summary) : List String :=
  [s.operation.name, toString s.count, milliseconds s.mean, milliseconds s.deviation,
    milliseconds s.least, milliseconds s.greatest]

/-- A summary as a table. -/
def summaryTable (rows : List Summary) : String :=
  Text.table headings (rows.map Summary.cells)

end Bench
end MessageQueue
