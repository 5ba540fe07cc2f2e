import MessageQueue.Json.Reader

/-!
# Queue options

How a queue is created: plain, or cut into partitions of so many messages of which so many
messages are kept.

Main results:

- Theorem `check_eq_ok_iff`: options pass exactly when both intervals are positive.
-/

namespace MessageQueue

/-- Options of a new queue. -/
structure QueueOptions where
  partitioned : Bool
  partitionInterval : Int
  retentionInterval : Int
deriving DecidableEq, Repr

/-- Why options are refused. -/
inductive OptionsError where
  | partitionInterval (n : Int)
  | retentionInterval (n : Int)
deriving DecidableEq, Repr

/-- The wording of an options error. -/
def OptionsError.message : OptionsError → String
  | partitionInterval n => s!"Partition interval must be positive: {n}"
  | retentionInterval n => s!"Retention interval must be positive: {n}"

namespace QueueOptions

/-- Messages in a partition, unless told otherwise. -/
def defaultPartitionInterval : Int := 10000

/-- Messages kept in partitions, unless told otherwise. -/
def defaultRetentionInterval : Int := 100000

/-- A plain queue. -/
def plain : QueueOptions := ⟨false, defaultPartitionInterval, defaultRetentionInterval⟩

/-- A queue in partitions of so many messages. -/
def ofPartitions (interval : Int) : QueueOptions := ⟨true, interval, defaultRetentionInterval⟩

/-- The options with another count of messages to keep. -/
def withRetention (o : QueueOptions) (interval : Int) : QueueOptions :=
  { o with retentionInterval := interval }

/-- Refuses intervals that are not positive, the partition interval first. -/
def check (o : QueueOptions) : Except OptionsError Unit :=
  if o.partitionInterval ≤ 0 then .error (.partitionInterval o.partitionInterval)
  else if o.retentionInterval ≤ 0 then .error (.retentionInterval o.retentionInterval)
  else .ok ()

/-- Options pass exactly when both intervals are positive. -/
theorem check_eq_ok_iff {o : QueueOptions} :
    o.check = .ok () ↔ 0 < o.partitionInterval ∧ 0 < o.retentionInterval := by
  unfold check
  split
  · simp; omega
  · split
    · simp; omega
    · simp; omega

/-- Options are written as an object of their three fields. -/
def toJson (o : QueueOptions) : Json :=
  .object [("partitioned", .bool o.partitioned), ("partition_interval", .int o.partitionInterval),
    ("retention_interval", .int o.retentionInterval)]

/-- Options are read from an object or array of their three fields. -/
def reader : Json.Reader QueueOptions :=
  let fields := Json.Fields.cons "partitioned" Json.Reader.bool .required <|
    .cons "partition_interval" (Json.Reader.integer .signed64) .required <|
    .cons "retention_interval" (Json.Reader.integer .signed64) .required .nil
  (fields.read "QueueOptions").refine fun (p, i, r, _) => .ok ⟨p, i, r⟩

end QueueOptions
end MessageQueue
