import MessageQueue.Message
import MessageQueue.Proofs.Json.Readings
import MessageQueue.Proofs.Time.Rfc3339
import MessageQueue.Queue.Name
import MessageQueue.Queue.Options
import MessageQueue.Rag.Document
import MessageQueue.Rag.Request

/-!
# Types that are exchanged as JSON

Eight types are written as JSON texts and read from them.  What is read from the text of a value is
the value again, if its integers have their widths, no instant is in a leap second, the payloads in
it are canonical and without floating point numbers, and all is nested no deeper than a text may be.
There is one value that changes on the way: a chunk whose details are null comes back without
details.  Whatever else a text says, the value that is read from it is of that kind, so that a text
that was written once is written the same from then on.

Main results:

- Theorem `WireType.restores`: the reader of each type restores what its writer wrote.
- Theorem `WireType.sized_of_readText`: what is read can be written and read again.
- Theorem `WireType.reading_undoes_writing`: both together.
-/

namespace MessageQueue

open Json (Reader Fields Draft Origin text readText)
open Text (IntType)

/-! ## Fields -/

/-- The integers of the types in use are read as integers. -/
theorem isWide_of_contains {t : IntType} {n : Int} (h : t.contains n = true) :
    Json.isWide n = true := by
  have hrange := IntType.contains_iff.1 h
  cases t <;> simp [Json.isWide, IntType.lowest, IntType.highest] at hrange ⊢ <;> omega

/-- An instant outside a leap second is restored from its text. -/
theorem restores_instant {t : Time.Instant} (h : t.inLeapSecond = false) :
    instantReader.Restores (instantJson t) t := by
  have hstring : (Reader.stringAs instantDescription).Restores (.string (Time.zuluText t))
      (Time.zuluText t) := fun _ _ => rfl
  exact hstring.refine (by rw [Time.readInstant_zuluText h]; rfl)

/-- An integer that may be missing is restored. -/
theorem restores_optionalInteger {t : IntType} {x : Option Int}
    (h : ∀ n ∈ x, t.contains n = true) :
    (Reader.optional (Reader.integer t)).Restores (x.elim .null .int) x :=
  Reader.restores_optional_elim (fun n hn => Reader.restores_integer (h n hn))
    fun _ hnull => nomatch hnull

theorem optionalIntegerJson_eq (x : Option Int) : optionalIntegerJson x = x.elim .null .int := by
  cases x <;> rfl

/-- A text that may be missing is restored. -/
theorem restores_optionalString (x : Option String) :
    (Reader.optional Reader.string).Restores (x.elim .null .string) x :=
  Reader.restores_optional_elim (fun s _ => Reader.restores_string s) fun _ hnull => nomatch hnull

/-- A truth value that may be missing is restored. -/
theorem restores_optionalBool (x : Option Bool) :
    (Reader.optional Reader.bool).Restores (x.elim .null .bool) x :=
  Reader.restores_optional_elim (fun b _ => Reader.restores_bool b) fun _ hnull => nomatch hnull

/-- Details that are null come back as none, and any others as they are. -/
theorem restores_details {x : Option Json} (h : ∀ v ∈ x, v.isCanonical = true) :
    (Reader.optional Reader.any).Restores (x.getD .null) (if x = some .null then none else x) := by
  cases x with
  | none => exact Reader.restores_optional_null _
  | some v =>
      by_cases hnull : v = .null
      · subst hnull
        exact Reader.restores_optional_null _
      · rw [if_neg (by simpa using hnull)]
        exact (Reader.restores_any (h v rfl)).optional hnull

/-! ## Each type from what it wrote -/

/-- A name is restored from its text. -/
theorem QueueName.restores (q : QueueName) : QueueName.reader.Restores q.toJson q :=
  (Reader.restores_string q.text).refine (by rw [QueueName.ofString_text]; rfl)

theorem QueueOptions.restores {o : QueueOptions}
    (hpartition : IntType.signed64.contains o.partitionInterval = true)
    (hretention : IntType.signed64.contains o.retentionInterval = true) :
    QueueOptions.reader.Restores o.toJson o := by
  unfold QueueOptions.reader
  refine Fields.restores_refine (o.partitioned, o.partitionInterval, o.retentionInterval, ())
    (by decide) ?_ rfl
  apply Fields.restores_cons (Reader.restores_bool _)
  apply Fields.restores_cons (Reader.restores_integer hpartition)
  apply Fields.restores_cons (Reader.restores_integer hretention)
  exact Fields.restores_nil

theorem QueueMeta.restores {m : QueueMeta} (hcreated : m.createdAt.inLeapSecond = false) :
    QueueMeta.reader.Restores m.toJson m := by
  unfold QueueMeta.reader
  refine Fields.restores_refine (m.queueName, m.createdAt, ()) (by decide) ?_ rfl
  apply Fields.restores_cons (Reader.restores_string _)
  apply Fields.restores_cons (restores_instant hcreated)
  exact Fields.restores_nil

theorem QueueMetrics.restores {m : QueueMetrics}
    (hlength : IntType.signed64.contains m.queueLength = true)
    (hnewest : ∀ n ∈ m.newestAge, IntType.signed32.contains n = true)
    (holdest : ∀ n ∈ m.oldestAge, IntType.signed32.contains n = true) :
    QueueMetrics.reader.Restores m.toJson m := by
  unfold QueueMetrics.reader
  rw [QueueMetrics.toJson, optionalIntegerJson_eq, optionalIntegerJson_eq]
  refine Fields.restores_refine (m.queueName, m.queueLength, m.newestAge, m.oldestAge, ())
    (by decide) ?_ rfl
  apply Fields.restores_cons (Reader.restores_string _)
  apply Fields.restores_cons (Reader.restores_integer hlength)
  apply Fields.restores_cons (restores_optionalInteger hnewest)
  apply Fields.restores_cons (restores_optionalInteger holdest)
  exact Fields.restores_nil

theorem RagRequest.restores {r : RagRequest}
    (hcontext : ∀ n ∈ r.numContext, IntType.signed32.contains n = true) :
    RagRequest.reader.Restores r.toJson r := by
  unfold RagRequest.reader
  refine Fields.restores_refine
    (r.agentName, r.query, r.chatModel, r.promptTemplate, r.apiKey, r.numContext, r.forceTrim, ())
    (by decide) ?_ rfl
  apply Fields.restores_cons (Reader.restores_string _)
  apply Fields.restores_cons (Reader.restores_string _)
  apply Fields.restores_cons (Reader.restores_string _)
  apply Fields.restores_cons (restores_optionalString _)
  apply Fields.restores_cons (restores_optionalString _)
  apply Fields.restores_cons (restores_optionalInteger hcontext)
  apply Fields.restores_cons (restores_optionalBool _)
  exact Fields.restores_nil

theorem Message.restores {m : Message Json} (hid : IntType.signed64.contains m.id = true)
    (hcount : IntType.signed32.contains m.readCount = true)
    (henqueued : m.enqueuedAt.inLeapSecond = false) (hvisible : m.visibleAt.inLeapSecond = false)
    (hpayload : m.payload.isCanonical = true) :
    (Message.reader Reader.any).Restores (m.toJson fun payload => payload) m := by
  unfold Message.reader
  refine Fields.restores_refine
    (m.id, m.readCount, m.enqueuedAt, m.visibleAt, m.payload, ()) (by decide) ?_ rfl
  apply Fields.restores_cons (Reader.restores_integer hid)
  apply Fields.restores_cons (Reader.restores_integer hcount)
  apply Fields.restores_cons (restores_instant henqueued)
  apply Fields.restores_cons (restores_instant hvisible)
  apply Fields.restores_cons (Reader.restores_any hpayload)
  exact Fields.restores_nil

theorem ChatResponse.restores {r : ChatResponse}
    (hcontext : ∀ v ∈ r.context, v.isCanonical = true) :
    ChatResponse.reader.Restores r.toJson r := by
  unfold ChatResponse.reader
  refine Fields.restores_refine (r.context, r.chatResponse, ()) (by decide) ?_ rfl
  apply Fields.restores_cons (Reader.restores_list_any (Json.areCanonical_iff.2 hcontext))
  apply Fields.restores_cons (Reader.restores_string _)
  exact Fields.restores_nil

/-- A chunk is restored, but for details that are null. -/
theorem DocumentChunk.restores {c : DocumentChunk}
    (hdetails : ∀ v ∈ c.details, v.isCanonical = true) :
    DocumentChunk.reader.Restores c.toJson
      { c with details := if c.details = some .null then none else c.details } := by
  unfold DocumentChunk.reader
  refine Fields.restores_refine
    (c.documentName, c.chunkId, if c.details = some .null then none else c.details, c.content, ())
    (by decide) ?_ rfl
  apply Fields.restores_cons (Reader.restores_string _)
  apply Fields.restores_cons (Reader.restores_string _)
  apply Fields.restores_cons (restores_details hdetails)
  apply Fields.restores_cons (Reader.restores_string _)
  exact Fields.restores_nil

/-! ## Values that a text can hold -/

/-- A value that is written without loss: it is canonical and has no floating point numbers. -/
def Writable (v : Json) : Prop :=
  v.isCanonical = true ∧ v.isFloatFree = true

theorem writable_bool (b : Bool) : Writable (.bool b) := ⟨rfl, rfl⟩

theorem writable_string (s : String) : Writable (.string s) := ⟨rfl, rfl⟩

theorem writable_int {t : IntType} {n : Int} (h : t.contains n = true) : Writable (.int n) :=
  ⟨isWide_of_contains h, rfl⟩

theorem writable_array {vs : List Json} (h : ∀ v ∈ vs, Writable v) : Writable (.array vs) :=
  ⟨Json.areCanonical_iff.2 fun v hv => (h v hv).1,
    Json.itemsFloatFree_iff.2 fun v hv => (h v hv).2⟩

theorem writable_elim {α : Type} {write : α → Json} {x : Option α}
    (h : ∀ a ∈ x, Writable (write a)) : Writable (x.elim .null write) := by
  cases x with
  | none => exact ⟨rfl, rfl⟩
  | some a => exact h a rfl

theorem writable_getD {x : Option Json} (h : ∀ v ∈ x, Writable v) : Writable (x.getD .null) := by
  cases x with
  | none => exact ⟨rfl, rfl⟩
  | some v => exact h v rfl

/-- Members whose values are written without loss. -/
def WritableMembers (ms : List (String × Json)) : Prop :=
  ∀ m ∈ ms, Writable m.2

theorem writableMembers_nil : WritableMembers [] :=
  fun _ hm => absurd hm List.not_mem_nil

theorem writableMembers_cons {name : String} {v : Json} {rest : List (String × Json)}
    (hv : Writable v) (hrest : WritableMembers rest) : WritableMembers ((name, v) :: rest) :=
  List.forall_mem_cons.2 ⟨hv, hrest⟩

/-! ## The types -/

/-- The types that are exchanged. -/
inductive WireType where
  | queueName
  | queueOptions
  | queueMeta
  | queueMetrics
  | ragRequest
  | message
  | chatResponse
  | documentChunk
deriving DecidableEq, Repr

namespace WireType

/-- The values of a type; the payload of a message may be any JSON value. -/
abbrev Value : WireType → Type
  | queueName => QueueName
  | queueOptions => QueueOptions
  | queueMeta => QueueMeta
  | queueMetrics => QueueMetrics
  | ragRequest => RagRequest
  | message => Message Json
  | chatResponse => ChatResponse
  | documentChunk => DocumentChunk

/-- How a value is written. -/
def write : (k : WireType) → k.Value → Json
  | queueName => QueueName.toJson
  | queueOptions => QueueOptions.toJson
  | queueMeta => QueueMeta.toJson
  | queueMetrics => QueueMetrics.toJson
  | ragRequest => RagRequest.toJson
  | message => Message.toJson fun payload => payload
  | chatResponse => ChatResponse.toJson
  | documentChunk => DocumentChunk.toJson

/-- How a value is read. -/
def reader : (k : WireType) → Reader k.Value
  | queueName => QueueName.reader
  | queueOptions => QueueOptions.reader
  | queueMeta => QueueMeta.reader
  | queueMetrics => QueueMetrics.reader
  | ragRequest => RagRequest.reader
  | message => Message.reader Reader.any
  | chatResponse => ChatResponse.reader
  | documentChunk => DocumentChunk.reader

/-- The value that comes back: details that are null do not. -/
def restored : (k : WireType) → k.Value → k.Value
  | documentChunk, c => { c with details := if c.details = some .null then none else c.details }
  | queueName, v | queueOptions, v | queueMeta, v | queueMetrics, v | ragRequest, v | message, v
  | chatResponse, v => v

/-! ## What is in a value -/

/-- Whether the integers in a value have their widths. -/
def InWidths : (k : WireType) → k.Value → Prop
  | queueOptions, o =>
    IntType.signed64.contains o.partitionInterval = true ∧
      IntType.signed64.contains o.retentionInterval = true
  | queueMetrics, m =>
    IntType.signed64.contains m.queueLength = true ∧
      (∀ n ∈ m.newestAge, IntType.signed32.contains n = true) ∧
      ∀ n ∈ m.oldestAge, IntType.signed32.contains n = true
  | ragRequest, r => ∀ n ∈ r.numContext, IntType.signed32.contains n = true
  | message, m =>
    IntType.signed64.contains m.id = true ∧ IntType.signed32.contains m.readCount = true
  | queueName, _ | queueMeta, _ | chatResponse, _ | documentChunk, _ => True

/-- The instants in a value. -/
def instants : (k : WireType) → k.Value → List Time.Instant
  | queueMeta, m => [m.createdAt]
  | message, m => [m.enqueuedAt, m.visibleAt]
  | queueName, _ | queueOptions, _ | queueMetrics, _ | ragRequest, _ | chatResponse, _
  | documentChunk, _ => []

/-- The JSON values in a value. -/
def payloads : (k : WireType) → k.Value → List Json
  | message, m => [m.payload]
  | chatResponse, r => r.context
  | documentChunk, c => c.details.toList
  | queueName, _ | queueOptions, _ | queueMeta, _ | queueMetrics, _ | ragRequest, _ => []

/-- A value without floating point numbers and leap seconds. -/
structure Plain (k : WireType) (v : k.Value) : Prop where
  instants : ∀ t ∈ k.instants v, t.inLeapSecond = false
  payloads : ∀ p ∈ k.payloads v, p.isFloatFree = true

/-- A value whose integers have their widths, in its payloads those of JSON, and that is nested at
most 127 levels deep as it is written. -/
structure Sized (k : WireType) (v : k.Value) : Prop where
  widths : k.InWidths v
  payloads : ∀ p ∈ k.payloads v, p.isCanonical = true
  depth : (k.write v).depth ≤ 127

end WireType

/-! ## Each type from what it read -/

section Read

variable {origin : Origin} {d : Draft}

theorem QueueOptions.inWidths_of_read {o : QueueOptions} (hwide : d.isWide = true)
    (h : QueueOptions.reader origin d = .ok o) : WireType.queueOptions.InWidths o := by
  unfold QueueOptions.reader at h
  obtain ⟨_, ⟨_, partition, retention, _⟩, -, ⟨-, hpartition, hretention, -⟩, heq⟩ :=
    Fields.exists_record hwide h
  cases heq
  obtain ⟨_, -, hpartition⟩ := Fields.exists_of_readsField hpartition
  obtain ⟨_, -, hretention⟩ := Fields.exists_of_readsField hretention
  exact ⟨Reader.contains_of_integer hpartition, Reader.contains_of_integer hretention⟩

/-- An integer that may be missing has its width if it was read. -/
theorem contains_of_readsField {t : IntType} {absence : Json.Absence (Option Int)} {x : Option Int}
    (h : Fields.ReadsField origin (Reader.optional (Reader.integer t)) absence x)
    (hmissing : ∀ y, absence.StandsFor y → y = none) : ∀ n ∈ x, t.contains n = true := by
  intro n hn
  obtain ⟨_, -, hread⟩ := Fields.exists_of_readsField_optional h hmissing n hn
  exact Reader.contains_of_integer hread

theorem QueueMetrics.inWidths_of_read {m : QueueMetrics} (hwide : d.isWide = true)
    (h : QueueMetrics.reader origin d = .ok m) : WireType.queueMetrics.InWidths m := by
  unfold QueueMetrics.reader at h
  obtain ⟨_, ⟨_, length, newest, oldest, _⟩, -, ⟨-, hlength, hnewest, holdest, -⟩, heq⟩ :=
    Fields.exists_record hwide h
  cases heq
  obtain ⟨_, -, hlength⟩ := Fields.exists_of_readsField hlength
  exact ⟨Reader.contains_of_integer hlength, contains_of_readsField hnewest fun _ => id,
    contains_of_readsField holdest fun _ => id⟩

theorem RagRequest.inWidths_of_read {r : RagRequest} (hwide : d.isWide = true)
    (h : RagRequest.reader origin d = .ok r) : WireType.ragRequest.InWidths r := by
  unfold RagRequest.reader at h
  obtain ⟨_, ⟨_, _, _, _, _, context, _, _⟩, -, ⟨-, -, -, -, -, hcontext, -⟩, heq⟩ :=
    Fields.exists_record hwide h
  cases heq
  exact contains_of_readsField hcontext fun _ => id

theorem Message.sized_of_read {m : Message Json} (hwide : d.isWide = true)
    (h : Message.reader Reader.any origin d = .ok m) :
    WireType.message.InWidths m ∧
      ∃ inner, origin.enter = .ok inner ∧ Json.Sized inner m.payload := by
  unfold Message.reader at h
  obtain ⟨inner, ⟨_, _, _, _, payload, _⟩, henter, ⟨hid, hcount, -, -, hpayload, -⟩, heq⟩ :=
    Fields.exists_record hwide h
  cases heq
  obtain ⟨_, -, hid⟩ := Fields.exists_of_readsField hid
  obtain ⟨_, -, hcount⟩ := Fields.exists_of_readsField hcount
  obtain ⟨d', hwide', hpayload⟩ := Fields.exists_of_readsField hpayload
  exact ⟨⟨Reader.contains_of_integer hid, Reader.contains_of_integer hcount⟩, inner, henter,
    Reader.any_sized d' hwide' (Origin.admits_zero_of_enter henter) hpayload⟩

theorem ChatResponse.sized_of_read {r : ChatResponse} (hwide : d.isWide = true)
    (h : ChatResponse.reader origin d = .ok r) :
    ∃ inner, origin.enter = .ok inner ∧ Json.Sized inner (.array r.context) := by
  unfold ChatResponse.reader at h
  obtain ⟨inner, ⟨context, _, _⟩, henter, ⟨hcontext, -⟩, heq⟩ := Fields.exists_record hwide h
  cases heq
  obtain ⟨_, hwide', hcontext⟩ := Fields.exists_of_readsField hcontext
  exact ⟨inner, henter, Reader.list_any_sized hwide' hcontext⟩

theorem DocumentChunk.sized_of_read {c : DocumentChunk} (hwide : d.isWide = true)
    (h : DocumentChunk.reader origin d = .ok c) :
    ∃ inner, origin.enter = .ok inner ∧ ∀ p ∈ c.details, Json.Sized inner p := by
  unfold DocumentChunk.reader at h
  obtain ⟨inner, ⟨_, _, details, _, _⟩, henter, ⟨-, -, hdetails, -⟩, heq⟩ :=
    Fields.exists_record hwide h
  cases heq
  refine ⟨inner, henter, fun p hp => ?_⟩
  obtain ⟨d', hwide', hread⟩ := Fields.exists_of_readsField_optional hdetails (fun _ => id) p hp
  exact Reader.any_sized d' hwide' (Origin.admits_zero_of_enter henter) hread

end Read

/-! ## Reading undoes writing -/

namespace WireType

/-- The reader of a type restores what its writer wrote. -/
theorem restores (k : WireType) {v : k.Value} (hplain : k.Plain v) (hsized : k.Sized v) :
    k.reader.Restores (k.write v) (k.restored v) := by
  obtain ⟨hinstants, -⟩ := hplain
  obtain ⟨hwidths, hpayloads, -⟩ := hsized
  cases k with
  | queueName => exact QueueName.restores v
  | queueOptions => exact QueueOptions.restores hwidths.1 hwidths.2
  | queueMeta => exact QueueMeta.restores (hinstants _ List.mem_cons_self)
  | queueMetrics => exact QueueMetrics.restores hwidths.1 hwidths.2.1 hwidths.2.2
  | ragRequest => exact RagRequest.restores hwidths
  | message =>
      exact Message.restores hwidths.1 hwidths.2 (hinstants _ List.mem_cons_self)
        (hinstants _ (List.mem_cons_of_mem _ List.mem_cons_self))
        (hpayloads _ List.mem_cons_self)
  | chatResponse => exact ChatResponse.restores hpayloads
  | documentChunk => exact DocumentChunk.restores fun p hp => hpayloads p (Option.mem_toList.2 hp)

/-- A value is written as a text or as an object of writable members. -/
theorem write_cases (k : WireType) {v : k.Value} (hplain : k.Plain v) (hsized : k.Sized v) :
    (∃ s, k.write v = .string s) ∨ ∃ ms, k.write v = .object ms ∧ WritableMembers ms := by
  have hpayloads : ∀ p ∈ k.payloads v, Writable p := fun p hp =>
    ⟨hsized.payloads p hp, hplain.payloads p hp⟩
  have hwidths := hsized.widths
  cases k with
  | queueName => exact .inl ⟨_, rfl⟩
  | queueOptions =>
      refine .inr ⟨_, rfl, ?_⟩
      apply writableMembers_cons (writable_bool _)
      apply writableMembers_cons (writable_int hwidths.1)
      apply writableMembers_cons (writable_int hwidths.2)
      exact writableMembers_nil
  | queueMeta =>
      refine .inr ⟨_, rfl, ?_⟩
      apply writableMembers_cons (writable_string _)
      apply writableMembers_cons (writable_string _)
      exact writableMembers_nil
  | queueMetrics =>
      refine .inr ⟨_, rfl, ?_⟩
      rw [optionalIntegerJson_eq, optionalIntegerJson_eq]
      apply writableMembers_cons (writable_string _)
      apply writableMembers_cons (writable_int hwidths.1)
      apply writableMembers_cons (writable_elim fun n hn => writable_int (hwidths.2.1 n hn))
      apply writableMembers_cons (writable_elim fun n hn => writable_int (hwidths.2.2 n hn))
      exact writableMembers_nil
  | ragRequest =>
      refine .inr ⟨_, rfl, ?_⟩
      apply writableMembers_cons (writable_string _)
      apply writableMembers_cons (writable_string _)
      apply writableMembers_cons (writable_string _)
      apply writableMembers_cons (writable_elim fun s _ => writable_string s)
      apply writableMembers_cons (writable_elim fun s _ => writable_string s)
      apply writableMembers_cons (writable_elim fun n hn => writable_int (hwidths n hn))
      apply writableMembers_cons (writable_elim fun b _ => writable_bool b)
      exact writableMembers_nil
  | message =>
      refine .inr ⟨_, rfl, ?_⟩
      apply writableMembers_cons (writable_int hwidths.1)
      apply writableMembers_cons (writable_int hwidths.2)
      apply writableMembers_cons (writable_string _)
      apply writableMembers_cons (writable_string _)
      apply writableMembers_cons (hpayloads _ List.mem_cons_self)
      exact writableMembers_nil
  | chatResponse =>
      refine .inr ⟨_, rfl, ?_⟩
      apply writableMembers_cons (writable_array hpayloads)
      apply writableMembers_cons (writable_string _)
      exact writableMembers_nil
  | documentChunk =>
      refine .inr ⟨_, rfl, ?_⟩
      apply writableMembers_cons (writable_string _)
      apply writableMembers_cons (writable_string _)
      apply writableMembers_cons (writable_getD fun p hp => hpayloads p (Option.mem_toList.2 hp))
      apply writableMembers_cons (writable_string _)
      exact writableMembers_nil

/-- What comes back from the text of a value. -/
theorem readText_write (k : WireType) {v : k.Value} (hplain : k.Plain v) (hsized : k.Sized v) :
    readText k.reader (text (k.write v)) = .ok (k.restored v) := by
  have hrestores := k.restores hplain hsized
  have hdepth : (k.write v).depth < Json.nestingLimit := Nat.lt_succ_of_le hsized.depth
  rcases k.write_cases hplain hsized with ⟨s, hs⟩ | ⟨ms, hms, hwritable⟩
  · rw [hs] at hrestores hdepth ⊢
    exact hrestores.readText rfl rfl hdepth
  · rw [hms] at hrestores hdepth ⊢
    exact hrestores.readText_object (Json.membersCanonical_iff.2 fun m hm => (hwritable m hm).1)
      (Json.membersFloatFree_iff.2 fun m hm => (hwritable m hm).2) hdepth

/-- What comes back is written as the same text. -/
theorem write_restored (k : WireType) (v : k.Value) : k.write (k.restored v) = k.write v := by
  cases k with
  | documentChunk =>
      have hdetails : (if v.details = some .null then none else v.details).getD .null =
          v.details.getD .null := by
        split
        · rename_i hnull
          rw [hnull]
          rfl
        · rfl
      simp only [write, restored, DocumentChunk.toJson, hdetails]
  | _ => rfl

/-! ## What is read -/

/-- What is written of a value that may be missing is not nested if the value is not. -/
theorem depth_elim {α : Type} {write : α → Json} (h : ∀ a, (write a).depth = 0) (x : Option α) :
    (x.elim .null write).depth = 0 := by
  cases x with
  | none => rfl
  | some a => exact h a

/-- A text may be entered to one level less than it may be nested. -/
theorem admits_of_enter_text {inner : Origin} {depth : Nat}
    (henter : (Origin.text Json.nestingLimit).enter = .ok inner) (h : inner.Admits depth) :
    depth < 127 := by
  cases henter
  exact h

/-- What is read can be written and read again. -/
theorem sized_of_readText (k : WireType) {s : String} {v : k.Value}
    (h : readText k.reader s = .ok v) (hplain : k.Plain v) : k.Sized v := by
  obtain ⟨d, hwide, hread⟩ := Json.exists_draft_of_readText h
  have hfree := hplain.payloads
  cases k with
  | queueName => exact ⟨trivial, (fun _ hp => nomatch hp), Nat.zero_le _⟩
  | queueOptions =>
      refine ⟨QueueOptions.inWidths_of_read hwide hread, (fun _ hp => nomatch hp), ?_⟩
      simp [write, QueueOptions.toJson, Json.depth, Json.membersDepth]
  | queueMeta =>
      refine ⟨trivial, (fun _ hp => nomatch hp), ?_⟩
      simp [write, QueueMeta.toJson, instantJson, Json.depth, Json.membersDepth]
  | queueMetrics =>
      refine ⟨QueueMetrics.inWidths_of_read hwide hread, (fun _ hp => nomatch hp), ?_⟩
      have hint := depth_elim fun n : Int => (rfl : (Json.int n).depth = 0)
      simp [write, QueueMetrics.toJson, optionalIntegerJson_eq, Json.depth, Json.membersDepth, hint]
  | ragRequest =>
      refine ⟨RagRequest.inWidths_of_read hwide hread, (fun _ hp => nomatch hp), ?_⟩
      have hint := depth_elim fun n : Int => (rfl : (Json.int n).depth = 0)
      have hstring := depth_elim fun s : String => (rfl : (Json.string s).depth = 0)
      have hbool := depth_elim fun b : Bool => (rfl : (Json.bool b).depth = 0)
      simp [write, RagRequest.toJson, Json.depth, Json.membersDepth, hint, hstring, hbool]
  | message =>
      obtain ⟨hwidths, inner, henter, hpayload⟩ := Message.sized_of_read hwide hread
      refine ⟨hwidths, ?_, ?_⟩
      · intro p hp
        cases List.mem_singleton.1 hp
        exact hpayload.canonical (hfree _ hp)
      · have hdepth := admits_of_enter_text henter hpayload.depth
        simp [write, Message.toJson, instantJson, Json.depth, Json.membersDepth]
        omega
  | chatResponse =>
      obtain ⟨inner, henter, hcontext⟩ := ChatResponse.sized_of_read hwide hread
      refine ⟨trivial, ?_, ?_⟩
      · exact Json.areCanonical_iff.1 (hcontext.canonical (Json.itemsFloatFree_iff.2 hfree))
      · have hdepth := admits_of_enter_text henter hcontext.depth
        simp [write, ChatResponse.toJson, Json.depth, Json.membersDepth] at hdepth ⊢
        omega
  | documentChunk =>
      obtain ⟨inner, henter, hdetails⟩ := DocumentChunk.sized_of_read hwide hread
      refine ⟨trivial, ?_, ?_⟩
      · intro p hp
        exact (hdetails p (Option.mem_toList.1 hp)).canonical (hfree p hp)
      · have hdepth : (v.details.getD .null).depth < 127 := by
          cases hsome : v.details with
          | none => exact Nat.zero_lt_succ _
          | some p => exact admits_of_enter_text henter (hdetails p hsome).depth
        simp [write, DocumentChunk.toJson, Json.depth, Json.membersDepth]
        omega

/-- What holds of a type whose values are written and read. -/
structure RoundTrips (k : WireType) : Prop where
  /-- A value is read again from its text, but for details that are null. -/
  values : ∀ v : k.Value, k.Plain v → k.Sized v →
    readText k.reader (text (k.write v)) = .ok (k.restored v)
  /-- The value of any text is written as a text that is reproduced from then on. -/
  texts : ∀ (s : String) (v : k.Value), readText k.reader s = .ok v → k.Plain v →
    ∃ v', readText k.reader (text (k.write v)) = .ok v' ∧
      text (k.write v') = text (k.write v)

/-- Reading undoes writing, for each of the types. -/
theorem reading_undoes_writing (k : WireType) : RoundTrips k where
  values v hplain hsized := k.readText_write hplain hsized
  texts s v hread hplain := by
    refine ⟨k.restored v, k.readText_write hplain (k.sized_of_readText hread hplain), ?_⟩
    rw [k.write_restored]

/-- A message from the year 10000, with the greatest integer of a payload in it. -/
def lateMessage : Message Json where
  id := -9223372036854775808
  readCount := 2147483647
  enqueuedAt := ⟨253402300800, 5, by decide, by decide, by decide⟩
  visibleAt := Time.Instant.epoch
  payload := .object [("greatest", .array [.int 18446744073709551615, .null]),
    ("quoted", .string "\"\n")]

/-- It comes back from its text. -/
theorem reading_undoes_writing_lateMessage :
    message.Plain lateMessage ∧ message.Sized lateMessage ∧
      readText message.reader (text (message.write lateMessage)) = .ok lateMessage := by
  have hplain : message.Plain lateMessage := ⟨by decide, by decide⟩
  have hsized : message.Sized lateMessage := ⟨⟨by decide, by decide⟩, by decide, by decide⟩
  exact ⟨hplain, hsized, (reading_undoes_writing message).values lateMessage hplain hsized⟩

end WireType
end MessageQueue
