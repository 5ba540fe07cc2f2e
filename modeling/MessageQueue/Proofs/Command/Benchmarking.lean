import MessageQueue.Command.Run
import MessageQueue.Proofs.Bench.Benchmark
import MessageQueue.Proofs.Command.Settings
import MessageQueue.Proofs.Text.Numerals

/-!
# The command for benchmarks

A benchmark that leaves the retention of its queue open keeps as many messages as it writes.  The
options of the queue pass for every count of messages but zero; then the queue is there, whether it
had to be created or not, and the benchmark runs on it, unless one of its reads panics.  A benchmark
of no messages is refused for its options, although the loops of the benchmark would have nothing to
do.

Main results:

- Theorem `readWords_benchWords`: how a command line asks for a benchmark.
- Theorem `benchOptions_check_eq_ok_iff`: the options pass for every count but zero.
- Theorem `ensureQueue_ensures`: the queue is there whether or not it was before.
- Theorem `bench_outcome`: what the command comes to, for every count of messages.
-/

namespace MessageQueue

namespace Text

/-- The decimal text of a count is read as that count. -/
theorem readInteger_toString {t : IntType} {n : Nat} (h : t.contains n = true) :
    readInteger t (toString n).toList = .ok n := by
  have hvalue : Nat.ofDigitChars 10 (toString n).toList 0 = n := by
    rw [Nat.toString_eq_repr, Nat.toList_repr]
    exact Nat.ofDigitChars_ten_toDigits
  have hnumeral : IsNumeral t (toString n).toList (Nat.ofDigitChars 10 (toString n).toList 0) := by
    apply IsNumeral.plain
    · rw [Nat.toString_eq_repr, Nat.toList_repr]
      exact Nat.toDigits_ne_nil
    · intro c hc
      rw [Nat.toString_eq_repr, Nat.toList_repr] at hc
      exact Nat.isDigit_of_mem_toDigits (by decide) (by decide) hc
  rw [hvalue] at hnumeral
  exact readInteger_eq_ok_iff.2 ⟨hnumeral, h⟩

end Text

namespace Command

open Bench (Ready Runs benchOptions maxTimings)
open Database (Server)
open Store (Memory Queue)
open Time (Instant)

/-! ## The words of the command -/

/-- A word that does not begin with a hyphen is an operand. -/
theorem Token.ofWord_eq_operand {s : String} (h : s.toList.head? ≠ some '-') :
    Token.ofWord s = .operand s := by
  unfold Token.ofWord
  cases hs : s.toList with
  | nil => rfl
  | cons c rest =>
      have hc : c ≠ '-' := by simpa [hs] using h
      simp [hc]

theorem ofWord_toString (n : Nat) : Token.ofWord (toString n) = .operand (toString n) := by
  apply Token.ofWord_eq_operand
  intro h
  have hmem := List.mem_of_mem_head? h
  rw [Nat.toString_eq_repr, Nat.toList_repr] at hmem
  exact absurd (Nat.isDigit_of_mem_toDigits (by decide) (by decide) hmem) (by decide)

theorem ofWord_name (name : QueueName) : Token.ofWord name.text = .operand name.text := by
  apply Token.ofWord_eq_operand
  intro h
  obtain ⟨-, -, hall⟩ := QueueName.accepts_iff.1 name.accepted
  exact absurd (hall '-' (List.mem_of_mem_head? h)) (by decide)

/-- The words that ask for a benchmark of a count of messages, on a queue if one is named, and leave
all else open. -/
def benchWords (queue : Option QueueName) (count : Nat) : List String :=
  "bench" :: "-n" :: toString count :: queue.elim [] fun name => ["--queue", name.text]

/-- What these words ask for. -/
def benchRequest (queue : Option QueueName) (count : Nat) : Request :=
  .bench (queue.map QueueName.text) count 10 10000 none

/-- The level of the command. -/
def benchLevel : Level :=
  level [.long "queue" .text, .short "num-messages" 'n' (.integer .unsigned64),
    .long "vt" (.integer .signed32), .long "partition-interval" (.integer .signed64),
    .long "retention" (.integer .signed64)] [] []

theorem read_topLevel_bench (rest : List String) :
    topLevel.read ("bench" :: rest) = .ok ⟨[], [], some ("bench", rest)⟩ := by
  have hword : Token.ofWord "bench" = .operand "bench" := by decide
  simp only [Level.read, Level.scan, hword]
  rfl

theorem readInteger_count {count : Nat} (h : count < 2 ^ 63) :
    Text.readInteger .unsigned64 (toString count).toList = .ok count := by
  apply Text.readInteger_toString
  rw [Text.IntType.contains_iff]
  simp only [Text.IntType.lowest, Text.IntType.highest]
  omega

/-- A count that is given behind its letter is taken down. -/
theorem scan_count {count : Nat} (h : count < 2 ^ 63) (rest : List String) :
    benchLevel.scan Given.none none ("-n" :: toString count :: rest) =
      benchLevel.scan ⟨[("num-messages", toString count)], [], none⟩ none rest := by
  have hletter : Token.ofWord "-n" = .letters ['n'] := by decide
  have hwaiting : benchLevel.readLetters Given.none ['n'] =
      .ok (Given.none, some (.short "num-messages" 'n' (.integer .unsigned64))) := rfl
  have hadded : Given.none.addOption (.short "num-messages" 'n' (.integer .unsigned64))
      (toString count) = .ok ⟨[("num-messages", toString count)], [], none⟩ := by
    have haccepts : (ValueKind.integer .unsigned64).accepts (toString count) = true := by
      rw [ValueKind.accepts, readInteger_count h]
      rfl
    simp only [Given.addOption, OptionSpec.short, Option.map_some, haccepts]
    rfl
  simp only [Level.scan, hletter, hwaiting, ofWord_toString, hadded]

/-- The name of a queue that is given is taken down. -/
theorem scan_queue (count : String) (name : QueueName) :
    benchLevel.scan ⟨[("num-messages", count)], [], none⟩ none ["--queue", name.text] =
      .ok ⟨[("num-messages", count), ("queue", name.text)], [], none⟩ := by
  have hlong : Token.ofWord "--queue" = .long "queue" none := by decide
  have hwaiting : benchLevel.readLong ⟨[("num-messages", count)], [], none⟩ "queue" none =
      .ok (⟨[("num-messages", count)], [], none⟩, some (.long "queue" .text)) := rfl
  have hadded : Given.addOption ⟨[("num-messages", count)], [], none⟩ (.long "queue" .text)
      name.text = .ok ⟨[("num-messages", count), ("queue", name.text)], [], none⟩ := rfl
  simp only [Level.scan, hlong, hwaiting, ofWord_name, hadded]

/-- What was given for a benchmark. -/
def benchGiven (queue : Option QueueName) (count : Nat) : Given where
  options := ("num-messages", toString count) ::
    queue.elim [] fun name => [("queue", name.text)]
  operands := []
  below := none

theorem read_benchLevel (queue : Option QueueName) {count : Nat} (h : count < 2 ^ 63) :
    benchLevel.read (benchWords queue count).tail = .ok (benchGiven queue count) := by
  have hscan : benchLevel.scan Given.none none (benchWords queue count).tail =
      .ok (benchGiven queue count) := by
    cases queue with
    | none => exact scan_count h []
    | some name => exact (scan_count h _).trans (scan_queue (toString count) name)
  rw [Level.read, hscan]
  rfl

/-- What was given asks for the benchmark. -/
theorem requestOf_benchGiven (apiKey : Option String) (queue : Option QueueName) {count : Nat}
    (h : count < 2 ^ 63) :
    requestOf apiKey ["bench"] (benchGiven queue count) = some (benchRequest queue count) := by
  have hcount : (benchGiven queue count).countOr "num-messages" 10000 = count := by
    have hvalue : (benchGiven queue count).value? "num-messages" = some (toString count) := rfl
    rw [Given.countOr, hvalue, Option.bind_some, Given.count, readInteger_count h]
    rfl
  have hrequest : requestOf apiKey ["bench"] (benchGiven queue count) =
      some (.bench (queue.map QueueName.text)
        ((benchGiven queue count).countOr "num-messages" 10000) 10 10000 none) := by
    cases queue <;> rfl
  rw [hrequest, hcount]
  rfl

/-- The words for a command are read at its level. -/
theorem readLeaf_eq_ok {apiKey url : Option String} {names words : List String} {leaf : Level}
    {g : Given} {r : Request} (hleaf : leafLevel names = some leaf)
    (hread : leaf.read words = .ok g) (hrequest : requestOf apiKey names g = some r) :
    readLeaf apiKey url names words = .ok ⟨(g.value? urlOption).or url, r⟩ := by
  simp [readLeaf, hleaf, hread, hrequest, bind, Except.bind, pure, Except.pure]

/-- How a command line asks for a benchmark. -/
theorem readWords_benchWords (apiKey : Option String) (queue : Option QueueName) {count : Nat}
    (h : count < 2 ^ 63) :
    readWords apiKey (benchWords queue count) = .ok ⟨none, benchRequest queue count⟩ := by
  have hleaf : readLeaf apiKey none ["bench"] (benchWords queue count).tail =
      .ok ⟨((benchGiven queue count).value? urlOption).or none, benchRequest queue count⟩ :=
    readLeaf_eq_ok rfl (read_benchLevel queue h) (requestOf_benchGiven apiKey queue h)
  have hurl : (benchGiven queue count).value? urlOption = none := by cases queue <;> rfl
  have hwords : benchWords queue count = "bench" :: (benchWords queue count).tail := rfl
  rw [hurl] at hleaf
  rw [hwords, readWords, read_topLevel_bench]
  exact hleaf

/-! ## The queue of a benchmark -/

theorem partitionInterval_benchOptions (interval : Int) (retention : Option Int) (count : Nat) :
    (benchOptions interval retention count).partitionInterval = interval := rfl

theorem retentionInterval_benchOptions (interval : Int) (retention : Option Int) (count : Nat) :
    (benchOptions interval retention count).retentionInterval =
      retention.getD (Text.IntType.signed64.wrap count) := rfl

/-- The options of a benchmark that leaves the retention open pass for every count but zero. -/
theorem benchOptions_check_eq_ok_iff {interval : Int} (hinterval : 0 < interval) {count : Nat}
    (h : count < 2 ^ 63) : (benchOptions interval none count).check = .ok () ↔ count ≠ 0 := by
  have hwrap : Text.IntType.signed64.wrap count = count := by
    simp only [Text.IntType.wrap, Text.IntType.lowest, Text.IntType.highest]
    rw [Int.emod_eq_of_lt (by omega) (by omega)]
    omega
  rw [QueueOptions.check_eq_ok_iff, partitionInterval_benchOptions,
    retentionInterval_benchOptions, Option.getD_none, hwrap]
  omega

section Ensured

variable {name : QueueName} {m : Memory} {w : World Memory} {options : QueueOptions}

/-- A store after a call that makes sure of a queue: the one that is there, or else a new one. -/
def ensured (name : QueueName) (m : Memory) : Memory :=
  { m with
    queues := m.queues.insert name.text ((m.queues.get? name.text).getD (.new m.now))
    calls := m.calls + 1 }

/-- The creation of a queue in partitions makes sure of it, and tells whether it was there. -/
theorem perform_createPartitioned (name : QueueName) (honline : m.offline = false)
    (size retention : Int) :
    Memory.perform (.createPartitioned name size retention) m =
      (if (m.queues.get? name.text).isSome then .error (.reported (.queueExists name.text))
        else .ok (), ensured name m) := by
  obtain ⟨queues, now, offline, calls⟩ := m
  simp only at honline
  subst honline
  cases hq : queues.get? name.text with
  | none =>
      have hnot : queues.contains name.text = false := by rw [SortedMap.contains, hq]; rfl
      simp [Memory.perform, Memory.answer, Memory.createQueue, ensured, hq, hnot]
  | some q =>
      have hthere : queues.contains name.text = true := by rw [SortedMap.contains, hq]; rfl
      simp [Memory.perform, Memory.answer, Memory.createQueue, ensured, hq, hthere,
        SortedMap.insert_of_get? hq]

theorem reachable_ensured (name : QueueName) (hreach : m.Reachable) (honline : m.offline = false) :
    (ensured name m).Reachable := by
  have hperform := perform_createPartitioned name honline 1 1
  have hlast := hreach.perform (.createPartitioned name 1 1)
  rw [hperform] at hlast
  apply hlast
  split <;> rfl

theorem get?_ensured :
    (ensured name m).queues.get? name.text =
      some ((m.queues.get? name.text).getD (.new m.now)) := by
  rw [ensured, SortedMap.get?_insert, if_pos rfl]

/-- The deliveries of the messages that a benchmark of a queue reads can be counted. -/
def Counts (name : QueueName) (count : Nat) (m : Memory) : Prop :=
  ∀ q, m.queues.get? name.text = some q → q.NoneSpent (q.readIds m.now count)

/-- This is so for the queue that was made sure of as it was before, since a new one has no
messages. -/
theorem noneSpent_ensured_iff (count : Nat) {q : Queue}
    (hq : (ensured name m).queues.get? name.text = some q) :
    q.NoneSpent (q.readIds m.now count) ↔ Counts name count m := by
  rw [get?_ensured] at hq
  cases hthere : m.queues.get? name.text with
  | none =>
      rw [hthere] at hq
      cases hq
      have hnew : (Queue.new m.now).NoneSpent ((Queue.new m.now).readIds m.now count) :=
        fun _ _ _ => nofun
      simp [Counts, hthere, hnew]
  | some q' =>
      rw [hthere] at hq
      cases hq
      simp [Counts, hthere]

/-- A queue in partitions whose options pass is made sure of. -/
theorem ensureQueue_ensures (name : QueueName) (honline : w.store.offline = false)
    (hpartitioned : options.partitioned = true) (hcheck : options.check = .ok ()) (v : Int) :
    ∃ e, Bench.ensureQueue ⟨Memory.store, v⟩ name.text options w =
      (.ok (), { w with store := ensured name w.store, events := w.events.push e }) := by
  have hfaults : (Client.Operation.intervalFaults options).findSome? id = none := by
    obtain ⟨hinterval, hretention⟩ := QueueOptions.check_eq_ok_iff.1 hcheck
    simp [Client.Operation.intervalFaults, Client.Operation.faultIf, Int.not_le.2 hinterval,
      Int.not_le.2 hretention]
  have hcreate : Client.createWith ⟨Memory.store, v⟩ name.text options w = _ :=
    Client.Operation.run_createWith_partitioned hpartitioned hfaults
  simp only [Memory.store, Session.run_onStore, perform_createPartitioned name honline] at hcreate
  cases hq : w.store.queues.get? name.text with
  | none =>
      refine ⟨Client.Operation.createdEvent name true, ?_⟩
      simp [Bench.ensureQueue, hcreate, hq, Client.Operation.Plan.finish]
  | some q =>
      refine ⟨.warn "Queue already exists, reusing it" [("queue", .text name.text)], ?_⟩
      simp [Bench.ensureQueue, hcreate, hq, Client.Operation.Plan.finish]

end Ensured

/-! ## The command -/

/-- The queue that is drawn for a benchmark that names none. -/
def drawnQueue (draw : Nat) : QueueName where
  text :=
    let number := draw % 101
    s!"bench_queue_{number}"
  accepted := by
    have hall : ∀ number < 101, QueueName.accepts s!"bench_queue_{number}" = true := by
      decide +kernel
    exact hall _ (Nat.mod_lt _ (by decide))

/-- The queue of a benchmark: the one that is named, or else the one that is drawn. -/
def benchQueue (s : Surroundings) (queue : Option QueueName) : QueueName :=
  queue.getD (drawnQueue s.draw)

/-- What is logged before a benchmark. -/
def startingEvent (name : QueueName) (count : Nat) : Event :=
  .info "Starting benchmark" [("queue", .text name.text), ("num_messages", .integer count),
    ("retention", .integer (benchOptions 10000 none count).retentionInterval)]

/-- A benchmark takes four timings for each message. -/
theorem length_benchTimings (q : Queue) (now : Instant) (count : Nat) :
    (Bench.benchTimings q now count).length = 4 * count := by
  simp [Bench.benchTimings, Bench.readAndArchived, Queue.length_readIds]
  omega

/-- What a benchmark of a count of messages comes to that leaves all else open but its queue. -/
structure BenchOutcome (s : Surroundings) (v : Int) (name : QueueName) (count : Nat)
    (w : World Memory) (result : Except Trouble String × World Memory) : Prop where
  /-- Without messages the options are refused, before the store is called. -/
  empty : count = 0 →
    result.1 = .error (.of "Validation error: Retention interval must be positive: 0") ∧
      result.2.store = w.store
  /-- With messages they pass. -/
  passes : count ≠ 0 → (benchOptions 10000 none count).check = .ok ()
  /-- Then the queue is made sure of, the benchmark runs on it, and four timings for each message
  are summed up. -/
  works : count ≠ 0 → (w.store.now.addSeconds? 10).isSome → Counts name count w.store →
    ∃ started timings w',
      started.store = ensured name w.store ∧
      Bench.runBench ⟨Memory.store, v⟩ name.text count 10 started = (.ok timings, w') ∧
      timings.length = 4 * count ∧
      result = (.ok (summaryText (wantsColors s.lookup s.terminal)
        (let queue := name.text; s!"Benchmark results ({queue})") timings), w')
  /-- At the end of time the first read panics, and otherwise that of a message whose deliveries
  cannot be counted. -/
  panics : count ≠ 0 → ¬((w.store.now.addSeconds? 10).isSome ∧ Counts name count w.store) →
    result.1 = .error (.of "time or count out of range")

theorem perform_benchRequest (s : Surroundings) (server : Server Memory) (v : Int)
    (queue : Option QueueName) (count : Nat) (w : World Memory) :
    perform s server ⟨Memory.store, v⟩ (benchRequest queue count) w =
      (calling (Bench.ensureQueue ⟨Memory.store, v⟩ (benchQueue s queue).text
          (benchOptions 10000 none count)) >>= fun _ =>
        looping (Bench.runBench ⟨Memory.store, v⟩ (benchQueue s queue).text count 10) >>=
          fun timings => pure (summaryText (wantsColors s.lookup s.terminal)
            (let queue := (benchQueue s queue).text; s!"Benchmark results ({queue})") timings))
        { w with events := w.events.push (startingEvent (benchQueue s queue) count) } := by
  cases queue <;> rfl

/-- The options of a benchmark of no messages are refused before the store is called. -/
theorem ensureQueue_empty {name : QueueName} (v : Int) (w : World Memory) :
    Bench.ensureQueue ⟨Memory.store, v⟩ name.text (benchOptions 10000 none 0) w =
      (.error (.reported (.validation "Retention interval must be positive: 0")), w) := by
  have hwrap : Text.IntType.signed64.wrap 0 = 0 := by decide
  have hretention : (benchOptions 10000 none 0).retentionInterval = 0 := by
    rw [retentionInterval_benchOptions, Option.getD_none]
    exact hwrap
  have hrefusal : (Client.Operation.createWith name.text (benchOptions 10000 none 0)).refusal v =
      some (.validation "Retention interval must be positive: 0") := by
    have hpartitioned : (benchOptions 10000 none 0).partitioned = true := rfl
    simp [Client.Operation.refusal, Client.Operation.faults, Client.Operation.intervalFaults,
      Client.Operation.faultIf, hpartitioned, partitionInterval_benchOptions, hretention]
    rfl
  have hcreate : Client.createWith ⟨Memory.store, v⟩ name.text (benchOptions 10000 none 0) w = _ :=
    Client.Operation.run_createWith_refused hrefusal
  simp [Bench.ensureQueue, hcreate]

/-- The command for benchmarks with all but its queue left open works for every count of messages
but zero, whether or not the queue is there. -/
theorem bench_outcome (s : Surroundings) (server : Server Memory) (v : Int)
    (apiKey : Option String) (queue : Option QueueName) {count : Nat} {w : World Memory}
    (hreach : w.store.Reachable) (honline : w.store.offline = false)
    (hroom : 4 * count ≤ maxTimings) :
    readWords apiKey (benchWords queue count) = .ok ⟨none, benchRequest queue count⟩ ∧
      BenchOutcome s v (benchQueue s queue) count w
        (perform s server ⟨Memory.store, v⟩ (benchRequest queue count) w) := by
  have hlt : count < 2 ^ 63 := by
    have hmost : maxTimings = 288230376151711743 := rfl
    omega
  have hcheck : count ≠ 0 → (benchOptions 10000 none count).check = .ok () :=
    (benchOptions_check_eq_ok_iff (by decide) hlt).2
  refine ⟨readWords_benchWords apiKey queue hlt, ?_⟩
  rw [perform_benchRequest]
  generalize benchQueue s queue = name
  generalize hw : { w with events := w.events.push (startingEvent name count) } = w₀
  have hstore : w₀.store = w.store := by rw [← hw]
  have honline₀ : w₀.store.offline = false := by rw [hstore, honline]
  -- what happens once the options have passed
  have hensure : count ≠ 0 → ∃ w₁, calling (Bench.ensureQueue ⟨Memory.store, v⟩ name.text
      (benchOptions 10000 none count)) w₀ = (.ok (), w₁) ∧ w₁.store = ensured name w.store := by
    intro hcount
    obtain ⟨e, hrun⟩ := ensureQueue_ensures name honline₀ rfl (hcheck hcount) v
    refine ⟨_, by rw [calling, Session.run_mapError, hrun, mapError_ok], ?_⟩
    rw [hstore]
  obtain ⟨q, hq⟩ : ∃ q, (ensured name w.store).queues.get? name.text = some q := ⟨_, get?_ensured⟩
  have horder : q.InOrder := Queue.inOrder_of_reachable (reachable_ensured name hreach honline) hq
  have hunspent := noneSpent_ensured_iff count hq
  have hready : ∀ {w₁ : World Memory}, w₁.store = ensured name w.store →
      Ready name w.store.now w₁.elapsed q w₁ :=
    fun hstore₁ => ⟨hstore₁ ▸ honline, hstore₁ ▸ rfl, rfl, hstore₁ ▸ hq⟩
  constructor
  · rintro rfl
    have hrefused : calling (Bench.ensureQueue ⟨Memory.store, v⟩ name.text
        (benchOptions 10000 none 0)) w₀ =
          (.error (.of "Validation error: Retention interval must be positive: 0"), w₀) := by
      rw [calling, Session.run_mapError, ensureQueue_empty]
      rfl
    rw [Session.run_bind_of_error _ hrefused]
    exact ⟨rfl, hstore⟩
  · exact hcheck
  · intro hcount hrange hcounts
    obtain ⟨w₁, hensured, hstore₁⟩ := hensure hcount
    obtain ⟨hidden, ht⟩ := Option.isSome_iff_exists.1 hrange
    obtain ⟨w', hrun, -⟩ := Bench.runBench_runs v horder hroom (by decide) ht
      (hunspent.2 hcounts) w₁ (hready hstore₁)
    refine ⟨w₁, _, w', hstore₁, hrun, length_benchTimings _ _ count, ?_⟩
    have hlooping : looping (Bench.runBench ⟨Memory.store, v⟩ name.text count 10) w₁ =
        (.ok (Bench.benchTimings q w.store.now count), w') := by
      rw [looping, Session.run_mapError, hrun, mapError_ok]
    rw [Session.run_bind_of_ok _ hensured, Session.run_bind_of_ok _ hlooping]
    rfl
  · intro hcount hpanics
    obtain ⟨w₁, hensured, hstore₁⟩ := hensure hcount
    have hstops : Bench.Stops name w.store.now w₁.elapsed q
        (Bench.runBench ⟨Memory.store, v⟩ name.text count 10) (.failed .overflow) := by
      cases ht : w.store.now.addSeconds? 10 with
      | none => exact Bench.runBench_stops_late hcount hroom (by decide) ht
      | some hidden =>
          refine Bench.runBench_stops v horder hroom (by decide) ht fun hcounts => hpanics ?_
          exact ⟨by rw [ht]; rfl, hunspent.1 hcounts⟩
    have hlooping : (looping (Bench.runBench ⟨Memory.store, v⟩ name.text count 10) w₁).1 =
        .error (.of "time or count out of range") := by
      rw [looping, Session.run_mapError, hstops w₁ (hready hstore₁)]
      rfl
    rw [Session.run_bind_of_ok _ hensured, Session.run_bind_of_error _ (Prod.ext hlooping rfl)]

/-- No message of the queue of four jobs has come near the end of its count. -/
theorem counts_fourJobs (name : QueueName) (count : Nat) :
    Counts name count Client.fourJobs.store := by
  have hfresh : ∀ e ∈ Client.fourJobs.store.queues.entries, ∀ m ∈ e.2.live.entries, ¬m.2.Spent := by
    decide
  intro q hq id _ m hm
  exact hfresh _ (SortedMap.get?_eq_some_iff.1 hq) _ (SortedMap.get?_eq_some_iff.1 hm)

/-- A benchmark of two messages on a queue with jobs, and one on a queue that has to be created. -/
theorem bench_outcome_fourJobs :
    Client.fourJobs.store.Reachable ∧ Client.fourJobs.store.offline = false ∧ 4 * 2 ≤ maxTimings ∧
      (Client.fourJobs.store.now.addSeconds? 10).isSome ∧
      (∀ name, Counts name 2 Client.fourJobs.store) ∧
      readWords none ["bench", "-n", "2", "--queue", "jobs"] =
        .ok ⟨none, benchRequest (some Store.jobs) 2⟩ ∧
      readWords none ["bench", "-n", "2"] = .ok ⟨none, benchRequest none 2⟩ ∧
      ∀ queue : Option QueueName, ∃ text w',
        perform (.ofLookup fun _ => none) (fun _ m => (.error .poolClosed, m)) ⟨Memory.store, 30⟩
          (benchRequest queue 2) Client.fourJobs = (.ok text, w') := by
  have hroom : 4 * 2 ≤ maxTimings := by decide
  have hrange : (Client.fourJobs.store.now.addSeconds? 10).isSome = true := by decide
  have hall := fun queue => bench_outcome (.ofLookup fun _ => none)
    (fun _ m => (.error .poolClosed, m)) 30 none queue Bench.fourJobs_reachable rfl hroom
  refine ⟨Bench.fourJobs_reachable, rfl, hroom, hrange, fun name => counts_fourJobs name 2,
    (hall (some Store.jobs)).1, (hall none).1, ?_⟩
  intro queue
  obtain ⟨-, timings, w', -, -, -, hrun⟩ :=
    (hall queue).2.works (by decide) hrange (counts_fourJobs _ 2)
  exact ⟨_, w', hrun⟩

/-- A benchmark of no messages fails for the options of its queue, although it would do nothing on a
queue that is there. -/
theorem bench_fails_empty :
    (benchOptions 10000 none 0).check = .error (.retentionInterval 0) ∧
      (∀ queue : Option QueueName,
        (perform (.ofLookup fun _ => none) (fun _ m => (.error .poolClosed, m)) ⟨Memory.store, 30⟩
          (benchRequest queue 0) Client.fourJobs).1 =
            .error (.of "Validation error: Retention interval must be positive: 0")) ∧
      (Bench.runBench ⟨Memory.store, 30⟩ "jobs" 0 10 Client.fourJobs).1 = .ok [] := by
  refine ⟨Bench.benchOptions_check_zero (by decide), ?_, rfl⟩
  intro queue
  rw [perform_benchRequest, calling, Session.run_bind, Session.run_mapError, ensureQueue_empty]
  rfl

end Command
end MessageQueue
