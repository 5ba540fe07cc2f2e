import MessageQueue.Store.Run

/-!
# Histories of a store in memory

A history lists the calls of a run in their order: each request with the reply to it and the
instant of the clock at which it was made.  What a history says about one queue is cut
down to its present incarnation, the calls about the queue since it was last created.

Main results:

- Theorem `run_eq_history`: without the instants a history is a run.
- Theorem `history_induction`: what holds of an empty history and is kept by every move holds
  of all histories.
- Theorem `history_cut`: the calls before a call are a history, and the call is the next
  move after it.
-/

namespace MessageQueue
namespace Store

open Time (Instant)

/-- An exchange with the instant at which it took place. -/
structure Call extends Exchange where
  now : Instant

namespace Memory

/-- The calls of some moves and the store after them. -/
def history (m : Memory) : List Move → Option (List Call × Memory)
  | [] => some ([], m)
  | a :: rest =>
    match m.move a with
    | none => none
    | some (first, m') =>
      (m'.history rest).map fun (more, m'') =>
        (first.map (fun e => ⟨e, m.now⟩) ++ more, m'')

/-- Without the instants a history is a run. -/
theorem run_eq_history (m : Memory) (moves : List Move) :
    m.run moves =
      (m.history moves).map fun (calls, m') => (calls.map Call.toExchange, m') := by
  induction moves generalizing m with
  | nil => rfl
  | cons a rest ih =>
      simp only [run, history]
      cases m.move a with
      | none => rfl
      | some p =>
          rcases p with ⟨first, m'⟩
          simp only [ih, Option.map_map]
          congr 1
          funext q
          simp [Function.comp_def]

/-- A history of at least one move begins with that move. -/
theorem history_cons_eq_some_iff {m m'' : Memory} {a : Move} {rest : List Move}
    {calls : List Call} :
    m.history (a :: rest) = some (calls, m'') ↔
      ∃ first m' more, m.move a = some (first, m') ∧ m'.history rest = some (more, m'') ∧
        calls = first.map (fun e => ⟨e, m.now⟩) ++ more := by
  rw [history]
  cases m.move a with
  | none => simp
  | some p =>
      rcases p with ⟨first, m'⟩
      simp only [Option.map_eq_some_iff]
      constructor
      · rintro ⟨⟨more, last⟩, hrest, heq⟩
        cases heq
        exact ⟨first, m', more, rfl, hrest, rfl⟩
      · rintro ⟨_, _, more, heq, hrest, rfl⟩
        cases heq
        exact ⟨(more, m''), hrest, rfl⟩

/-- A move leads to the exchange of its request, or to none when it is no request. -/
theorem move_exchanges {m m' : Memory} {a : Move} {first : List Exchange}
    (h : m.move a = some (first, m')) :
    (first = [] ∧ m'.queues = m.queues) ∨ ∃ e : Exchange, a = .request e.request ∧ first = [e] := by
  cases a with
  | request r =>
      simp only [move, Option.map_eq_some_iff] at h
      rcases h with ⟨reply, -, h⟩
      cases h
      exact Or.inr ⟨⟨r, reply⟩, rfl, rfl⟩
  | advance nanoseconds =>
      simp only [move, advance, Option.map_map, Option.map_eq_some_iff] at h
      rcases h with ⟨now, -, h⟩
      cases h
      exact Or.inl ⟨rfl, rfl⟩
  | setOffline offline =>
      cases h
      exact Or.inl ⟨rfl, rfl⟩

/-- What holds of the empty history of a new store, is kept while the queues stay as they are,
and is kept by every call holds of all histories. -/
theorem history_induction {P : List Call → SortedMap String Queue → Prop} {start : Instant}
    (hnew : P [] .empty)
    (hcall : ∀ calls (m m' : Memory) (e : Exchange), P calls m.queues →
      m.move (.request e.request) = some ([e], m') → P (calls ++ [⟨e, m.now⟩]) m'.queues)
    {moves : List Move} {calls : List Call} {m : Memory}
    (h : (new start).history moves = some (calls, m)) : P calls m.queues := by
  -- the calls made before the remaining moves are carried along
  suffices hall : ∀ before (m₀ : Memory) calls, P before m₀.queues →
      m₀.history moves = some (calls, m) → P (before ++ calls) m.queues by
    exact hall [] (new start) calls hnew h
  clear h
  induction moves with
  | nil =>
      intro before m₀ calls hP h
      cases h
      simpa using hP
  | cons a rest ih =>
      intro before m₀ calls hP h
      rcases history_cons_eq_some_iff.1 h with ⟨first, m₁, more, hmove, hrest, rfl⟩
      rcases move_exchanges hmove with ⟨rfl, hqueues⟩ | ⟨e, rfl, rfl⟩
      · exact ih before m₁ more (hqueues ▸ hP) hrest
      · have hnext := ih _ m₁ more (hcall before m₀ m₁ e hP hmove) hrest
        simpa using hnext

/-- The calls before a call are a history, and the call is the next move after it. -/
theorem history_cut {m m' : Memory} {moves : List Move} {before after : List Call} {c : Call}
    (h : m.history moves = some (before ++ c :: after, m')) :
    ∃ earlier m₀ m₁, m.history earlier = some (before, m₀) ∧ c.now = m₀.now ∧
      m₀.move (.request c.request) = some ([c.toExchange], m₁) := by
  induction moves generalizing m before with
  | nil => simp [history] at h
  | cons a rest ih =>
      rcases history_cons_eq_some_iff.1 h with ⟨first, m₁, more, hmove, hrest, hcalls⟩
      rcases move_exchanges hmove with ⟨rfl, -⟩ | ⟨e, rfl, rfl⟩
      · simp only [List.map_nil, List.nil_append] at hcalls
        rw [← hcalls] at hrest
        rcases ih hrest with ⟨earlier, m₀, m₂, hearlier, hnow, hcall⟩
        refine ⟨a :: earlier, m₀, m₂, ?_, hnow, hcall⟩
        exact history_cons_eq_some_iff.2 ⟨[], m₁, before, hmove, hearlier, rfl⟩
      · cases before with
        | nil =>
            simp only [List.nil_append, List.map_cons, List.map_nil, List.cons_append,
              List.cons.injEq] at hcalls
            rcases hcalls with ⟨rfl, -⟩
            exact ⟨[], m, m₁, rfl, rfl, hmove⟩
        | cons b before =>
            simp only [List.cons_append, List.map_cons, List.map_nil, List.nil_append,
              List.cons.injEq] at hcalls
            rcases hcalls with ⟨rfl, hcalls⟩
            rw [← hcalls] at hrest
            rcases ih hrest with ⟨earlier, m₀, m₂, hearlier, hnow, hcall⟩
            refine ⟨.request e.request :: earlier, m₀, m₂, ?_, hnow, hcall⟩
            exact history_cons_eq_some_iff.2 ⟨[e], m₁, before, hmove, hearlier, rfl⟩

end Memory

/-! ## Incarnations -/

namespace Call

/-- Whether the call created the queue of a name. -/
def creates (name : String) : Call → Bool
  | ⟨⟨.create queue, .ok _⟩, _⟩ => queue.text == name
  | ⟨⟨.createPartitioned queue _ _, .ok _⟩, _⟩ => queue.text == name
  | _ => false

/-- Whether the call dropped the queue of a name. -/
def drops (name : String) : Call → Bool
  | ⟨⟨.drop queue, .ok true⟩, _⟩ => queue.text == name
  | _ => false

/-- A call that reports an error neither creates nor drops a queue. -/
theorem neither_of_error (name : String) (r : Request) (e : QueueError) (now : Instant) :
    creates name ⟨⟨r, .error e⟩, now⟩ = false ∧ drops name ⟨⟨r, .error e⟩, now⟩ = false := by
  cases r <;> exact ⟨rfl, rfl⟩

/-- Whether the call was about the queue of a name. -/
def isAbout (name : String) (c : Call) : Bool :=
  c.request.queue?.any fun queue => queue.text == name

end Call

/-- The incarnation of a queue after one more call. -/
def continued (name : String) (life : Option (List Call)) (c : Call) : Option (List Call) :=
  if c.creates name then some []
  else if c.drops name then none
  else if c.isAbout name then life.map fun calls => calls ++ [c]
  else life

/-- The calls about a queue since it was last created; `none` unless it was created and not
dropped since. -/
def incarnation (name : String) (calls : List Call) : Option (List Call) :=
  calls.foldl (continued name) none

theorem incarnation_concat (name : String) (calls : List Call) (c : Call) :
    incarnation name (calls ++ [c]) = continued name (incarnation name calls) c := by
  simp [incarnation]

/-! ## A sample run -/

/-- The queue of the sample run that is there at its end. -/
def jobs : QueueName := ⟨"jobs", by decide⟩

/-- Another queue of the sample run. -/
def mails : QueueName := ⟨"mails", by decide⟩

/-- A run in which a queue is dropped and created again, and its messages are read, hidden,
popped, deleted and archived, while the clock moves both ways and the store is out of reach
for a while. -/
def sampleMoves : List Move :=
  [.request (.create jobs), .request (.send jobs .null), .request (.create mails),
    .request (.drop jobs), .request (.createPartitioned jobs 10 100),
    .request (.send jobs (.bool true)), .request (.send jobs (.string "b")),
    .request (.send jobs .null), .request (.send jobs (.string "d")),
    .request (.read jobs 5 2), .advance 5000000000, .request (.read jobs 3 7),
    .request (.setVisibility jobs 1 60), .setOffline true, .request (.pop jobs),
    .setOffline false, .advance (-1000000000), .request (.delete jobs 2),
    .request (.delete jobs 2), .request (.archive jobs 3), .request .list,
    .request (.metrics jobs), .advance 10000000000, .request (.pop jobs)]

/-- The sample run goes through and leaves the queue in the store. -/
theorem exists_queue_sampleMoves :
    ∃ history m q, (Memory.new .epoch).history sampleMoves = some (history, m) ∧
      m.queues.get? jobs.text = some q := by
  have hsome : (((Memory.new .epoch).history sampleMoves).bind fun p =>
      p.2.queues.get? jobs.text).isSome = true := by decide
  rcases Option.isSome_iff_exists.1 hsome with ⟨q, hq⟩
  rcases Option.bind_eq_some_iff.1 hq with ⟨⟨history, m⟩, hrun, hq⟩
  exact ⟨history, m, q, hrun, hq⟩

end Store
end MessageQueue
