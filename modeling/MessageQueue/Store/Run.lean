import MessageQueue.Store.Memory

/-!
# Runs of a store in memory

A run is a sequence of moves: requests, steps of the clock, and switches of the way to the
store.  It gives the replies to its requests in their order.  A run ends without a result
when one of its moves leaves the range of instants.

Main results:

- Theorem `run_append`: a run may be cut anywhere.
- Theorem `Reachable.perform`: a run may go on with a request.
- Theorem `run_calls`: every request of a run counts once.
-/

namespace MessageQueue
namespace Store

/-- One thing that happens to a store. -/
inductive Move where
  | request (r : Request)
  | advance (nanoseconds : Int)
  | setOffline (offline : Bool)
deriving DecidableEq

/-- A request with the reply to it. -/
structure Exchange where
  request : Request
  reply : Except QueueError request.Reply

namespace Memory

/-- What a reply tells, unless the program stops. -/
def told? {α : Type} : Except Failure α → Option (Except QueueError α)
  | .ok a => some (.ok a)
  | .error (.reported e) => some (.error e)
  | .error .overflow => none

/-- One move: the exchange it leads to, if it is a request, and the store after it. -/
def move (m : Memory) : Move → Option (List Exchange × Memory)
  | .request r =>
    match perform r m with
    | (reply, m') => (told? reply).map fun reply => ([⟨r, reply⟩], m')
  | .advance nanoseconds => (m.advance nanoseconds).map fun m' => ([], m')
  | .setOffline offline => some ([], m.setOffline offline)

/-- The exchanges of some moves and the store after them. -/
def run (m : Memory) : List Move → Option (List Exchange × Memory)
  | [] => some ([], m)
  | a :: rest =>
    match m.move a with
    | none => none
    | some (first, m') => (m'.run rest).map fun (more, m'') => (first ++ more, m'')

/-- The stores that moves lead to from a store without queues. -/
def Reachable (m : Memory) : Prop :=
  ∃ now moves exchanges, (new now).run moves = some (exchanges, m)

/-- A run may be cut anywhere. -/
theorem run_append (m : Memory) (as bs : List Move) :
    m.run (as ++ bs) =
      (m.run as).bind fun (first, m') =>
        (m'.run bs).map fun (more, m'') => (first ++ more, m'') := by
  induction as generalizing m with
  | nil => simp [run]
  | cons a rest ih =>
    simp only [List.cons_append, run]
    cases m.move a with
    | none => rfl
    | some p =>
      obtain ⟨first, m'⟩ := p
      simp only [ih, Option.map_bind, Option.bind_map]
      cases m'.run rest with
      | none => rfl
      | some q => simp [Function.comp_def, List.append_assoc]

/-- One more request that is answered leads from a store that came about in a run to another one. -/
theorem Reachable.perform {m : Memory} (h : m.Reachable) (r : Request)
    (htold : (told? (Memory.perform r m).1).isSome) : (Memory.perform r m).2.Reachable := by
  obtain ⟨now, moves, exchanges, hrun⟩ := h
  obtain ⟨reply, hreply⟩ := Option.isSome_iff_exists.1 htold
  refine ⟨now, moves ++ [.request r], exchanges ++ [⟨r, reply⟩], ?_⟩
  rw [run_append, hrun]
  simp [run, move, hreply]

/-- A move counts a call exactly when it is a request. -/
theorem move_calls {m m' : Memory} {a : Move} {exchanges : List Exchange}
    (h : m.move a = some (exchanges, m')) : m'.calls = m.calls + exchanges.length := by
  cases a with
  | request r =>
    simp only [move, Option.map_eq_some_iff] at h
    obtain ⟨reply, -, h⟩ := h
    cases h
    exact calls_perform r m
  | advance nanoseconds =>
    simp only [move, advance, Option.map_map, Option.map_eq_some_iff] at h
    obtain ⟨now, -, h⟩ := h
    cases h
    rfl
  | setOffline offline =>
    cases h
    rfl

/-- Every request of a run counts once. -/
theorem run_calls {m m' : Memory} {moves : List Move} {exchanges : List Exchange}
    (h : m.run moves = some (exchanges, m')) : m'.calls = m.calls + exchanges.length := by
  induction moves generalizing m exchanges with
  | nil =>
    cases h
    rfl
  | cons a rest ih =>
    simp only [run] at h
    split at h
    · cases h
    · rename_i first mid hmove
      obtain ⟨⟨more, last⟩, hrun, heq⟩ := Option.map_eq_some_iff.1 h
      cases heq
      rw [ih hrun, move_calls hmove, List.length_append, Nat.add_assoc]

end Memory
end Store
end MessageQueue
