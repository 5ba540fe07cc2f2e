import MessageQueue.Proofs.Session
import MessageQueue.Store.Memory

/-!
# Stories of loops

What happens while a loop is at work are calls of the store and events.  A store that keeps notes
puts down each call with the count of events before it, so that the notes and the log of a run are
woven into one story in the order of time.  A session and the same session around the store with
notes tell a story together: they do the same, and leave the notes and the events of the story.

Main results:

- Theorem `weave_notesFrom`: a story is woven from its notes and its events.
- Theorems `Tells.bind_ok` and `Tells.bind_error`: sessions in a row tell their stories in a row.
- Theorem `Tells.storyOf_eq`: the story that a session tells is the one woven from its run.
-/

namespace MessageQueue
namespace Bench

open Store

/-! ## Stories -/

/-- A request with what came of it. -/
structure Call where
  request : Request
  reply : Except Failure request.Reply

/-- What happens while a loop is at work. -/
inductive Happening where
  | call (c : Call)
  | event (e : Event)

/-- A call with the count of events that were logged before it. -/
structure Note where
  call : Call
  logged : Nat

/-- The notes of a story that begins after so many events. -/
def notesFrom : (logged : Nat) → List Happening → List Note
  | _, [] => []
  | logged, .call c :: rest => ⟨c, logged⟩ :: notesFrom logged rest
  | logged, .event _ :: rest => notesFrom (logged + 1) rest

/-- The events of a story. -/
def eventsOf : List Happening → List Event
  | [] => []
  | .call _ :: rest => eventsOf rest
  | .event e :: rest => e :: eventsOf rest

/-- Weaves notes and events, after so many events: each event comes behind the calls that were
noted until then. -/
def weave : (logged : Nat) → List Note → List Event → List Happening
  | _, notes, [] => notes.map fun n => .call n.call
  | logged, notes, e :: rest =>
    (notes.takeWhile fun n => n.logged ≤ logged).map (fun n => .call n.call) ++
      .event e :: weave (logged + 1) (notes.dropWhile fun n => n.logged ≤ logged) rest

theorem notesFrom_append (logged : Nat) (before after : List Happening) :
    notesFrom logged (before ++ after) =
      notesFrom logged before ++ notesFrom (logged + (eventsOf before).length) after := by
  induction before generalizing logged with
  | nil => rfl
  | cons h rest ih =>
      cases h with
      | call c => simp [notesFrom, eventsOf, ih]
      | event e => simp [notesFrom, eventsOf, ih, Nat.add_assoc, Nat.add_comm 1]

theorem eventsOf_append (before after : List Happening) :
    eventsOf (before ++ after) = eventsOf before ++ eventsOf after := by
  induction before with
  | nil => rfl
  | cons h rest ih => cases h <;> simp [eventsOf, ih]

theorem le_of_mem_notesFrom {logged : Nat} {story : List Happening} {n : Note}
    (h : n ∈ notesFrom logged story) : logged ≤ n.logged := by
  induction story generalizing logged with
  | nil => exact absurd h List.not_mem_nil
  | cons happening rest ih =>
      cases happening with
      | call c =>
          rcases List.mem_cons.1 h with rfl | hrest
          · exact Nat.le_refl logged
          · exact ih hrest
      | event e => exact Nat.le_of_succ_le (ih h)

/-- A call that is noted now comes first. -/
theorem weave_cons_note (logged : Nat) (c : Call) (notes : List Note) (events : List Event) :
    weave logged (⟨c, logged⟩ :: notes) events = .call c :: weave logged notes events := by
  cases events <;> simp [weave]

/-- An event comes before the calls that are noted after it. -/
theorem weave_cons_event {logged : Nat} {notes : List Note} (e : Event) (events : List Event)
    (h : ∀ n ∈ notes, logged < n.logged) :
    weave logged notes (e :: events) = .event e :: weave (logged + 1) notes events := by
  cases notes with
  | nil => rfl
  | cons n rest =>
      have hn : ¬n.logged ≤ logged := Nat.not_le.2 (h n List.mem_cons_self)
      simp [weave, hn]

/-- A story is woven from its notes and its events. -/
theorem weave_notesFrom (logged : Nat) (story : List Happening) :
    weave logged (notesFrom logged story) (eventsOf story) = story := by
  induction story generalizing logged with
  | nil => rfl
  | cons happening rest ih =>
      cases happening with
      | call c => rw [notesFrom, eventsOf, weave_cons_note, ih]
      | event e =>
          rw [notesFrom, eventsOf, weave_cons_event e _ fun n hn => le_of_mem_notesFrom hn, ih]

/-! ## The store with notes -/

/-- The store in memory with a note of each call. -/
def recordedStore : Store (Memory × List Note) := fun r =>
  Session.noted (fun w => ⟨⟨r, (Memory.perform r w.store).1⟩, w.events.size⟩) (Memory.store r)

variable {ε ε' α β : Type}

/-- The story of a session around the store with notes, from its run. -/
def storyOf (recorded : Session (Memory × List Note) ε α) (w : World Memory) : List Happening :=
  match recorded (w.withNotes []) with
  | (_, w') => weave w.events.size w'.store.2 (w'.events.toList.drop w.events.size)

/-- A session and its twin around the store with notes tell a story: they do the same, and leave its
notes and its events. -/
structure Tells (plain : Session Memory ε α) (recorded : Session (Memory × List Note) ε α)
    (w : World Memory) (story : List Happening) : Prop where
  noted : ∀ past, recorded (w.withNotes past) =
    ((plain w).1, (plain w).2.withNotes (past ++ notesFrom w.events.size story))
  logged : (plain w).2.events = w.events ++ (eventsOf story).toArray

/-- A session and its twin do the same without calls and events. -/
def Silent (plain : Session Memory ε α) (recorded : Session (Memory × List Note) ε α) : Prop :=
  ∀ w, (plain w).2.events = w.events ∧
    ∀ past, recorded (w.withNotes past) = ((plain w).1, (plain w).2.withNotes past)

namespace Tells

variable {plain : Session Memory ε α} {recorded : Session (Memory × List Note) ε α}
  {next : α → Session Memory ε β} {nextRecorded : α → Session (Memory × List Note) ε β}
  {w w' : World Memory} {story more : List Happening}

/-- Nothing is told in silence. -/
theorem of_silent (h : Silent plain recorded) (w : World Memory) : Tells plain recorded w [] where
  noted past := by
    rw [notesFrom, List.append_nil]
    exact (h w).2 past
  logged := by
    rw [(h w).1]
    exact Array.append_empty.symm

theorem emit (e : Event) (w : World Memory) :
    Tells (Session.emit e : Session Memory ε Unit) (Session.emit e) w [.event e] where
  noted past := by
    rw [notesFrom, notesFrom, List.append_nil]
    rfl
  logged := Array.push_eq_append

theorem store (r : Request) (w : World Memory) :
    Tells (Memory.store r) (recordedStore r) w [.call ⟨r, (Memory.perform r w.store).1⟩] where
  noted _ := rfl
  logged := Array.append_empty.symm

theorem mapError (f : ε → ε') (h : Tells plain recorded w story) :
    Tells (plain.mapError f) (recorded.mapError f) w story where
  noted past := by rw [Session.run_mapError, h.noted, Session.run_mapError]
  logged := h.logged

/-- What is told by a session and the one behind it. -/
theorem bind_ok {a : α} (h : Tells plain recorded w story) (hrun : plain w = (.ok a, w'))
    (hnext : Tells (next a) (nextRecorded a) w' more) :
    Tells (plain >>= next) (recorded >>= nextRecorded) w (story ++ more) := by
  have hlogged : w'.events = w.events ++ (eventsOf story).toArray := by
    rw [← h.logged, hrun]
  have hsize : w'.events.size = w.events.size + (eventsOf story).length := by
    simp [hlogged]
  constructor
  · intro past
    have hrecorded := h.noted past
    rw [hrun] at hrecorded
    rw [Session.run_bind_of_ok _ hrecorded, Session.run_bind_of_ok _ hrun, hnext.noted, hsize,
      notesFrom_append, List.append_assoc]
  · rw [Session.run_bind_of_ok _ hrun, hnext.logged, hlogged, eventsOf_append]
    simp

/-- What is told by a session that fails is all that is told. -/
theorem bind_error {e : ε} (h : Tells plain recorded w story) (hrun : plain w = (.error e, w')) :
    Tells (plain >>= next) (recorded >>= nextRecorded) w story := by
  have hlogged := h.logged
  rw [hrun] at hlogged
  constructor
  · intro past
    have hrecorded := h.noted past
    rw [hrun] at hrecorded
    rw [Session.run_bind_of_error _ hrecorded, Session.run_bind_of_error _ hrun]
  · rw [Session.run_bind_of_error _ hrun]
    exact hlogged

/-- The story that is told is the one woven from the run. -/
theorem storyOf_eq (h : Tells plain recorded w story) : storyOf recorded w = story := by
  have hevents : ((plain w).2.events.toList.drop w.events.size) = eventsOf story := by
    rw [h.logged, Array.toList_append, List.drop_left']
    exact Array.length_toList
  rw [storyOf, h.noted []]
  simp only [World.withNotes, List.nil_append, hevents, weave_notesFrom]

end Tells
end Bench
end MessageQueue
