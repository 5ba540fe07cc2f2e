import MessageQueue.Log
import MessageQueue.Time.Duration

/-!
# Sessions

A session is a course of work around a store: it calls the store, logs events and waits.
Waiting moves a clock of milliseconds that nothing else moves; a wait that is no whole
number of milliseconds ends at the next one, and no wait takes longer than thirty years.  A
session ends with a value or an error, and either way with the store, the events and the waits
as they then are.

Main results:

- Theorems `run_emit`, `run_wait` and `run_onStore`: what each step leaves behind.
- Theorem `run_attempt`: an attempted session never fails.
- Theorem `waitMilliseconds_of_le`: a wait of at most thirty years takes as long as it says.
-/

namespace MessageQueue

/-- A store with what was logged and waited for around it. -/
structure World (σ : Type) where
  store : σ
  events : Array Event
  waits : Array Time.Duration
  elapsed : Nat

namespace World

/-- A store before anything was logged or waited for. -/
def ofStore {σ : Type} (s : σ) : World σ := ⟨s, #[], #[], 0⟩

/-- The milliseconds that the longest wait takes: thirty years. -/
def longestWait : Nat := 30 * 365 * 86400000

/-- The milliseconds that a wait takes: the least count that covers it, up to the longest wait. -/
def waitMilliseconds (d : Time.Duration) : Nat := min d.ceilMilliseconds longestWait

/-- A wait of at most thirty years takes as long as it says. -/
theorem waitMilliseconds_of_le {d : Time.Duration} (h : d.ceilMilliseconds ≤ longestWait) :
    waitMilliseconds d = d.ceilMilliseconds :=
  Nat.min_eq_left h

end World

/-- Work around a store of type `σ` that ends with an `α` or an `ε`. -/
abbrev Session (σ ε : Type) : Type → Type :=
  ExceptT ε (StateM (World σ))

namespace Session

variable {σ ε ε' α : Type}

/-- Logs an event. -/
def emit (e : Event) : Session σ ε Unit :=
  ExceptT.mk fun ⟨store, events, waits, elapsed⟩ =>
    (.ok (), ⟨store, events.push e, waits, elapsed⟩)

/-- Waits for a span. -/
def wait (d : Time.Duration) : Session σ ε Unit :=
  ExceptT.mk fun ⟨store, events, waits, elapsed⟩ =>
    (.ok (), ⟨store, events, waits.push d, elapsed + World.waitMilliseconds d⟩)

/-- The milliseconds waited for so far. -/
def elapsed : Session σ ε Nat :=
  ExceptT.mk fun w => (.ok w.elapsed, w)

/-- A step of the store. -/
def onStore (f : σ → Except ε α × σ) : Session σ ε α :=
  ExceptT.mk fun ⟨store, events, waits, elapsed⟩ =>
    match f store with
    | (r, store) => (r, ⟨store, events, waits, elapsed⟩)

/-- The same work with its error as a value. -/
def attempt (s : Session σ ε α) : Session σ ε' (Except ε α) :=
  ExceptT.mk fun w =>
    match s w with
    | (r, w') => (.ok r, w')

/-- The same work with its error taken to another type. -/
def mapError (f : ε → ε') (s : Session σ ε α) : Session σ ε' α :=
  ExceptT.mk fun w =>
    match s w with
    | (r, w') => (r.mapError f, w')

/-- Work that is already done. -/
def ofExcept (r : Except ε α) : Session σ ε α :=
  ExceptT.mk fun w => (r, w)

@[simp]
theorem run_emit (e : Event) (w : World σ) :
    (emit e : Session σ ε Unit) w = (.ok (), { w with events := w.events.push e }) := rfl

@[simp]
theorem run_wait (d : Time.Duration) (w : World σ) :
    (wait d : Session σ ε Unit) w = (.ok (), { w with
      waits := w.waits.push d
      elapsed := w.elapsed + World.waitMilliseconds d }) := rfl

@[simp]
theorem run_onStore (f : σ → Except ε α × σ) (w : World σ) :
    onStore f w = ((f w.store).1, { w with store := (f w.store).2 }) := rfl

/-- An attempted session never fails. -/
@[simp]
theorem run_attempt (s : Session σ ε α) (w : World σ) :
    (attempt s : Session σ ε' _) w = (.ok (s w).1, (s w).2) := rfl

end Session
end MessageQueue
