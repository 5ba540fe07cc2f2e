import MessageQueue.Database.Setup
import MessageQueue.Proofs.Database.Exchanges
import MessageQueue.Proofs.Retry.Attempts

/-!
# Installing the extension

The installation is one statement that is tried again.  What the server answers to an attempt is
first taken to an error of the queue, and that error decides about another attempt.  The two
steps together come to a rule on the faults of the server itself: an attempt is followed by
another one exactly when its fault lies on the way to the server and attempts are left.

Main results:

- Theorem `installOnce_recorded`: one attempt sends one statement.
- Theorem `runFrom_install`: from some transport faults on, the installation goes on to the attempt
  that ends it.
- Theorem `install_retries_transport`: the installation ends with the first attempt that succeeds,
  fails for another reason than transport, or is the last one allowed.
-/

namespace MessageQueue
namespace Database

open Retry (Policy Failures runFrom runFrom_last runFrom_again retried)

/-! ## One attempt -/

/-- The server whose answers are given in advance, the actions counting from one. -/
def Server.givenBy (answers : Nat → Except DriverError Outcome) : Server Nat := fun _ calls =>
  (answers (calls + 1), calls + 1)

/-- The action of every attempt. -/
def installAction : Action := .run ⟨extensionSql, []⟩

/-- What an attempt comes to. -/
def installResult : Except DriverError Outcome → Except QueueError Unit
  | .ok _ => .ok ()
  | .error e => .error (e.toQueueError none)

/-- The exchanges of the first so many attempts. -/
def installExchanges (answers : Nat → Except DriverError Outcome) (n : Nat) : List Exchange :=
  (List.range n).map fun i => ⟨installAction, answers (i + 1)⟩

theorem installResult_eq_ok_iff {answer : Except DriverError Outcome} :
    installResult answer = .ok () ↔ ∃ outcome, answer = .ok outcome := by
  cases answer <;> simp [installResult]

/-- An attempt ends with a connection error exactly when its fault lies on the way to the
server. -/
theorem installResult_connection_iff {answer : Except DriverError Outcome} :
    (∃ reason, installResult answer = .error (.connection reason)) ↔
      ∃ e, answer = .error e ∧ e.isTransport = true := by
  cases answer with
  | ok outcome => simp [installResult]
  | error e =>
      simp only [installResult, Except.error.injEq, exists_eq_left', ← QueueError.isTransient_iff,
        DriverError.toQueueError_isTransient]

/-- One attempt sends one statement, and its result is read off the answer. -/
theorem installOnce_recorded {σ : Type} (server : Server σ) (w : World (σ × List Exchange)) :
    installOnce server.recorded w =
      (installResult (server installAction w.store.1).1,
        { w with store := ((server installAction w.store.1).2,
            w.store.2 ++ [⟨installAction, (server installAction w.store.1).1⟩]) }) := by
  unfold installAction
  rcases hanswer : server (.run ⟨extensionSql, []⟩) w.store.1 with ⟨_ | outcome, s⟩ <;>
    simp [installOnce, execute, fetch, perform, Server.recorded, hanswer, installResult,
      Except.bind]

section GivenBy

variable {answers : Nat → Except DriverError Outcome} {w : World (Nat × List Exchange)}

/-- After some attempts, the next one meets the next answer. -/
theorem installOnce_givenBy {n : Nat} (hw : w.store = (n, installExchanges answers n)) :
    installOnce (Server.givenBy answers).recorded w =
      (installResult (answers (n + 1)),
        { w with store := (n + 1, installExchanges answers (n + 1)) }) := by
  have hexchanges : installExchanges answers (n + 1) =
      installExchanges answers n ++ [⟨installAction, answers (n + 1)⟩] := by
    simp [installExchanges, List.range_succ]
  rw [installOnce_recorded, hw, hexchanges]
  rfl

/-! ## The attempts -/

/-- The world when an attempt ended the installation with a result: the attempts were made, and
nothing else was sent. -/
def EndedAt (answers : Nat → Except DriverError Outcome) (n : Nat)
    (run : Except QueueError Unit × World (Nat × List Exchange)) : Prop :=
  run.1 = installResult (answers n) ∧ run.2.store = (n, installExchanges answers n)

/-- An attempt that succeeds, fails for another reason than transport, or is the last one allowed
ends the installation. -/
theorem runFrom_install_of_endsAt {p : Policy} {name : String} {n left : Nat}
    (hw : w.store = (n, installExchanges answers n)) (hleft : n + 1 + left = max p.maxAttempts 1)
    (hends : p.EndsAt DriverError.isTransport answers (n + 1)) :
    EndedAt answers (n + 1)
      (runFrom p name QueueError.message QueueError.isTransient
        (installOnce (Server.givenBy answers).recorded) left (n + 1) w) := by
  rw [runFrom_last (installOnce_givenBy hw)]
  · exact ⟨rfl, rfl⟩
  · intro e he
    rcases hends.2 with hok | ⟨fault, hfault, hgood⟩ | hlast
    · rw [installResult_eq_ok_iff.2 hok] at he
      cases he
    · rw [hfault] at he
      cases he
      exact Or.inr (by rw [DriverError.toQueueError_isTransient, hgood])
    · exact Or.inl (by omega)

/-- From transport faults in a row on, the installation goes on to the attempt that ends it. -/
theorem runFrom_install (p : Policy) (name : String) {faults : List DriverError} {left : Nat}
    (hfaults : Failures DriverError.isTransport answers faults)
    (hw : w.store = (faults.length, installExchanges answers faults.length))
    (hleft : faults.length + 1 + left = max p.maxAttempts 1) :
    ∃ all, Failures DriverError.isTransport answers all ∧ all.length < max p.maxAttempts 1 ∧
      p.EndsAt DriverError.isTransport answers (all.length + 1) ∧
      EndedAt answers (all.length + 1)
        (runFrom p name QueueError.message QueueError.isTransient
          (installOnce (Server.givenBy answers).recorded) left (faults.length + 1) w) := by
  induction left generalizing faults w with
  | zero =>
      have hends : p.EndsAt DriverError.isTransport answers (faults.length + 1) :=
        ⟨by omega, Or.inr (Or.inr hleft)⟩
      exact ⟨faults, hfaults, by omega, hends, runFrom_install_of_endsAt hw hleft hends⟩
  | succ more ih =>
      by_cases hends : p.EndsAt DriverError.isTransport answers (faults.length + 1)
      · exact ⟨faults, hfaults, by omega, hends, runFrom_install_of_endsAt hw hleft hends⟩
      · obtain ⟨e, he, htransport, -⟩ := Policy.exists_error_of_not_endsAt (by omega) hends
        have hcall := installOnce_givenBy hw
        rw [he, installResult] at hcall
        have hworth : (e.toQueueError none).isTransient = true := by
          rw [DriverError.toQueueError_isTransient, htransport]
        have hlength : (faults ++ [e]).length = faults.length + 1 := by simp
        rw [runFrom_again hcall hworth, ← hlength]
        exact ih (hfaults.concat he htransport) (by rw [hlength]; rfl) (by omega)

end GivenBy

/-! ## The installation -/

/-- The events around the attempts touch neither their result nor the server. -/
theorem run_install {σ : Type} (server : Server σ) (p : Policy) (w : World σ) :
    ∃ w' : World σ, w'.store = w.store ∧
      (install server p w).1 = (p.runIf "create extension pgmq" QueueError.message
        QueueError.isTransient (installOnce server) w').1 ∧
      (install server p w).2.store = (p.runIf "create extension pgmq" QueueError.message
        QueueError.isTransient (installOnce server) w').2.store := by
  let w' : World σ :=
    { w with events := w.events.push (.info "Ensuring pgmq extension is installed..." []) }
  refine ⟨w', rfl, ?_⟩
  rcases hrun : p.runIf "create extension pgmq" QueueError.message QueueError.isTransient
    (installOnce server) w' with ⟨_ | _, _⟩ <;>
    simp [install, hrun, w']

/-- What an installation comes to whose last attempt is the `n`-th. -/
structure InstallCourse (answers : Nat → Except DriverError Outcome) (n : Nat)
    (run : Except QueueError Unit × World (Nat × List Exchange)) : Prop where
  /-- The statement is executed once for each attempt, and nothing else is sent. -/
  executed : run.2.store.2 = (List.range n).map fun i =>
    ⟨.run ⟨"CREATE EXTENSION IF NOT EXISTS pgmq CASCADE", []⟩, answers (i + 1)⟩
  /-- The result is that of the last attempt. -/
  result : run.1 = installResult (answers n)
  succeeds : run.1 = .ok () ↔ ∃ outcome, answers n = .ok outcome
  /-- A connection error means that the last fault lay on the way to the server. -/
  connection : (∃ reason, run.1 = .error (.connection reason)) ↔
    ∃ e, answers n = .error e ∧ e.isTransport = true
  /-- Only faults on the way to the server are followed by another attempt. -/
  followed : ∀ k, 1 ≤ k → k < n → ∃ e, answers k = .error e ∧ e.isTransport = true

/-- Transport faults in a row and the attempt after them make a course. -/
theorem EndedAt.course {answers : Nat → Except DriverError Outcome} {faults : List DriverError}
    {run : Except QueueError Unit × World (Nat × List Exchange)}
    (h : EndedAt answers (faults.length + 1) run)
    (hfaults : Failures DriverError.isTransport answers faults) :
    InstallCourse answers (faults.length + 1) run where
  executed := by
    rw [h.2]
    rfl
  result := h.1
  succeeds := by rw [h.1, installResult_eq_ok_iff]
  connection := by rw [h.1, installResult_connection_iff]
  followed := fun _ hfirst hk => hfaults.exists_error hfirst (Nat.le_of_lt_succ hk)

/-- The installation is executed up to the first attempt that succeeds, fails for another reason
than transport, or is the last one allowed, and ends with the result of that attempt; no fault of
another kind is ever transient. -/
theorem install_retries_transport (p : Policy) (answers : Nat → Except DriverError Outcome) :
    (∃ n, IsLeast {k | p.EndsAt DriverError.isTransport answers k} n ∧
      InstallCourse answers n
        (install (Server.givenBy answers).recorded p (.ofStore (0, [])))) ∧
      ∀ (queue : Option QueueName) (e : DriverError),
        (e.toQueueError queue).isTransient = e.isTransport := by
  refine ⟨?_, DriverError.toQueueError_isTransient⟩
  have hnone : Failures DriverError.isTransport answers [] := ⟨rfl, by simp⟩
  have hleft : ([] : List DriverError).length + 1 + (p.maxAttempts - 1) = max p.maxAttempts 1 := by
    rw [List.length_nil]
    omega
  obtain ⟨w, hw, hresult, hstore⟩ :=
    run_install (Server.givenBy answers).recorded p (.ofStore (0, []))
  obtain ⟨all, hall, hroom, hends, hended⟩ :=
    runFrom_install p "create extension pgmq" hnone hw hleft
  have hinstalled : EndedAt answers (all.length + 1)
      (install (Server.givenBy answers).recorded p (.ofStore (0, []))) :=
    ⟨hresult.trans hended.1, hstore.trans hended.2⟩
  exact ⟨all.length + 1, hall.isLeast hends hroom, hinstalled.course hall⟩

end Database
end MessageQueue
