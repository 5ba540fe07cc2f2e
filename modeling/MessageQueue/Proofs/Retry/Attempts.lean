import MessageQueue.Proofs.Session
import MessageQueue.Retry
import Mathlib.Algebra.Order.Ring.Nat
import Mathlib.Order.Bounds.Basic

/-!
# Attempts of a retried operation

A retried operation is called until an attempt ends it: one that succeeds, one that fails with
an error not worth another attempt, or the last one that the policy allows.  Between two calls
the loop logs the failure and waits once; the outcome of the last call is the outcome of all.

The loop counts the attempts that are left.  Counting those that were made instead, in 32 bits
and compared with the bound before each further attempt, comes to the same.

Main results:

- Theorems `runFrom_last` and `runFrom_again`: what one attempt of the loop does.
- Theorem `countedFrom_eq`: a count of attempts in 32 bits never overflows.
- Theorem `runFrom_givenBy`: from some failures on, the loop goes on to the attempt that ends
  it.
- Theorem `runIf_takes_course`: a retried operation is called up to the attempt that ends it.
-/

namespace MessageQueue
namespace Retry

open Time (Duration)

variable {σ ε α : Type}

/-! ## One attempt -/

/-- The world after the failure of an attempt that another one follows. -/
def retried (p : Policy) (name error : String) (attempt : Nat) (w : World σ) : World σ where
  store := w.store
  events := w.events.push (retryingEvent p name error attempt)
  waits := w.waits.push (p.delay attempt)
  elapsed := w.elapsed + World.waitMilliseconds (p.delay attempt)

/-- What is logged with the outcome of the last attempt. -/
def closingEvents (name : String) (describe : ε → String) (attempt : Nat) :
    Except ε α → List Event
  | .ok _ => if 1 < attempt then [recoveredEvent name attempt] else []
  | .error e => [givingUpEvent name (describe e) attempt]

/-- The world after the last attempt. -/
def concluded (name : String) (describe : ε → String) (attempt : Nat) (r : Except ε α)
    (w : World σ) : World σ :=
  { w with events := w.events ++ closingEvents name describe attempt r }

section Loop

variable {p : Policy} {name : String} {describe : ε → String} {worthwhile : ε → Bool}
  {op : Session σ ε α} {left attempt : Nat} {w w' : World σ}

/-- An attempt that succeeds, that fails for good or that is the last one allowed ends the loop
with its outcome. -/
theorem runFrom_last {r : Except ε α} (hop : op w = (r, w'))
    (hlast : ∀ e, r = .error e → left = 0 ∨ worthwhile e = false) :
    runFrom p name describe worthwhile op left attempt w =
      (r, concluded name describe attempt r w') := by
  cases r with
  | ok value =>
      rw [runFrom]
      by_cases hlater : 1 < attempt <;> simp [hop, concluded, closingEvents, hlater]
  | error e =>
      have hend := hlast e rfl
      cases left with
      | zero =>
          rw [runFrom]
          simp [hop, concluded, closingEvents]
      | succ more =>
          have hgood : worthwhile e = false := by simpa using hend
          rw [runFrom]
          simp [hop, hgood, concluded, closingEvents]

/-- A failed attempt that is worth another one is logged, waited after, and followed by that
other one. -/
theorem runFrom_again {e : ε} (hop : op w = (.error e, w')) (hworth : worthwhile e = true) :
    runFrom p name describe worthwhile op (left + 1) attempt w =
      runFrom p name describe worthwhile op left (attempt + 1)
        (retried p name (describe e) attempt w') := by
  rw [runFrom]
  simp [hop, hworth, retried]

end Loop

/-! ## A count in 32 bits -/

/-- Why a loop with a count of its own ends without a value: with an error of the operation, because
the count would overflow, or because its rounds are used up. -/
inductive Halt (ε : Type) where
  | failed (e : ε)
  | countOverflow
  | unfinished

/-- Tries an operation with a count of the attempts in 32 bits, for so many rounds at most. -/
def countedFrom (p : Policy) (name : String) (describe : ε → String) (worthwhile : ε → Bool)
    (op : Session σ ε α) : (rounds : Nat) → (attempt : UInt32) → Session σ (Halt ε) α
  | 0, _ => throw .unfinished
  | rounds + 1, attempt => do
    match ← Session.attempt op with
    | .ok value =>
      if 1 < attempt then Session.emit (recoveredEvent name attempt.toNat)
      return value
    | .error e =>
      if attempt.toNat < p.maxAttempts ∧ worthwhile e = true then
        Session.emit (retryingEvent p name (describe e) attempt.toNat)
        Session.wait (p.delay attempt.toNat)
        if attempt.toNat + 1 < UInt32.size then
          countedFrom p name describe worthwhile op rounds (attempt + 1)
        else throw .countOverflow
      else
        Session.emit (givingUpEvent name (describe e) attempt.toNat)
        throw (.failed e)

section Count

variable {p : Policy} {name : String} {describe : ε → String} {worthwhile : ε → Bool}
  {op : Session σ ε α} {rounds : Nat} {attempt : UInt32} {w w' : World σ}

/-- The last attempt ends the counting loop with its outcome. -/
theorem countedFrom_last {r : Except ε α} (hop : op w = (r, w'))
    (hlast : ∀ e, r = .error e → p.maxAttempts ≤ attempt.toNat ∨ worthwhile e = false) :
    countedFrom p name describe worthwhile op (rounds + 1) attempt w =
      (r.mapError .failed, concluded name describe attempt.toNat r w') := by
  cases r with
  | ok value =>
      have hcount : 1 < attempt ↔ 1 < attempt.toNat := by simp [UInt32.lt_iff_toNat_lt]
      rw [countedFrom]
      by_cases hlater : 1 < attempt.toNat <;>
        simp [hop, hcount, hlater, concluded, closingEvents]
  | error e =>
      have hstop : ¬ (attempt.toNat < p.maxAttempts ∧ worthwhile e = true) := by
        rintro ⟨hmore, hworth⟩
        rcases hlast e rfl with hleast | hgood
        · omega
        · simp [hworth] at hgood
      rw [countedFrom]
      simp [hop, hstop, concluded, closingEvents]

/-- A failed attempt below the bound that is worth another one is followed by that other one. -/
theorem countedFrom_again {e : ε} (hop : op w = (.error e, w')) (hworth : worthwhile e = true)
    (hmore : attempt.toNat < p.maxAttempts) (hbound : p.maxAttempts < UInt32.size) :
    countedFrom p name describe worthwhile op (rounds + 1) attempt w =
      countedFrom p name describe worthwhile op rounds (attempt + 1)
        (retried p name (describe e) attempt.toNat w') := by
  have hfits : attempt.toNat + 1 < UInt32.size := by omega
  rw [countedFrom]
  simp [hop, hworth, hmore, hfits, retried]

end Count

/-- As long as the bound on the attempts has 32 bits, the count never overflows, no more rounds are
needed than attempts are left, and the loop does what it does without a count. -/
theorem countedFrom_eq {p : Policy} (hbound : p.maxAttempts < UInt32.size) (name : String)
    (describe : ε → String) (worthwhile : ε → Bool) (op : Session σ ε α) {left rounds : Nat}
    {attempt : UInt32} (hfirst : 1 ≤ attempt.toNat)
    (hleft : attempt.toNat + left = max p.maxAttempts 1) (hrounds : left < rounds) (w : World σ) :
    countedFrom p name describe worthwhile op rounds attempt w =
      Session.mapError .failed (runFrom p name describe worthwhile op left attempt.toNat) w := by
  induction left generalizing rounds attempt w with
  | zero =>
      rcases Nat.exists_eq_succ_of_ne_zero (Nat.ne_of_gt hrounds) with ⟨rounds, rfl⟩
      rcases hop : op w with ⟨r, w'⟩
      rw [Session.run_mapError, runFrom_last hop (fun _ _ => Or.inl rfl),
        countedFrom_last hop (fun _ _ => Or.inl (by omega))]
  | succ more ih =>
      rcases Nat.exists_eq_succ_of_ne_zero (Nat.ne_of_gt (Nat.zero_lt_of_lt hrounds)) with
        ⟨rounds, rfl⟩
      rcases hop : op w with ⟨r, w'⟩
      by_cases hagain : ∃ e, r = .error e ∧ worthwhile e = true
      · rcases hagain with ⟨e, rfl, hworth⟩
        have hmore : attempt.toNat < p.maxAttempts := by omega
        have hnext : (attempt + 1).toNat = attempt.toNat + 1 := by
          rw [UInt32.toNat_add, UInt32.toNat_one]
          have hsize : UInt32.size = 2 ^ 32 := rfl
          exact Nat.mod_eq_of_lt (by omega)
        rw [countedFrom_again hop hworth hmore hbound, ih (by omega) (by omega) (by omega), hnext,
          Session.run_mapError, Session.run_mapError, runFrom_again hop hworth]
      · have hlast : ∀ e, r = .error e → worthwhile e = false := by
          intro e he
          by_contra hworth
          exact hagain ⟨e, he, by simpa using hworth⟩
        rw [Session.run_mapError, runFrom_last hop (fun e he => Or.inr (hlast e he)),
          countedFrom_last hop (fun e he => Or.inr (hlast e he))]

/-! ## Outcomes given in advance -/

/-- The delays after the first so many attempts. -/
def Policy.delays (p : Policy) (count : Nat) : List Duration :=
  (List.range count).map fun i => p.delay (i + 1)

/-- An attempt that ends the loop: the attempts count from one, and this one succeeds, fails for
good, or is the last that the policy allows. -/
def Policy.EndsAt (p : Policy) (worthwhile : ε → Bool) (outcomes : Nat → Except ε α)
    (attempt : Nat) : Prop :=
  1 ≤ attempt ∧ ((∃ a, outcomes attempt = .ok a) ∨
    (∃ e, outcomes attempt = .error e ∧ worthwhile e = false) ∨ attempt = max p.maxAttempts 1)

/-- The events of failures that were each followed by another attempt. -/
def retryingEvents (p : Policy) (name : String) (describe : ε → String) (errors : List ε) :
    List Event :=
  errors.mapIdx fun i e => retryingEvent p name (describe e) (i + 1)

/-- The world in which the attempt after some failures is made. -/
def worldAfter (p : Policy) (name : String) (describe : ε → String) (errors : List ε) :
    World (Nat × List (List Duration)) where
  store := (errors.length, (List.range errors.length).map p.delays)
  events := (retryingEvents p name describe errors).toArray
  waits := (p.delays errors.length).toArray
  elapsed := ((p.delays errors.length).map World.waitMilliseconds).sum

/-- That world once the attempt was made. -/
def calledAfter (p : Policy) (name : String) (describe : ε → String) (errors : List ε) :
    World (Nat × List (List Duration)) :=
  { worldAfter p name describe errors with
    store := (errors.length + 1, (List.range (errors.length + 1)).map p.delays) }

theorem Policy.delays_succ (p : Policy) (count : Nat) :
    p.delays (count + 1) = p.delays count ++ [p.delay (count + 1)] := by
  rw [delays, List.range_succ, List.map_append]
  rfl

/-- The operation given by outcomes, the calls counting from one, which notes at each call what was
waited for before. -/
def givenBy (outcomes : Nat → Except ε α) : Session (Nat × List (List Duration)) ε α :=
  Session.noted (fun w => w.waits.toList) (scripted fun calls => outcomes (calls + 1))

section Outcomes

variable {p : Policy} {name : String} {describe : ε → String} {worthwhile : ε → Bool}
  {outcomes : Nat → Except ε α} {errors : List ε}

variable (p name describe outcomes errors) in
/-- The next call gives the next outcome. -/
theorem givenBy_worldAfter :
    givenBy outcomes (worldAfter p name describe errors) =
      (outcomes (errors.length + 1), calledAfter p name describe errors) := by
  have hcall : ∀ w : World (Nat × List (List Duration)),
      givenBy outcomes w = (outcomes (w.store.1 + 1),
        { w with store := (w.store.1 + 1, w.store.2 ++ [w.waits.toList]) }) := fun w => rfl
  simp [hcall, calledAfter, worldAfter, List.range_succ]

/-- One more failure leads on to the world after that one too. -/
theorem retried_worldAfter (e : ε) :
    retried p name (describe e) (errors.length + 1) (calledAfter p name describe errors) =
      worldAfter p name describe (errors ++ [e]) := by
  have hlength : (errors ++ [e]).length = errors.length + 1 := by simp
  have hevents : retryingEvents p name describe (errors ++ [e]) =
      retryingEvents p name describe errors ++
        [retryingEvent p name (describe e) (errors.length + 1)] := List.mapIdx_concat
  rw [worldAfter, hlength, hevents, p.delays_succ, List.map_append, List.sum_append]
  simp only [retried, calledAfter, worldAfter, List.push_toArray, List.map_singleton,
    List.sum_singleton]

/-- The errors of the attempts in a row from the first on, each worth another attempt. -/
structure Failures (worthwhile : ε → Bool) (outcomes : Nat → Except ε α) (errors : List ε) :
    Prop where
  failed : (List.range errors.length).map (fun i => outcomes (i + 1)) = errors.map .error
  worth : ∀ e ∈ errors, worthwhile e = true

/-- One more failure in a row. -/
theorem Failures.concat (h : Failures worthwhile outcomes errors) {e : ε}
    (hfailed : outcomes (errors.length + 1) = .error e) (hworth : worthwhile e = true) :
    Failures worthwhile outcomes (errors ++ [e]) := by
  constructor
  · rw [List.length_append, List.length_singleton, List.range_succ, List.map_append, h.failed,
      List.map_append, List.map_singleton, List.map_singleton, hfailed]
  · intro d hd
    rcases List.mem_append.1 hd with hbefore | hlast
    · exact h.worth d hbefore
    · rw [List.mem_singleton.1 hlast]
      exact hworth

/-- An attempt of failures in a row has failed and was worth another one. -/
theorem Failures.exists_error (h : Failures worthwhile outcomes errors) {k : Nat}
    (hfirst : 1 ≤ k) (hk : k ≤ errors.length) :
    ∃ e, outcomes k = .error e ∧ worthwhile e = true := by
  have hlt : k - 1 < errors.length := by omega
  have hget : outcomes (k - 1 + 1) = .error errors[k - 1] := by
    have := congrArg (fun l => l[k - 1]?) h.failed
    simpa [hlt] using this
  rw [Nat.sub_add_cancel hfirst] at hget
  exact ⟨errors[k - 1], hget, h.worth _ (List.getElem_mem hlt)⟩

/-- After failures in a row no attempt before the next one can have ended the loop. -/
theorem Failures.isLeast (h : Failures worthwhile outcomes errors)
    (hends : p.EndsAt worthwhile outcomes (errors.length + 1))
    (hroom : errors.length < max p.maxAttempts 1) :
    IsLeast {k | p.EndsAt worthwhile outcomes k} (errors.length + 1) := by
  refine ⟨hends, ?_⟩
  rintro k ⟨hfirst, hk⟩
  by_contra hlt
  have hearlier : k ≤ errors.length := by omega
  rcases h.exists_error hfirst hearlier with ⟨e, he, hworth⟩
  rcases hk with ⟨a, ha⟩ | ⟨d, hd, hgood⟩ | hlast
  · rw [he] at ha
    cases ha
  · rw [he] at hd
    cases hd
    rw [hworth] at hgood
    cases hgood
  · omega

/-- An attempt that does not end the loop fails, is worth another one and is not the last. -/
theorem Policy.exists_error_of_not_endsAt {attempt : Nat} (hfirst : 1 ≤ attempt)
    (h : ¬ p.EndsAt worthwhile outcomes attempt) :
    ∃ e, outcomes attempt = .error e ∧ worthwhile e = true ∧ attempt ≠ max p.maxAttempts 1 := by
  have hnone : ¬ ((∃ a, outcomes attempt = .ok a) ∨
      (∃ e, outcomes attempt = .error e ∧ worthwhile e = false) ∨
      attempt = max p.maxAttempts 1) := fun hends => h ⟨hfirst, hends⟩
  push Not at hnone
  rcases hnone with ⟨hfails, hworth, hmore⟩
  cases hout : outcomes attempt with
  | ok a => exact absurd hout (hfails a)
  | error e => exact ⟨e, rfl, by simpa using hworth e hout, hmore⟩

/-- An attempt that ends the loop ends it with its outcome. -/
theorem runFrom_of_endsAt {left : Nat} (hleft : errors.length + 1 + left = max p.maxAttempts 1)
    (hends : p.EndsAt worthwhile outcomes (errors.length + 1)) :
    runFrom p name describe worthwhile (givenBy outcomes) left (errors.length + 1)
        (worldAfter p name describe errors) =
      (outcomes (errors.length + 1),
        concluded name describe (errors.length + 1) (outcomes (errors.length + 1))
          (calledAfter p name describe errors)) := by
  refine runFrom_last (givenBy_worldAfter p name describe outcomes errors) ?_
  intro e he
  rcases hends.2 with ⟨a, ha⟩ | ⟨d, hd, hgood⟩ | hlast
  · rw [he] at ha
    cases ha
  · rw [he] at hd
    cases hd
    exact Or.inr hgood
  · exact Or.inl (by omega)

end Outcomes

/-- From failures in a row on, the loop goes on to the attempt that ends it. -/
theorem runFrom_givenBy (p : Policy) (name : String) (describe : ε → String)
    (worthwhile : ε → Bool) (outcomes : Nat → Except ε α) {errors : List ε} {left : Nat}
    (hfailures : Failures worthwhile outcomes errors)
    (hleft : errors.length + 1 + left = max p.maxAttempts 1) :
    ∃ all, Failures worthwhile outcomes all ∧ all.length < max p.maxAttempts 1 ∧
      p.EndsAt worthwhile outcomes (all.length + 1) ∧
      runFrom p name describe worthwhile (givenBy outcomes) left (errors.length + 1)
          (worldAfter p name describe errors) =
        (outcomes (all.length + 1),
          concluded name describe (all.length + 1) (outcomes (all.length + 1))
            (calledAfter p name describe all)) := by
  induction left generalizing errors with
  | zero =>
      have hends : p.EndsAt worthwhile outcomes (errors.length + 1) :=
        ⟨by omega, Or.inr (Or.inr hleft)⟩
      exact ⟨errors, hfailures, by omega, hends, runFrom_of_endsAt hleft hends⟩
  | succ more ih =>
      by_cases hends : p.EndsAt worthwhile outcomes (errors.length + 1)
      · exact ⟨errors, hfailures, by omega, hends, runFrom_of_endsAt hleft hends⟩
      · rcases Policy.exists_error_of_not_endsAt (by omega) hends with ⟨e, he, hworth, -⟩
        have hcall := givenBy_worldAfter p name describe outcomes errors
        rw [he] at hcall
        have hlength : (errors ++ [e]).length = errors.length + 1 := by simp
        rw [runFrom_again hcall hworth, retried_worldAfter, ← hlength]
        exact ih (hfailures.concat he hworth) (by omega)

/-! ## The course of the attempts -/

/-- What a retried operation comes to whose last attempt is the `n`-th. -/
structure Course (p : Policy) (name : String) (describe : ε → String)
    (outcomes : Nat → Except ε α) (n : Nat)
    (run : Except ε α × World (Nat × List (List Duration))) : Prop where
  /-- The result is the outcome of the last attempt. -/
  result : run.1 = outcomes n
  /-- There are as many calls as attempts. -/
  calls : run.2.store.1 = n
  /-- The waits are the delays after all attempts but the last. -/
  waits : run.2.waits.toList = p.delays (n - 1)
  /-- Before each call all the waits after the earlier ones were over, and no other was. -/
  between : run.2.store.2 = (List.range n).map p.delays
  /-- Every attempt but the last is logged as a failure that is tried again, numbered from one.
  After that a failure of the last attempt is logged as the one that ends the attempts, and its
  success when it was not the first attempt. -/
  events : ∃ (errors : List ε) (closing : List Event),
    (List.range (n - 1)).map (fun i => outcomes (i + 1)) = errors.map .error ∧
      run.2.events.toList =
        (errors.mapIdx fun i e =>
          ⟨.warn, "Attempt failed, retrying",
            [("op", .text name), ("attempt", .integer (i + 1 : Nat)),
              ("max_attempts", .integer p.maxAttempts),
              ("delay_ms", .integer ((p.delay (i + 1)).wholeMilliseconds % 2 ^ 64 : Nat)),
              ("error", .text (describe e))]⟩) ++ closing ∧
      (∀ e, outcomes n = .error e →
        closing = [⟨.warn, "Giving up",
          [("op", .text name), ("attempt", .integer n), ("error", .text (describe e))]⟩]) ∧
      (∀ a, outcomes n = .ok a → 1 < n →
        closing = [⟨.info, "Operation succeeded after retry",
          [("op", .text name), ("attempt", .integer n)]⟩]) ∧
      (∀ a, outcomes n = .ok a → n = 1 → closing = [])

/-- Failures in a row and the attempt after them make a course. -/
theorem Failures.course {worthwhile : ε → Bool} {outcomes : Nat → Except ε α} {errors : List ε}
    (h : Failures worthwhile outcomes errors) (p : Policy) (name : String)
    (describe : ε → String) :
    Course p name describe outcomes (errors.length + 1)
      (outcomes (errors.length + 1),
        concluded name describe (errors.length + 1) (outcomes (errors.length + 1))
          (calledAfter p name describe errors)) where
  result := rfl
  calls := rfl
  waits := rfl
  between := rfl
  events := by
    refine ⟨errors, closingEvents name describe (errors.length + 1) (outcomes (errors.length + 1)),
      h.failed, ?_, ?_, ?_, ?_⟩
    · simp [concluded, calledAfter, worldAfter, retryingEvents, retryingEvent, Event.warn,
        loggedMilliseconds]
    · intro e he
      rw [he]
      rfl
    · intro a ha hlater
      rw [ha, closingEvents, if_pos hlater]
      rfl
    · intro a ha hfirst
      rw [ha, closingEvents, if_neg (by omega)]

/-- A retried operation is called up to the first attempt that succeeds, fails for good or is the
last one allowed, and takes its course; a count of the attempts in 32 bits does not overflow. -/
theorem runIf_takes_course (attempts : UInt32) (backoff : Backoff) (name : String)
    (describe : ε → String) (worthwhile : ε → Bool) (outcomes : Nat → Except ε α) :
    ∃ n, IsLeast {k | (Policy.new attempts.toNat backoff).EndsAt worthwhile outcomes k} n ∧
      Course (Policy.new attempts.toNat backoff) name describe outcomes n
        ((Policy.new attempts.toNat backoff).runIf name describe worthwhile (givenBy outcomes)
          (.ofStore (0, []))) ∧
      ∀ spare, countedFrom (Policy.new attempts.toNat backoff) name describe worthwhile
            (givenBy outcomes) (max attempts.toNat 1 + spare) 1 (.ofStore (0, [])) =
          Session.mapError .failed ((Policy.new attempts.toNat backoff).runIf name describe
            worthwhile (givenBy outcomes)) (.ofStore (0, [])) := by
  have hbound : (Policy.new attempts.toNat backoff).maxAttempts = max attempts.toNat 1 := rfl
  have hnone : Failures worthwhile outcomes [] := ⟨rfl, by simp⟩
  have hleft : ([] : List ε).length + 1 + (max attempts.toNat 1 - 1) =
      max (Policy.new attempts.toNat backoff).maxAttempts 1 := by
    rw [hbound, List.length_nil]
    omega
  rcases runFrom_givenBy (Policy.new attempts.toNat backoff) name describe worthwhile outcomes
    hnone hleft with ⟨errors, hfailures, hroom, hends, hrun⟩
  refine ⟨errors.length + 1, hfailures.isLeast hends hroom, ?_, ?_⟩
  · have hstart : worldAfter (Policy.new attempts.toNat backoff) name describe [] =
        .ofStore (0, []) := rfl
    rw [hstart] at hrun
    rw [Policy.runIf, hbound]
    exact hrun ▸ hfailures.course _ name describe
  · intro spare
    have hsize : attempts.toNat < UInt32.size := attempts.toNat_lt_size
    have hone : 1 < UInt32.size := by decide
    have hfirst : 1 ≤ (1 : UInt32).toNat := by decide
    have hleft : (1 : UInt32).toNat + (max attempts.toNat 1 - 1) =
        max (Policy.new attempts.toNat backoff).maxAttempts 1 := by
      rw [hbound, UInt32.toNat_one]
      omega
    exact countedFrom_eq (by omega) name describe worthwhile _ hfirst hleft (by omega) _

end Retry
end MessageQueue
