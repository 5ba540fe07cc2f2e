import MessageQueue.Session
import MessageQueue.Text.Integer

/-!
# Retry policies

A policy bounds how often an operation is tried and tells how long to wait before each
further attempt.  The loop stops at the first success, at the first error that is not worth
another attempt, and at the last attempt.

Main results:

- Theorem `delay_fixed`: a fixed delay does not depend on the attempt.
-/

namespace MessageQueue
namespace Retry

open Time (Duration)

/-! ## Policies -/

/-- How the delay grows from attempt to attempt. -/
inductive Backoff where
  | fixed (delay : Duration)
  | exponential (base : Duration) (factor : Float) (most : Duration)
deriving DecidableEq

/-- A bound on the attempts and the delays between them. -/
structure Policy where
  maxAttempts : Nat
  backoff : Backoff
deriving DecidableEq

/-- Whether two floating point numbers compare as equal, which no-number does with none. -/
def Backoff.same : Backoff → Backoff → Bool
  | .fixed a, .fixed b => a == b
  | .exponential a f m, .exponential b g n => a == b && f == g && m == n
  | .fixed _, .exponential _ _ _ | .exponential _ _ _, .fixed _ => false

namespace Policy

/-- A policy of at least one attempt. -/
def new (maxAttempts : Nat) (backoff : Backoff) : Policy := ⟨max maxAttempts 1, backoff⟩

/-- The same delay after every attempt. -/
def fixed (maxAttempts : Nat) (delay : Duration) : Policy := new maxAttempts (.fixed delay)

/-- A delay that is multiplied after every attempt, up to a greatest one. -/
def exponential (maxAttempts : Nat) (base : Duration) (factor : Float) (most : Duration) :
    Policy :=
  new maxAttempts (.exponential base factor most)

/-- One attempt and no wait. -/
def single : Policy := fixed 1 .zero

/-- Attempts at the setup of a server, unless told otherwise. -/
def setupAttempts : Nat := 5

/-- The delay between attempts at the setup of a server, unless told otherwise. -/
def setupDelay : Duration := .ofSeconds 2

/-- The policy for a server that may still be starting. -/
def setup : Policy := fixed setupAttempts setupDelay

/-- Whether two policies compare as equal. -/
def same (p q : Policy) : Bool :=
  p.maxAttempts == q.maxAttempts && p.backoff.same q.backoff

end Policy

/-! ## Delays -/

/-- A power by repeated squaring, with the factors so far in `acc`. -/
def powerFrom (acc x : Float) (n : Nat) : Float :=
  let acc := if n % 2 = 1 then acc * x else acc
  if n / 2 = 0 then acc else powerFrom acc (x * x) (n / 2)
termination_by n

/-- A power of a floating point number, in the order of repeated squaring. -/
def power (x : Float) (n : Nat) : Float :=
  powerFrom 1.0 x n

/-- The greatest exponent of a delay. -/
def highestExponent : Nat := 2147483647

/-- The delay after a failed attempt; attempts count from one. -/
def Backoff.delay (attempt : Nat) : Backoff → Duration
  | .fixed delay => delay
  | .exponential base factor most =>
    let seconds := base.toSeconds * power factor (min (attempt - 1) highestExponent)
    if !seconds.isFinite || seconds ≥ most.toSeconds then most
    else .ofSecondsRounded seconds

/-- The delay after a failed attempt; attempts count from one. -/
def Policy.delay (p : Policy) (attempt : Nat) : Duration :=
  p.backoff.delay attempt

@[simp]
theorem delay_fixed (n attempt : Nat) (d : Duration) :
    (Policy.fixed n d).delay attempt = d := rfl

/-! ## The loop -/

/-- The milliseconds of a delay in the log, kept in 64 bits. -/
def loggedMilliseconds (d : Duration) : Int :=
  (d.wholeMilliseconds % Nat.pow 2 64 : Nat)

/-- What is logged before another attempt. -/
def retryingEvent (p : Policy) (name error : String) (attempt : Nat) : Event :=
  .warn "Attempt failed, retrying"
    [("op", .text name), ("attempt", .integer attempt), ("max_attempts", .integer p.maxAttempts),
      ("delay_ms", .integer (loggedMilliseconds (p.delay attempt))), ("error", .text error)]

/-- What is logged with the error that ends the attempts. -/
def givingUpEvent (name error : String) (attempt : Nat) : Event :=
  .warn "Giving up"
    [("op", .text name), ("attempt", .integer attempt), ("error", .text error)]

/-- What is logged with a success that was not the first attempt. -/
def recoveredEvent (name : String) (attempt : Nat) : Event :=
  .info "Operation succeeded after retry"
    [("op", .text name), ("attempt", .integer attempt)]

section Loop

variable {σ ε α : Type}

/-- Tries an operation from an attempt on, with so many attempts left after it. -/
def runFrom (p : Policy) (name : String) (describe : ε → String) (worthwhile : ε → Bool)
    (op : Session σ ε α) : Nat → Nat → Session σ ε α
  | left, attempt => do
    match ← Session.attempt op with
    | .ok value =>
      if 1 < attempt then Session.emit (recoveredEvent name attempt)
      return value
    | .error e =>
      match left with
      | 0 =>
        Session.emit (givingUpEvent name (describe e) attempt)
        throw e
      | more + 1 =>
        if worthwhile e then
          Session.emit (retryingEvent p name (describe e) attempt)
          Session.wait (p.delay attempt)
          runFrom p name describe worthwhile op more (attempt + 1)
        else
          Session.emit (givingUpEvent name (describe e) attempt)
          throw e

/-- Tries an operation until it succeeds, fails with an error that is not worth another
attempt, or runs out of attempts. -/
def Policy.runIf (p : Policy) (name : String) (describe : ε → String) (worthwhile : ε → Bool)
    (op : Session σ ε α) : Session σ ε α :=
  runFrom p name describe worthwhile op (p.maxAttempts - 1) 1

/-- Tries an operation until it succeeds or runs out of attempts. -/
def Policy.run (p : Policy) (name : String) (describe : ε → String)
    (op : Session σ ε α) : Session σ ε α :=
  p.runIf name describe (fun _ => true) op

end Loop

/-- An operation whose outcomes are given in advance; the state counts its calls. -/
def scripted {ε α : Type} (outcomes : Nat → Except ε α) : Session Nat ε α :=
  Session.onStore fun calls => (outcomes calls, calls + 1)

end Retry
end MessageQueue
