import CloudReach.Readiness.Policy
import CloudReach.World

/-!
# Polls

Evaluating a check until it holds or the attempts of a policy are used up. The first evaluation is
made at once; the interval is waited between evaluations and not after the last. A check that
fails ends the poll with its error; running out of attempts is an answer.
-/

namespace CloudReach

/-- Decides whether something has reached its state; the decision itself may fail. -/
abbrev Check (σ ε ι : Type) := ι → Act σ (Except ε Bool)

/-- The clock of a poll: what it shows, from the start, when an evaluation has been made. It goes by
the interval that is waited between evaluations and the number of the evaluation; how long the
evaluations take is left open. -/
structure Stopwatch where
  shows : Duration → Nat → Duration

namespace Stopwatch

def clock : Stopwatch where
  shows interval n := Duration.total (List.replicate (n - 1) interval)

def atOnce : Stopwatch where
  shows _ _ := .zero

end Stopwatch

namespace Poll

variable {σ ε ι : Type}

def resume (policy : ReadinessPolicy) (watch : Stopwatch) (check : Act σ (Except ε Bool)) :
    Nat → Nat → Act σ (Except ε Bool)
  | 0, attempt => do
    let elapsed := watch.shows policy.interval (attempt - 1)
    Act.emit (.exhausted policy.name policy.maxAttempts.toNat elapsed)
    return .ok false
  | left + 1, attempt => do
    Act.emit (.attempt policy.name attempt)
    Act.note .checked
    match ← check with
    | .ok true =>
      Act.emit (.ready policy.name attempt (watch.shows policy.interval attempt))
      return .ok true
    | .error e =>
      Act.emit (.checkFailed policy.name attempt)
      return .error e
    | .ok false =>
      if left = 0 then resume policy watch check left (attempt + 1)
      else do
        Act.sleep policy.interval
        resume policy watch check left (attempt + 1)

def awaitReady (policy : ReadinessPolicy) (watch : Stopwatch) (check : Check σ ε ι) (input : ι) :
    Act σ (Except ε Bool) :=
  resume policy watch (check input) policy.maxAttempts.toNat 1

end Poll

end CloudReach
