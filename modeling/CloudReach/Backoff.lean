import CloudReach.Duration

/-!
# Backoff schedules

How long to wait before a request is sent again, by the number of failures so far. A constant
schedule always waits the same; an exponential one starts at its base and doubles, up to its cap
and never beyond an hour.
-/

namespace CloudReach

inductive Backoff
  | constant (delay : Duration)
  | exponential (base : Duration) (cap : Option Duration)
deriving DecidableEq

inductive BackoffError
  | constantDoesNotSupportMax
  | maxMustBePositive
  | maxLessThanBase (base max : Duration)
deriving DecidableEq

def BackoffError.message : BackoffError → String
  | constantDoesNotSupportMax => "with_max is only valid for exponential backoff"
  | maxMustBePositive => "max must be greater than zero"
  | maxLessThanBase base max => s!"max ({max.text}) must be >= base ({base.text})"

namespace Backoff

def longest : Duration := ⟨3600 * Duration.second, by decide⟩

/-- Caps an exponential schedule; the last cap counts. -/
def withMax (b : Backoff) (max : Duration) : Except BackoffError Backoff :=
  if max.isZero then .error .maxMustBePositive
  else
    match b with
    | constant _ => .error .constantDoesNotSupportMax
    | exponential base _ =>
      if max.nanos < base.nanos then .error (.maxLessThanBase base max)
      else .ok (exponential base (some max))

def widest : Nat := UInt64.size * UInt64.size - 1

/-- The factor by which the base has grown after a number of failures: a power of two, cut to 128
bits. The doublings are counted in 32 bits. -/
def growth (failures : Nat) : Nat :=
  let doublings := min (failures - 1) (UInt32.size - 1)
  if doublings < 128 then Nat.pow 2 doublings else widest

/-- The nanoseconds to which the base has grown after a number of failures: a product cut to 128
bits, and then to an hour. -/
def grown (base : Duration) (failures : Nat) : Nat :=
  min (min (base.nanos * growth failures) widest) longest.nanos

/-- The wait after a number of failures; there is none before the first. -/
def delay (b : Backoff) (failures : Nat) : Duration :=
  if failures = 0 then Duration.zero
  else
    match b with
    | constant d => d
    | exponential base cap =>
      let grown := Duration.ofNanos (.ofNat (grown base failures))
      let capped :=
        match cap with
        | some m => min grown m
        | none => grown
      min capped longest

end Backoff

end CloudReach
