import CloudReach.Error

/-!
# Readiness policies

How often, and how far apart, a resource is checked before it is given up. Every policy allows at
least one check. Settings are the form in which a policy is configured: whole milliseconds in 64
bits.
-/

namespace CloudReach

structure ReadinessPolicy where
  name : String
  maxAttempts : UInt64
  interval : Duration
  attempts_pos : 0 < maxAttempts.toNat
deriving DecidableEq

structure PolicySettings where
  maxAttempts : UInt64
  intervalMillis : UInt64
deriving DecidableEq

namespace ReadinessPolicy

def defaultAttempts : UInt64 := 3

def defaultInterval : Duration := Duration.ofSeconds 1

def build (name : String) (maxAttempts : UInt64) (interval : Duration) :
    Except PolicyError ReadinessPolicy :=
  if h : 0 < maxAttempts.toNat then .ok { name, maxAttempts, interval, attempts_pos := h }
  else .error (.invalidMaxAttempts maxAttempts.toNat)

/-- The policy whose attempts fill a budget: the budget over the interval, rounded up and cut to
64 bits. -/
def ofBudget (name : String) (budget interval : Duration) : Except PolicyError ReadinessPolicy :=
  if interval.isZero then .error .zeroInterval
  else if budget.nanos < interval.nanos then .error (.budgetShorterThanInterval budget interval)
  else
    let attempts := (budget.nanos + interval.nanos - 1) / interval.nanos
    build name (UInt64.ofNat (min attempts (UInt64.size - 1))) interval

def running : ReadinessPolicy :=
  { name := "running", maxAttempts := 3, interval := Duration.ofSeconds 600
    attempts_pos := by decide }

def terminated : ReadinessPolicy :=
  { name := "terminated", maxAttempts := 40, interval := Duration.ofMillis 500
    attempts_pos := by decide }

def socketOpen : ReadinessPolicy :=
  { name := "socket_open", maxAttempts := 130, interval := Duration.ofSeconds 1
    attempts_pos := by decide }

/-- The longest time that a poll may wait. At most `2 ^ 32 - 1` intervals are counted, and the
product is cut to the longest duration. -/
def budget (p : ReadinessPolicy) : Duration :=
  (p.interval.mul? (min (p.maxAttempts.toNat - 1) (UInt32.size - 1))).getD Duration.max

def settings (p : ReadinessPolicy) : PolicySettings :=
  { maxAttempts := p.maxAttempts
    intervalMillis := UInt64.ofNat (min p.interval.millis (UInt64.size - 1)) }

end ReadinessPolicy

def PolicySettings.policy (s : PolicySettings) (name : String) :
    Except PolicyError ReadinessPolicy :=
  ReadinessPolicy.build name s.maxAttempts (Duration.ofMillis s.intervalMillis)

structure ReadinessPolicies where
  running : ReadinessPolicy
  terminated : ReadinessPolicy
  socketOpen : ReadinessPolicy
deriving DecidableEq

end CloudReach
