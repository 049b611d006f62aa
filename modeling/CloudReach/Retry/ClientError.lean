import CloudReach.Backoff
import CloudReach.Jitter
import CloudReach.Retry.Basic

/-!
# Sending refused requests again

A request that was throttled, or refused for a moment, is sent again after a delay that grows with
the failures of the command. Other refusals are given up and not counted.
-/

namespace CloudReach.ClientError

def retryableCodes : List String :=
  ["RequestTimeout", "OperationAborted", "Throttling", "RequestLimitExceeded"]

def isRetryable (reader : ErrorReader) (r : Response) : Bool :=
  if r.status = 429 then true
  else if r.status ∈ [400, 403, 409] then
    ((reader r.body).code.map retryableCodes.contains).getD false
  else false

structure Policy where
  limit : Nat
  backoff : Backoff
  jitter : Jitter

/-- The schedule unless told otherwise: five tries from fifty milliseconds, half of each delay left
to chance. -/
def Policy.standard : Policy :=
  { limit := defaultRetryLimit
    backoff := .exponential (Duration.ofMillis 50) none
    jitter := .equal }

def handler {σ : Type} (policy : Policy) (reader : ErrorReader) (draw : Draw σ) :
    RetryHandler σ := fun c r s =>
  if isRetryable reader r then
    let c := c.addFailure
    if policy.limit < c.failures then ((.giveUp, c), s)
    else
      let (delay, s) := policy.jitter.apply draw (policy.backoff.delay c.failures) s
      ((.retry delay, c), s)
  else ((.giveUp, c), s)

end CloudReach.ClientError
