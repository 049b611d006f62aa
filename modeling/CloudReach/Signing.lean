import CloudReach.Service
import CloudReach.Text.Quoted
import CloudReach.Timestamp

/-!
# Signing requests

Every request is stamped with the end of its freshness and handed to a signer before it goes on.
The clock is read for each of them. A signer may change the request in any way, or refuse it; then
nothing is sent.
-/

namespace CloudReach

variable {σ : Type}

abbrev Clock (σ : Type) := σ → Instant × σ

def Clock.fixed (t : Instant) : Clock σ := fun s => (t, s)

abbrev Signer (σ : Type) := Request → σ → Except ProviderError Request × σ

namespace Signing

def stamped (freshness : Freshness) (request : Request) : Request :=
  { request with headers := request.headers.set "expires" freshness.stamp }

/-- Stamps a request, unless the stamp is nothing that a header can hold. -/
def stamp (freshness : Freshness) (request : Request) : Except ProviderError Request :=
  if Headers.isValue freshness.stamp then .ok (stamped freshness request)
  else
    .error (.signing
      s!"bad timestamp {Text.quote freshness.stamp}: failed to parse header value")

def prepare (signer : Signer σ) (clock : Clock σ) (interval : Duration) (request : Request)
    (s : σ) : Except ProviderError Request × σ :=
  let (now, s) := clock s
  match stamp { now, interval } request with
  | .error e => (.error e, s)
  | .ok request => signer request s

def layer (signer : Signer σ) (clock : Clock σ) (interval : Duration) (inner : Service σ) :
    Service σ where
  ready := inner.ready
  call request := do
    match ← Act.step (prepare signer clock interval request) with
    | .error e => return .error e
    | .ok signed => inner.call signed

end Signing

end CloudReach
