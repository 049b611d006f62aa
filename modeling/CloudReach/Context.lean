import CloudReach.Discovery.Query
import CloudReach.Discovery.Zones
import CloudReach.Properties
import CloudReach.Readiness.Poll
import CloudReach.ResponsePolicy
import CloudReach.Timestamp

/-!
# Contexts

All that one client shares: its validated properties, what it remembers of discovery, its endpoint
tables, and the response policy that every request goes through. Discovery by query operations runs
behind the same policy.
-/

namespace CloudReach

inductive DiscoverySource (σ : Type)
  | api (api : RegionApi σ)
  | transport (transport : Transport σ) (reader : BodyReader)

/-- What one client shares. The bound is the number of attempts that a call may make. -/
structure Context (σ : Type) where
  properties : ValidProperties
  api : RegionApi (σ × RegionMap)
  loadBalancers : EndpointTable
  policy : ResponsePolicy σ
  bound : Nat
  watch : Stopwatch
  now : Instant

abbrev Context.World (σ : Type) := (σ × RegionMap) × Memory

namespace Context

variable {σ τ ε ι : Type}

def start (s : σ) : World σ :=
  ((s, .empty), .blank)

def remote (policy : ResponsePolicy σ) (bound : Nat) (endpoint : Url) :
    DiscoverySource σ → RegionApi (σ × RegionMap)
  | .api api => { regions := api.regions.onFirst, zones := fun r => (api.zones r).onFirst }
  | .transport transport reader =>
    Discovery.queryApi (policy.layer bound transport.service) endpoint reader

/-- The context with these properties. They are validated first; then there must be a source. -/
def build (properties : Properties) (source : Option (DiscoverySource σ))
    (policy : ResponsePolicy σ) (bound : Nat) (loadBalancers : EndpointTable) (watch : Stopwatch)
    (now : Instant) : Except BootstrapError (Context σ) := do
  let properties ← properties.validate
  match source with
  | none =>
    .error (.configuration
      (.invalidProperty "region_api" "no region discovery api was injected"))
  | some source =>
    return {
      properties
      api := remote policy bound properties.computeEndpoint source
      loadBalancers
      policy
      bound
      watch
      now }

def regions (c : Context σ) : Act (World σ) (Except RegionLoadError RegionMap) :=
  Discovery.regions c.api

def zoneToRegion (c : Context σ) : Act (World σ) (Except ZoneLookupError ZoneMap) :=
  Discovery.zoneToRegion c.api

def computeEndpoints (c : Context σ) : Act (World σ) (Except BootstrapError EndpointTable) :=
  Discovery.computeEndpoints c.api

def currentRegion (c : Context σ) : Act (World σ) (Except BootstrapError Region) := do
  match ← c.computeEndpoints with
  | .error e => return .error e
  | .ok table =>
    return (table.regionFor c.properties.computeEndpoint).mapError .configuration

def currentLoadBalancerRegion (c : Context σ) : Except ConfigurationError Region :=
  c.loadBalancers.regionFor c.properties.loadBalancerEndpoint

def freshness (c : Context σ) : Freshness :=
  { now := c.now, interval := c.properties.expireInterval }

def around (c : Context σ) (inner : Service σ) : Service σ :=
  c.policy.layer c.bound inner

def awaitReady (c : Context σ) (policy : ReadinessPolicy) (check : Check τ ε ι) (input : ι) :
    Act τ (Except ε Bool) :=
  Poll.awaitReady policy c.watch check input

end Context

end CloudReach
