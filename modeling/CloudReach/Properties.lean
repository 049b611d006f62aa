import CloudReach.Endpoint
import CloudReach.Readiness.Policy

/-!
# Properties of a client

Where a client is pointed, how long its requests stay fresh, and the readiness policies that differ
from the usual ones. Variables of the environment may override endpoints and freshness. Nothing is
checked until the properties are validated.
-/

namespace CloudReach

structure ReadinessOverrides where
  running : Option PolicySettings
  terminated : Option PolicySettings
  socketOpen : Option PolicySettings
deriving DecidableEq

def ReadinessOverrides.empty : ReadinessOverrides :=
  { running := none, terminated := none, socketOpen := none }

structure Properties where
  computeEndpoint : String
  loadBalancerEndpoint : String
  expireSeconds : UInt64
  readiness : ReadinessOverrides
deriving DecidableEq

structure ValidProperties where
  computeEndpoint : Url
  loadBalancerEndpoint : Url
  expireInterval : Duration
  readiness : ReadinessPolicies

namespace Properties

def standard : Properties :=
  { computeEndpoint := "https://ec2.us-east-1.amazonaws.com"
    loadBalancerEndpoint := "https://elasticloadbalancing.us-east-1.amazonaws.com"
    expireSeconds := 15
    readiness := .empty }

def computeVariable : String := "CLOUDBIND_COMPUTE_ENDPOINT"

def loadBalancerVariable : String := "CLOUDBIND_LOAD_BALANCER_ENDPOINT"

def expireVariable : String := "CLOUDBIND_EXPIRE_INTERVAL_SECS"

def expireProperty : String := "expire_interval_secs"

/-- One more character of a number of 64 bits; the first that does not fit decides what is wrong. -/
def takeDigit (n : Nat) (c : Char) : Except String Nat :=
  match Text.digit? c with
  | none => .error "invalid digit found in string"
  | some d =>
    if 10 * n + d < UInt64.size then .ok (10 * n + d)
    else .error "number too large to fit in target type"

/-- A number of 64 bits in decimal digits, with or without a plus sign, or what is wrong with it. -/
def parseSeconds (s : List Char) : Except String UInt64 :=
  match s with
  | [] => .error "cannot parse integer from empty string"
  | ['+'] => .error "invalid digit found in string"
  | '+' :: ds => (ds.foldlM takeDigit 0).map UInt64.ofNat
  | ds => (ds.foldlM takeDigit 0).map UInt64.ofNat

def withOverrides (p : Properties) (lookup : String → Option String) :
    Except ConfigurationError Properties := do
  let p := { p with
    computeEndpoint := (lookup computeVariable).getD p.computeEndpoint
    loadBalancerEndpoint := (lookup loadBalancerVariable).getD p.loadBalancerEndpoint }
  match lookup expireVariable with
  | none => return p
  | some raw =>
    match parseSeconds (Text.trim raw.toList) with
    | .ok seconds => return { p with expireSeconds := seconds }
    | .error reason =>
      .error (.invalidProperty expireProperty s!"{Text.quote raw}: {reason}")

def resolve (settings : Option PolicySettings) (usual : ReadinessPolicy) :
    Except BootstrapError ReadinessPolicy :=
  match settings with
  | some s => (s.policy usual.name).mapError .policy
  | none => .ok usual

/-- Reads the endpoints and builds the policies; the first fault in this order is reported. -/
def validate (p : Properties) : Except BootstrapError ValidProperties := do
  let computeEndpoint ← (parseEndpoint p.computeEndpoint).mapError .configuration
  let loadBalancerEndpoint ← (parseEndpoint p.loadBalancerEndpoint).mapError .configuration
  if p.expireSeconds = 0 then
    .error (.configuration (.invalidProperty expireProperty "must be > 0"))
  else
    let running ← resolve p.readiness.running .running
    let terminated ← resolve p.readiness.terminated .terminated
    let socketOpen ← resolve p.readiness.socketOpen .socketOpen
    return {
      computeEndpoint
      loadBalancerEndpoint
      expireInterval := Duration.ofSeconds p.expireSeconds
      readiness := { running, terminated, socketOpen } }

end Properties

end CloudReach
