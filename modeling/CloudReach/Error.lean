import CloudReach.Category
import CloudReach.Duration
import CloudReach.Region
import CloudReach.Text.Quoted

/-!
# Errors

Causes of failure, kept apart by what failed: a remote call, the configuration, the listing of
regions or zones, a readiness policy, a route. Each has one wording.
-/

namespace CloudReach

structure ErrorBody where
  code : Option String
  message : Option String
  requestId : Option String
  endpoint : Option String
deriving DecidableEq

structure ErrorResponse where
  category : Category
  status : Nat
  code : Option String
  message : Option String
  requestId : Option String
deriving DecidableEq

def ErrorResponse.text (r : ErrorResponse) : String :=
  s!"{r.category.text} {r.status}" ++ (r.code.map (" " ++ ·)).getD "" ++
    (r.message.map (": " ++ ·)).getD "" ++
    (r.requestId.map fun id => s!" (request {id})").getD ""

inductive RouteError
  | unknownRoute (name : String)
  | missingParameter (route param : String)
  | malformedTemplate (route template : String)
  | invalidRequest (route reason : String)
deriving DecidableEq

def RouteError.message : RouteError → String
  | unknownRoute name => s!"no route named {name}"
  | missingParameter route param => s!"route {route} needs parameter {param}"
  | malformedTemplate route template =>
    s!"route {route} has a malformed template {Text.quote template}"
  | invalidRequest route reason => s!"cannot build request for {route}: {reason}"

inductive ProviderError
  | unauthorized (response : ErrorResponse)
  | notFound (response : ErrorResponse)
  | response (response : ErrorResponse)
  | transport (reason : String)
  | unreadable (reason : String)
  | signing (reason : String)
  | route (error : RouteError)
deriving DecidableEq

namespace ProviderError

def message : ProviderError → String
  | unauthorized r => s!"not authorized: {r.text}"
  | notFound r => s!"resource not found: {r.text}"
  | response r => s!"provider error: {r.text}"
  | transport reason => s!"transport failure: {reason}"
  | unreadable reason => s!"unreadable response: {reason}"
  | signing reason => s!"request signing failed: {reason}"
  | route e => e.message

end ProviderError

inductive IdentifierKind
  | region
  | zone
deriving DecidableEq

def IdentifierKind.text : IdentifierKind → String
  | region => "region"
  | zone => "availability zone"

inductive ConfigurationError
  | endpointNotConfigured (family : ServiceFamily) (endpoint known : String)
  | unknownRegion (family : ServiceFamily) (region : Region)
  | duplicateEndpoint (family : ServiceFamily) (endpoint : String) (first second : Region)
  | invalidEndpoint (value reason : String)
  | invalidProperty (name reason : String)
  | emptyIdentifier (kind : IdentifierKind)
deriving DecidableEq

def ConfigurationError.message : ConfigurationError → String
  | endpointNotConfigured family endpoint known =>
    s!"{family.text} endpoint {endpoint} is not in the region table (known: {known})"
  | unknownRegion family region => s!"region {region.id} has no {family.text} endpoint"
  | duplicateEndpoint family endpoint first second =>
    s!"{family.text} endpoint {endpoint} is claimed by both {first.id} and {second.id}"
  | invalidEndpoint value reason => s!"invalid endpoint {Text.quote value}: {reason}"
  | invalidProperty name reason => s!"invalid property {name}: {reason}"
  | emptyIdentifier kind => s!"empty {kind.text} identifier"

structure RegionLoadError where
  source : ProviderError
deriving DecidableEq

def RegionLoadError.message (e : RegionLoadError) : String :=
  s!"describe regions failed: {e.source.message}"

inductive ZoneLookupError
  | regions (error : RegionLoadError)
  | configuration (error : ConfigurationError)
  | describeZones (region : Region) (source : ProviderError)
deriving DecidableEq

def ZoneLookupError.message : ZoneLookupError → String
  | regions e => e.message
  | configuration e => e.message
  | describeZones region source =>
    s!"describe availability zones in {region.id} failed: {source.message}"

inductive PolicyError
  | invalidMaxAttempts (attempts : Nat)
  | zeroInterval
  | budgetShorterThanInterval (budget interval : Duration)
deriving DecidableEq

def PolicyError.message : PolicyError → String
  | invalidMaxAttempts attempts => s!"max_attempts must be > 0 (got {attempts})"
  | zeroInterval => "interval must be > 0 when deriving attempts from a budget"
  | budgetShorterThanInterval budget interval =>
    s!"budget {budget.text} is shorter than interval {interval.text}"

inductive BootstrapError
  | configuration (error : ConfigurationError)
  | regions (error : RegionLoadError)
  | zones (error : ZoneLookupError)
  | policy (error : PolicyError)
deriving DecidableEq

def BootstrapError.message : BootstrapError → String
  | configuration e => e.message
  | regions e => e.message
  | zones e => e.message
  | policy e => e.message

end CloudReach
