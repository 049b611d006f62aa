import CloudReach.Error
import CloudReach.Url.Edit

/-!
# Endpoint tables

For each family of services, which endpoint belongs to which region. No two regions share an
endpoint, so a table answers both ways, and it keeps a map for each way. Endpoints are compared
without query and fragment, and with a root in the place of an empty path. An endpoint that is not
in the table is an error and never someone's default.
-/

namespace CloudReach

/-- The form in which endpoints are kept and compared. -/
def Url.normalized (u : Url) : Url :=
  u.withoutQuery.withRoot

/-- The endpoint that a text is; it must have a host. -/
def parseEndpoint (value : String) : Except ConfigurationError Url :=
  match Url.parse value with
  | .error e => .error (.invalidEndpoint value e.message)
  | .ok u =>
    if u.host?.isSome then .ok u.normalized
    else .error (.invalidEndpoint value "endpoint has no host")

structure EndpointTable where
  family : ServiceFamily
  byRegion : RegionMap
  byEndpoint : Assoc Url Region

namespace EndpointTable

def empty (family : ServiceFamily) : EndpointTable :=
  { family, byRegion := .empty, byEndpoint := .empty }

def ordered (a b : Region) : Region × Region :=
  if a.id ≤ b.id then (a, b) else (b, a)

/-- Adds a row. A blank region is refused, and so is an endpoint that has an owner. -/
def add (t : EndpointTable) (region : Region) (endpoint : Url) :
    Except ConfigurationError EndpointTable :=
  if region.isBlank then .error (.emptyIdentifier .region)
  else
    let endpoint := endpoint.normalized
    match t.byEndpoint.get? endpoint with
    | some other =>
      let (first, second) := ordered other region
      .error (.duplicateEndpoint t.family endpoint.text first second)
    | none =>
      .ok { t with
        byEndpoint := t.byEndpoint.insert endpoint region
        byRegion := t.byRegion.insert region endpoint }

def addAll (t : EndpointTable) (rows : List (Region × Url)) :
    Except ConfigurationError EndpointTable :=
  rows.foldlM (fun t row => t.add row.1 row.2) t

def ofMap (family : ServiceFamily) (map : RegionMap) : Except ConfigurationError EndpointTable :=
  (empty family).addAll map.entries

/-- The table of pairs of texts. Every endpoint is read before any row is added; of two pairs with
one region the later counts. -/
def ofPairs (family : ServiceFamily) (pairs : List (String × String)) :
    Except ConfigurationError EndpointTable := do
  let rows ← pairs.mapM fun p => do
    let endpoint ← parseEndpoint p.2
    return (Region.mk p.1, endpoint)
  ofMap family (.ofList rows)

def loadBalancerEndpoint? (region : String) : Option Url :=
  (Url.parse s!"https://elasticloadbalancing.{region}.amazonaws.com").toOption.map Url.normalized

/-- The load balancers of the regions known from the start. The map of endpoints is the other one
turned round, and nothing looks for endpoints with two regions. -/
def loadBalancerDefaults : EndpointTable :=
  let byRegion : RegionMap := .ofList <| Region.known.filterMap fun region =>
    (loadBalancerEndpoint? region).map fun endpoint => (Region.mk region, endpoint)
  { family := .loadBalancer, byRegion, byEndpoint := byRegion.swapped }

def knownRegions (t : EndpointTable) : List String :=
  (t.byRegion.keys.map Region.id).mergeSort (· ≤ ·)

def endpointFor (t : EndpointTable) (region : Region) : Except ConfigurationError Url :=
  match t.byRegion.get? region with
  | some endpoint => .ok endpoint
  | none => .error (.unknownRegion t.family region)

def regionFor (t : EndpointTable) (endpoint : Url) : Except ConfigurationError Region :=
  let key := endpoint.normalized
  match t.byEndpoint.get? key with
  | some region => .ok region
  | none =>
    .error (.endpointNotConfigured t.family key.text (", ".intercalate t.knownRegions))

end EndpointTable

end CloudReach
