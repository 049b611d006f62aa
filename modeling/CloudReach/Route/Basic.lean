import CloudReach.Assoc
import CloudReach.Error

/-!
# Routes

The remote operations of a service, by name. A query operation is posted to the root and named by
a form field; a resource operation has a path of its own, a template with parameters in braces.
Filling a route binds its parameters; those that the template does not use are carried along.
-/

namespace CloudReach

inductive AnswerShape
  | regionEndpoints
  | availabilityZones
  | instances
  | instanceStateChanges
  | images
  | keyPairs
  | keyPair
  | securityGroups
  | addresses
  | publicIp
  | volumes
  | loadBalancers
  | loadBalancerDns
  | keyFromJson
  | userFromJson
  | organizationFromJson
  | empty
deriving DecidableEq

namespace AnswerShape

def all : List AnswerShape :=
  [regionEndpoints, availabilityZones, instances, instanceStateChanges, images, keyPairs, keyPair,
    securityGroups, addresses, publicIp, volumes, loadBalancers, loadBalancerDns, keyFromJson,
    userFromJson, organizationFromJson, empty]

def name : AnswerShape → String
  | regionEndpoints => "RegionEndpoints"
  | availabilityZones => "AvailabilityZones"
  | instances => "Instances"
  | instanceStateChanges => "InstanceStateChanges"
  | images => "Images"
  | keyPairs => "KeyPairs"
  | keyPair => "KeyPair"
  | securityGroups => "SecurityGroups"
  | addresses => "Addresses"
  | publicIp => "PublicIp"
  | volumes => "Volumes"
  | loadBalancers => "LoadBalancers"
  | loadBalancerDns => "LoadBalancerDns"
  | keyFromJson => "KeyFromJson"
  | userFromJson => "UserFromJson"
  | organizationFromJson => "OrganizationFromJson"
  | empty => "Empty"

end AnswerShape

inductive OnNotFound
  | fail
  | returnNone
deriving DecidableEq

inductive Route.Style
  | query (action version : String)
  | resource
deriving DecidableEq

structure Route where
  name : String
  method : String
  path : String
  style : Route.Style
  response : AnswerShape
  onNotFound : OnNotFound
deriving DecidableEq

namespace Route

def query (action version : String) (response : AnswerShape) : Route :=
  { name := action, method := "POST", path := "/", style := .query action version, response
    onNotFound := .fail }

def resource (name method path : String) (response : AnswerShape) : Route :=
  { name, method, path, style := .resource, response, onNotFound := .fail }

def withNotFound (r : Route) (onNotFound : OnNotFound) : Route :=
  { r with onNotFound }

def action? (r : Route) : Option String :=
  match r.style with
  | .query action _ => some action
  | .resource => none

def Style.isForm : Style → Bool
  | query _ _ => true
  | resource => false

def jsonType : String := "application/json"

def Style.accepts : Style → String
  | query _ _ => "text/xml"
  | resource => jsonType

inductive Segment
  | literal (text : String)
  | param (name : String)
deriving DecidableEq

def segment? (s : List Char) : Option Segment :=
  let isBrace (c : Char) := c == '\x7b' || c == '\x7d'
  if s.head? = some '\x7b' ∧ 2 ≤ s.length ∧ s.getLast? = some '\x7d' then
    let name := (s.drop 1).dropLast
    if name.isEmpty || name.any isBrace then none else some (.param (String.ofList name))
  else if s.any isBrace then none
  else some (.literal (String.ofList s))

/-- The parts of a template, which starts with a slash; empty parts are passed over. -/
def segments? (template : String) : Option (List Segment) :=
  match template.toList with
  | '/' :: rest => ((Text.splitOn (· == '/') rest).filter (fun s => !s.isEmpty)).mapM segment?
  | _ => none

def segments (r : Route) : Except RouteError (List Segment) :=
  match segments? r.path with
  | some l => .ok l
  | none => .error (.malformedTemplate r.name r.path)

def params (l : List Segment) : List String :=
  l.filterMap fun | .param name => some name | .literal _ => none

def templateParams (r : Route) : Except RouteError (List String) :=
  r.segments.map params

structure Filled where
  name : String
  method : String
  segments : List String
  params : List (String × String)
  style : Style
deriving DecidableEq

/-- The text of one part: that of the first parameter of its name. -/
def fillSegment (r : Route) (given : List (String × String)) :
    Segment → Except RouteError String
  | .literal text => .ok text
  | .param name =>
    match given.lookup name with
    | some value => .ok value
    | none => .error (.missingParameter r.name name)

/-- Leaves out the first pair with each of these names. -/
def unused (used : List String) : List (String × String) → List (String × String)
  | [] => []
  | p :: rest =>
    if used.contains p.1 then unused (used.filter (· ≠ p.1)) rest else p :: unused used rest

def Style.fields : Style → List (String × String)
  | query action version => [("Action", action), ("Version", version)]
  | resource => []

def fill (r : Route) (given : List (String × String)) : Except RouteError Filled := do
  let template ← r.segments
  let segments ← template.mapM (r.fillSegment given)
  return { name := r.name, method := r.method, segments
           params := r.style.fields ++ unused (params template) given, style := r.style }

def Filled.path (f : Filled) : String :=
  "/" ++ "/".intercalate f.segments

def Filled.text (f : Filled) : String :=
  f.method ++ " " ++ f.path

end Route

abbrev RouteTable := Assoc String Route

namespace RouteTable

def ofRoutes (routes : List Route) : RouteTable :=
  Assoc.ofList (routes.map fun r => (r.name, r))

def withRoute (t : RouteTable) (r : Route) : RouteTable :=
  t.insert r.name r

def names (t : RouteTable) : List String :=
  t.keys.mergeSort (· ≤ ·)

def route (t : RouteTable) (name : String) : Except RouteError Route :=
  match t.get? name with
  | some r => .ok r
  | none => .error (.unknownRoute name)

def fill (t : RouteTable) (name : String) (given : List (String × String)) :
    Except RouteError Route.Filled := do
  let r ← t.route name
  r.fill given

end RouteTable

end CloudReach
