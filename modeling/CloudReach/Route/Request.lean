import CloudReach.Http
import CloudReach.Route.Basic
import CloudReach.Url.Edit

/-!
# Requests of routes

A filled route becomes a request to a base URL: its segments are added to the path of the base, and
what it carries goes into a form or into the query.
-/

namespace CloudReach.Route

/-- The base with the path of the route. A route without segments ends in a slash. -/
def Filled.located (f : Filled) (base : Url) : Url :=
  let added := Url.addSegments (Url.schemeKind base.scheme) base.path.segments f.segments
  { base with path := .rooted (if f.segments.isEmpty then Url.withEndSlash added else added) }

def formType : String := "application/x-www-form-urlencoded"

def Filled.parts (f : Filled) (base : Url) (body : Option String) :
    Url × String × Option String :=
  let url := f.located base
  if f.style.isForm then (url, String.ofList (Form.encode f.params), some formType)
  else
    (if f.params.isEmpty then url else url.addQuery f.params, body.getD "",
      body.map fun _ => jsonType)

def Filled.request (f : Filled) (base : Url) (body : Option String) :
    Except RouteError Request :=
  if base.isFlat then
    .error (.invalidRequest f.name s!"{base.text} cannot carry a path")
  else
    let (url, body, contentType) := f.parts base body
    match Target.parse url.text with
    | .error e => .error (.invalidRequest f.name e.message)
    | .ok target =>
      .ok
        { method := f.method
          target
          version := .http11
          headers := ⟨("accept", f.style.accepts) ::
            (contentType.map fun t => ("content-type", t)).toList⟩
          body }

end CloudReach.Route
