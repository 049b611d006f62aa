import CloudReach.Error
import CloudReach.Http
import CloudReach.Url.Parse

/-!
# Commands

A request on its way to an answer: what is sent next, and how often it has failed or been
redirected so far. A redirect moves it to a new target, and with it the value of a `Host` header
it carries.
-/

namespace CloudReach

structure Command where
  request : Request
  failures : Nat
  redirects : Nat
deriving DecidableEq

namespace Command

def ofRequest (request : Request) : Command :=
  { request, failures := 0, redirects := 0 }

def host? (c : Command) : Option String :=
  c.request.target.host?

def addFailure (c : Command) : Command :=
  { c with failures := c.failures + 1 }

def addRedirect (c : Command) : Command :=
  { c with redirects := c.redirects + 1 }

def hostHeader : String := "host"

/-- Addresses the request to a target. A `Host` header follows its authority. -/
def setTarget (c : Command) (target : Target) : Command :=
  let headers := match target.authority with
    | some a =>
      if c.request.headers.contains hostHeader then c.request.headers.set hostHeader a.text
      else c.request.headers
    | none => c.request.headers
  { c with request := { c.request with target, headers } }

/-- The URL that a location means, from where the command is now. A command whose target is no URL
takes the location by itself. -/
def resolve (c : Command) (location : String) : Except Url.Error Url :=
  match Url.parse c.request.target.text with
  | .ok base => base.join location
  | .error _ => Url.parse location

def redirectTo (c : Command) (location : String) : Except ProviderError Command :=
  match c.resolve location with
  | .error e =>
    .error (.unreadable s!"cannot resolve redirect {Text.quote location}: {e.message}")
  | .ok url =>
    match Target.parse url.text with
    | .error e => .error (.unreadable s!"bad redirect location {Text.quote location}: {e.message}")
    | .ok target => .ok (c.setTarget target)

/-- Parts with another authority. Without a scheme they get the usual one, without a path the
root. -/
def rehosted (p : Target.Parts) (authority : Target.Authority) : Target.Parts :=
  { scheme := some (p.scheme.getD .https)
    authority := some authority
    pathAndQuery := some (p.pathAndQuery.getD ("/", none)) }

def changeHost (c : Command) (host : String) : Except ProviderError Command :=
  match Target.Authority.parse host with
  | .error e => .error (.unreadable s!"bad endpoint host {Text.quote host}: {e.message}")
  | .ok authority =>
    match Target.ofParts (rehosted c.request.target.parts authority) with
    | .error e => .error (.unreadable s!"cannot rebuild uri for {Text.quote host}: {e.message}")
    | .ok target => .ok (c.setTarget target)

def convertToGet (c : Command) : Command :=
  { c with request := { c.request with method := "GET", body := "" } }

end Command

end CloudReach
