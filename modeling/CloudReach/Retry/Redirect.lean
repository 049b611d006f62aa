import CloudReach.Retry.Basic

/-!
# Following redirects

A 301 or 307 to a `GET` or `HEAD` may name in its body the endpoint where the resource lives; the
command is moved to that host. Otherwise the `Location` header is followed, and after a 303 with a
`GET` without a body. A redirect to where the command already is would be a loop and is refused.
-/

namespace CloudReach.Redirect

def now : Decision := .retry Duration.zero

def followEndpoint (reader : ErrorReader) (c : Command) (r : Response) :
    Option (Decision × Command) :=
  if c.request.method ∈ ["GET", "HEAD"] ∧ (r.status = 301 ∨ r.status = 307) then
    (reader r.body).endpoint.map fun host =>
      if c.host? = some host then (.giveUp, c)
      else
        match c.changeHost host with
        | .ok moved => (now, moved)
        | .error _ => (.giveUp, c)
  else none

/-- The location of a response, if it is text that can be seen. -/
def location? (r : Response) : Option String :=
  (r.headers.get? "location").filter fun s =>
    s.toList.all fun c => (0x20 ≤ c.toNat && c.toNat < 0x7F) || c == '\t'

/-- Moves the command to the location of the response. A move that leads nowhere is given up, but
it has been made. -/
def followLocation (c : Command) (r : Response) : Decision × Command :=
  match location? r with
  | none => (.giveUp, c)
  | some location =>
    match c.redirectTo location with
    | .error _ => (.giveUp, c)
    | .ok moved =>
      if moved.request.target.same c.request.target then (.giveUp, moved)
      else if r.status = 303 then (now, moved.convertToGet)
      else (now, moved)

def decide (limit : Nat) (reader : ErrorReader) (c : Command) (r : Response) :
    Decision × Command :=
  let c := c.addRedirect
  if limit < c.redirects then (.giveUp, c)
  else (followEndpoint reader c r).getD (followLocation c r)

def handler {σ : Type} (limit : Nat) (reader : ErrorReader) : RetryHandler σ :=
  fun c r s => (decide limit reader c r, s)

end CloudReach.Redirect
