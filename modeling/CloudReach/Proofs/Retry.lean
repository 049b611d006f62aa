import CloudReach.Command
import CloudReach.Proofs.Outcome
import CloudReach.Retry.ClientError
import CloudReach.Retry.Redirect

/-!
# What handlers do to a command

Moving a command, or turning it into a `GET`, keeps its counters. A redirect that is followed costs
one redirect and leads to one target, and a refused request that is sent again costs one failure;
both need room below the limit of their handler.
-/

namespace CloudReach

namespace Command

variable (c : Command)

@[simp] theorem setTarget_failures (t : Target) : (c.setTarget t).failures = c.failures := rfl

@[simp] theorem setTarget_redirects (t : Target) : (c.setTarget t).redirects = c.redirects := rfl

@[simp] theorem convertToGet_failures : c.convertToGet.failures = c.failures := rfl

@[simp] theorem convertToGet_redirects : c.convertToGet.redirects = c.redirects := rfl

/-- The target with another authority. One without a scheme gets the usual one, one without a path
the root. -/
def rehost (t : Target) (authority : Target.Authority) : Target :=
  { scheme := some (t.scheme.getD .https)
    authority := some authority
    path := if t.hasPath then t.path else "/"
    query := t.query }

/-- A target with another authority can always be put together again. -/
theorem ofParts_rehosted (t : Target) (authority : Target.Authority) :
    Target.ofParts (rehosted t.parts authority) = .ok (rehost t authority) := by
  cases hpath : t.hasPath with
  | true => simp [Target.ofParts, rehosted, Target.parts, rehost, hpath]
  | false =>
    -- What has no path has no query either.
    have hquery : t.query = none := by
      simp only [Target.hasPath, Bool.or_eq_false_iff] at hpath
      simpa using hpath.2
    simp [Target.ofParts, rehosted, Target.parts, rehost, hpath, hquery]

/-- A text that is no authority is the only thing that stops a command from moving. -/
theorem changeHost_eq (host : String) :
    c.changeHost host =
      match Target.Authority.parse host with
      | .error e => .error (.unreadable s!"bad endpoint host {Text.quote host}: {e.message}")
      | .ok authority => .ok (c.setTarget (rehost c.request.target authority)) := by
  unfold changeHost
  cases Target.Authority.parse host with
  | error e => rfl
  | ok authority =>
    dsimp only
    rw [ofParts_rehosted]

variable {c}

/-- Another host is another authority of the same target. -/
theorem changeHost_eq_ok {host : String} {moved : Command} (h : c.changeHost host = .ok moved) :
    ∃ authority, Target.Authority.parse host = .ok authority ∧
      moved = c.setTarget (rehost c.request.target authority) := by
  rw [changeHost_eq] at h
  split at h
  · cases h
  · rename_i authority hauthority
    cases h
    exact ⟨authority, hauthority, rfl⟩

end Command

namespace Redirect

/-- Where a followed redirect leaves a command: at another target, after a 303 as a `GET`. -/
def Follows (c : Command) (r : Response) (moved : Command) : Prop :=
  ∃ target, moved = c.setTarget target ∨
    r.status = 303 ∧ moved = (c.setTarget target).convertToGet

theorem Follows.failures {c moved : Command} {r : Response} (h : Follows c r moved) :
    moved.failures = c.failures := by
  obtain ⟨target, rfl | ⟨-, rfl⟩⟩ := h <;> simp

theorem Follows.redirects {c moved : Command} {r : Response} (h : Follows c r moved) :
    moved.redirects = c.redirects := by
  obtain ⟨target, rfl | ⟨-, rfl⟩⟩ := h <;> simp

def endpoint? (reader : ErrorReader) (c : Command) (r : Response) : Option String :=
  if c.request.method ∈ ["GET", "HEAD"] ∧ (r.status = 301 ∨ r.status = 307) then
    (reader r.body).endpoint
  else none

def arrival? (c : Command) (r : Response) : Option Target :=
  (location? r).bind fun location =>
    (c.resolve location).toOption.bind fun url => (Target.parse url.text).toOption

theorem arrival?_eq_some_iff {c : Command} {r : Response} {target : Target} :
    arrival? c r = some target ↔ ∃ location, location? r = some location ∧
      ∃ url, c.resolve location = .ok url ∧ Target.parse url.text = .ok target := by
  simp only [arrival?, Option.bind_eq_some_iff, toOption_eq_some_iff]

/-- A location is followed to where it leads, unless that is where the command was. -/
theorem followLocation_eq_arrival (c : Command) (r : Response) :
    followLocation c r =
      match arrival? c r with
      | none => (.giveUp, c)
      | some target =>
        if target.same c.request.target then (.giveUp, c.setTarget target)
        else if r.status = 303 then (now, (c.setTarget target).convertToGet)
        else (now, c.setTarget target) := by
  unfold followLocation arrival?
  cases location? r with
  | none => rfl
  | some location =>
    dsimp only [Option.bind_some]
    unfold Command.redirectTo
    cases c.resolve location with
    | error e => rfl
    | ok url =>
      dsimp only [Except.toOption, Option.bind_some]
      cases Target.parse url.text with
      | error e => rfl
      | ok target => rfl

/-- Where a redirect leads: to an endpoint, the path staying as it is, or else to a location. -/
inductive Leads (reader : ErrorReader) (c : Command) (r : Response) : Target → Prop
  | endpoint {host : String} {authority : Target.Authority} :
      endpoint? reader c r = some host → Target.Authority.parse host = .ok authority →
      Leads reader c r (Command.rehost c.request.target authority)
  | location {location : String} {url : Url} {target : Target} :
      endpoint? reader c r = none → location? r = some location →
      c.resolve location = .ok url → Target.parse url.text = .ok target →
      Leads reader c r target

theorem followEndpoint_eq (reader : ErrorReader) (c : Command) (r : Response) :
    followEndpoint reader c r = (endpoint? reader c r).map fun host =>
      if c.host? = some host then (.giveUp, c)
      else
        match c.changeHost host with
        | .ok moved => (now, moved)
        | .error _ => (.giveUp, c) := by
  unfold followEndpoint endpoint?
  split <;> rfl

/-- An endpoint that is not followed leaves the command as it is. -/
theorem followEndpoint_eq_some {reader : ErrorReader} {c moved : Command} {r : Response}
    {decision : Decision} (h : followEndpoint reader c r = some (decision, moved)) :
    decision = .giveUp ∧ moved = c ∨
      decision = now ∧ ∃ target, Leads reader c r target ∧ moved = c.setTarget target := by
  rw [followEndpoint_eq] at h
  obtain ⟨host, hhost, h⟩ := Option.map_eq_some_iff.mp h
  split at h
  · cases h
    exact .inl ⟨rfl, rfl⟩
  · split at h
    · rename_i hmoved
      obtain ⟨authority, hauthority, rfl⟩ := Command.changeHost_eq_ok hmoved
      cases h
      exact .inr ⟨rfl, _, .endpoint hhost hauthority, rfl⟩
    · cases h
      exact .inl ⟨rfl, rfl⟩

theorem endpoint?_of_followEndpoint {reader : ErrorReader} {c : Command} {r : Response}
    (h : followEndpoint reader c r = none) : endpoint? reader c r = none := by
  rw [followEndpoint_eq] at h
  exact Option.map_eq_none_iff.mp h

/-- A location that is refused may have moved the command nevertheless. -/
theorem followLocation_eq {reader : ErrorReader} {c moved : Command} {r : Response}
    {decision : Decision} (hnone : endpoint? reader c r = none)
    (h : followLocation c r = (decision, moved)) :
    decision = .giveUp ∧ moved = c ∨
      ∃ target, Leads reader c r target ∧
        (decision = .giveUp ∧ moved = c.setTarget target ∨
          decision = now ∧ (moved = c.setTarget target ∨
            r.status = 303 ∧ moved = (c.setTarget target).convertToGet)) := by
  rw [followLocation_eq_arrival] at h
  cases harrival : arrival? c r with
  | none =>
    rw [harrival] at h
    cases h
    exact .inl ⟨rfl, rfl⟩
  | some target =>
    obtain ⟨location, hlocation, url, hurl, htarget⟩ := arrival?_eq_some_iff.mp harrival
    refine .inr ⟨target, .location hnone hlocation hurl htarget, ?_⟩
    rw [harrival] at h
    dsimp only at h
    split at h
    · cases h
      exact .inl ⟨rfl, rfl⟩
    · split at h
      · rename_i h303
        cases h
        exact .inr ⟨rfl, .inr ⟨h303, rfl⟩⟩
      · cases h
        exact .inr ⟨rfl, .inl rfl⟩

/-- What becomes of a command: it stays where it is or moves to where the redirect leads. Only one
that has moved, within the limit, is sent again. -/
theorem decide_cases {limit : Nat} {reader : ErrorReader} {c moved : Command} {r : Response}
    {decision : Decision} (h : decide limit reader c r = (decision, moved)) :
    decision = .giveUp ∧ moved = c.addRedirect ∨
      ∃ target, Leads reader c.addRedirect r target ∧
        (decision = .giveUp ∧ moved = c.addRedirect.setTarget target ∨
          decision = now ∧ c.redirects + 1 ≤ limit ∧
            (moved = c.addRedirect.setTarget target ∨
              r.status = 303 ∧ moved = (c.addRedirect.setTarget target).convertToGet)) := by
  unfold decide at h
  dsimp only at h
  split at h
  · cases h
    exact .inl ⟨rfl, rfl⟩
  · rename_i hover
    have hlimit : c.redirects + 1 ≤ limit := Nat.le_of_not_lt hover
    cases hendpoint : followEndpoint reader c.addRedirect r with
    | none =>
      rw [hendpoint, Option.getD_none] at h
      rcases followLocation_eq (endpoint?_of_followEndpoint hendpoint) h with
        hstays | ⟨target, hleads, hrefused | ⟨hnow, hmoved⟩⟩
      · exact .inl hstays
      · exact .inr ⟨target, hleads, .inl hrefused⟩
      · exact .inr ⟨target, hleads, .inr ⟨hnow, hlimit, hmoved⟩⟩
    | some outcome =>
      rw [hendpoint, Option.getD_some] at h
      rcases followEndpoint_eq_some (h ▸ hendpoint) with hstays | ⟨hnow, target, hleads, hmoved⟩
      · exact .inl hstays
      · exact .inr ⟨target, hleads, .inr ⟨hnow, hlimit, .inl hmoved⟩⟩

/-- A redirect is followed at once and only within the limit. -/
theorem decide_retry {limit : Nat} {reader : ErrorReader} {c moved : Command} {r : Response}
    {d : Duration} (h : decide limit reader c r = (.retry d, moved)) :
    d = Duration.zero ∧ c.redirects + 1 ≤ limit ∧ Follows c.addRedirect r moved := by
  rcases decide_cases h with ⟨hgiveUp, -⟩ | ⟨target, -, ⟨hgiveUp, -⟩ | ⟨hnow, hlimit, hmoved⟩⟩
  · cases hgiveUp
  · cases hgiveUp
  · exact ⟨Decision.retry.inj hnow, hlimit, target, hmoved⟩

end Redirect

namespace ClientError

/-- A refused request is sent again only if it may help and only within the limit. -/
theorem handler_retry {σ : Type} {policy : Policy} {reader : ErrorReader} {draw : Draw σ}
    {c c' : Command} {r : Response} {s s' : σ} {d : Duration}
    (h : handler policy reader draw c r s = ((.retry d, c'), s')) :
    isRetryable reader r ∧ c.failures + 1 ≤ policy.limit ∧ c' = c.addFailure := by
  unfold handler at h
  split at h
  · rename_i hr
    dsimp only at h
    split at h
    · cases h
    · rename_i hl
      cases h
      exact ⟨hr, Nat.le_of_not_lt hl, rfl⟩
  · cases h

end ClientError

end CloudReach
