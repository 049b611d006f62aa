import CloudReach.Discovery.Query
import CloudReach.Proofs.Route
import CloudReach.Proofs.World

/-!
# The requests of query operations

A query operation without parameters is posted to the root of an endpoint, and its name is a form
field. An endpoint either carries such a request or is refused, with the reason; `Asks` and
`Refuses` say which. A request that an endpoint carries is addressed to it.
-/

namespace CloudReach

def Url.closed (u : Url) : Url :=
  { u with path := .rooted (withEndSlash (dropEmptyEnd u.path.segments)) }

def Route.operation (action : String) : Route.Filled :=
  { name := action
    method := "POST"
    segments := []
    params := [("Action", action), ("Version", RouteTable.computeVersion)]
    style := .query action RouteTable.computeVersion }

def Request.operation (action : String) (target : Target) : Request :=
  { method := "POST"
    target
    version := .http11
    headers := ⟨[("accept", "text/xml"), ("content-type", Route.formType)]⟩
    body := String.ofList
      (Form.encode [("Action", action), ("Version", RouteTable.computeVersion)]) }

namespace Discovery

structure Asks (action : String) (endpoint : Url) (request : Request) : Prop where
  operation : request = .operation action request.target
  target : Target.parse endpoint.closed.text = .ok request.target
  addressed : endpoint.WellFormed → ∃ a, endpoint.authority = some a ∧
    request.target.scheme.isSome ∧ request.target.authority = some ⟨String.ofList a.text⟩ ∧
    request.target.path =
      String.ofList (Url.dropEndSlash (Url.dropEndSlash endpoint.path.text) ++ ['/'])

/-- Why an endpoint carries no request: it has no place for a path, or it is no target. -/
inductive Refuses (action : String) (endpoint : Url) : RouteError → Prop
  | flat (h : endpoint.isFlat = true) :
      Refuses action endpoint (.invalidRequest action s!"{endpoint.text} cannot carry a path")
  | unreadable {e : Target.Error} (rooted : endpoint.isFlat = false)
      (h : Target.parse endpoint.closed.text = .error e) :
      Refuses action endpoint (.invalidRequest action e.message)

def IsOperation (action : String) : Prop :=
  RouteTable.compute.fill action [] = .ok (Route.operation action)

theorem isOperation_describeRegions : IsOperation RouteTable.describeRegions := by
  unfold IsOperation
  decide +kernel

theorem isOperation_describeZones : IsOperation RouteTable.describeZones := by
  unfold IsOperation
  decide +kernel

variable {action : String} {endpoint : Url} {request : Request}

theorem request_operation (action : String) (endpoint : Url) :
    (Route.operation action).request endpoint none =
      if endpoint.isFlat then
        .error (.invalidRequest action s!"{endpoint.text} cannot carry a path")
      else
        match Target.parse endpoint.closed.text with
        | .error e => .error (.invalidRequest action e.message)
        | .ok target => .ok (.operation action target) := rfl

/-- What an endpoint carries is addressed to its authority. -/
theorem asks_of_request (h : (Route.operation action).request endpoint none = .ok request) :
    Asks action endpoint request := by
  have hrequest := h
  rw [request_operation] at h
  split at h
  · cases h
  · split at h
    · cases h
    · rename_i target htarget
      cases h
      refine ⟨rfl, htarget, fun hwell => ?_⟩
      let base : WellFormedUrl := ⟨endpoint, hwell⟩
      have hrequest : (Route.operation action).request base none = _ := hrequest
      let closed : WellFormedUrl := Route.Filled.url hrequest
      cases hauthority : endpoint.authority with
      | none => exact absurd htarget (closed.not_target hauthority rfl)
      | some a =>
        obtain ⟨hscheme, hname, -, -⟩ := closed.target_of_authority hauthority htarget
        exact ⟨a, rfl, hscheme, hname, Route.path_of_no_segments hrequest rfl⟩

theorem refuses_of_request {e : RouteError}
    (h : (Route.operation action).request endpoint none = .error e) :
    Refuses action endpoint e := by
  rw [request_operation] at h
  split at h
  · rename_i hflat
    cases h
    exact .flat hflat
  · rename_i hrooted
    split at h
    · rename_i htarget
      cases h
      exact .unreadable (by simpa using hrooted) htarget
    · cases h

/-- Either an endpoint refuses an operation, or there is a request that asks it. -/
theorem operationRequest_cases (h : IsOperation action) (endpoint : Url) :
    (∃ e, operationRequest action endpoint = .error e ∧ Refuses action endpoint e) ∨
      ∃ request, operationRequest action endpoint = .ok request ∧
        Asks action endpoint request := by
  have hrequest :
      operationRequest action endpoint = (Route.operation action).request endpoint none := by
    unfold operationRequest
    rw [show RouteTable.compute.fill action [] = _ from h]
    rfl
  rw [hrequest]
  cases hmade : (Route.operation action).request endpoint none with
  | error e => exact .inl ⟨e, rfl, refuses_of_request hmade⟩
  | ok request => exact .inr ⟨request, rfl, asks_of_request hmade⟩

/-- An operation whose request is refused is not sent; any other is sent with a request that asks it,
and the answer is the body of the response. -/
theorem run_sendOperation_cases {σ : Type} (h : IsOperation action) (service : Service σ)
    (endpoint : Url) (s : σ) :
    (∃ e, Refuses action endpoint e ∧
      (sendOperation service action endpoint).run s = ([], some (.error (.route e), s))) ∨
      ∃ request, Asks action endpoint request ∧
        (sendOperation service action endpoint).run s =
          let sent := (service.send request).run s
          (sent.1, sent.2.map fun r => (r.1.map Response.body, r.2)) := by
  rw [sendOperation]
  rcases operationRequest_cases h endpoint with ⟨e, hmade, refused⟩ | ⟨request, hmade, asks⟩
  · rw [hmade]
    exact .inl ⟨e, refused, rfl⟩
  · rw [hmade]
    refine .inr ⟨request, asks, ?_⟩
    dsimp only
    rw [← Act.run_bind_pure]
    congr 1
    apply bind_congr
    intro r
    cases r <;> rfl

end Discovery

end CloudReach
