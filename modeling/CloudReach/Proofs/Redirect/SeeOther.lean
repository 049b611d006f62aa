import CloudReach.Proofs.Redirect.Refusal
import CloudReach.Proofs.ResponsePolicy.Frame

/-!
# Requests after a 303

A 303 that is followed leaves a `GET` without a body. Its headers are those of the request that was
answered, `Host` apart, so a header that described the body goes on describing it.
-/

namespace CloudReach

theorem Headers.values_set_of_ne (h : Headers) {name name' : String} (value : String)
    (hne : name' ≠ name) : (h.set name value).values name' = h.values name' := by
  have hkept (fields : List (String × String)) :
      fields.filter (·.1 == name') = (fields.filter (·.1 ≠ name)).filter (·.1 == name') := by
    rw [List.filter_filter]
    refine List.filter_congr fun f _ => ?_
    by_cases hf : f.1 = name'
    · simp [hf, hne]
    · simp [hf]
  rw [values, values, hkept, hkept h.fields, set, filter_ne_setFields]

namespace Request

theorem Readdressed.values {a b : Request} (h : a.Readdressed b) {name : String}
    (hne : name ≠ Command.hostHeader) : b.headers.values name = a.headers.values name := by
  rcases h.headers with heq | ⟨-, value, heq⟩
  · rw [heq]
  · rw [heq, Headers.values_set_of_ne _ _ hne]

def bodyHeaders : List String :=
  ["content-type", "content-length", "content-encoding", "transfer-encoding"]

structure IsBareGet (q : Request) : Prop where
  method : q.method = "GET"
  body : q.body = ""
  undescribed : ∀ name ∈ bodyHeaders, q.headers.contains name = false

end Request

namespace Redirect

open Command (hostHeader)
open Request (bodyHeaders)

/-- After a 303 that is followed the request is a `GET` without a body, and each of its headers but
`Host` has the values that it had. So nothing is left that describes a body exactly if the request
that was answered described none. -/
theorem see_other_request (limit : Nat) (reader : ErrorReader) (c moved : Command) (r : Response)
    (d : Duration) (hstatus : r.status = 303)
    (hfollowed : decide limit reader c r = (.retry d, moved)) :
    moved.request.method = "GET" ∧ moved.request.body = "" ∧
      (∀ name, name ≠ hostHeader →
        moved.request.headers.values name = c.request.headers.values name) ∧
      (moved.request.IsBareGet ↔
        ∀ name ∈ bodyHeaders, c.request.headers.contains name = false) := by
  obtain ⟨target, hmoved⟩ := decide_retry_status hfollowed
  rw [if_pos hstatus] at hmoved
  subst hmoved
  have hvalues (name : String) (hne : name ≠ hostHeader) :
      (c.addRedirect.setTarget target).request.headers.values name =
        c.request.headers.values name :=
    (c.addRedirect.readdressed_setTarget target).values hne
  refine ⟨rfl, rfl, hvalues, ?_⟩
  have hdescribed : ∀ name ∈ bodyHeaders,
      ((c.addRedirect.setTarget target).request.headers.contains name = false ↔
        c.request.headers.contains name = false) := by
    intro name hname
    have hne : name ≠ hostHeader := by
      rintro rfl
      exact absurd hname (by decide)
    rw [Headers.contains_eq_false_iff, Headers.contains_eq_false_iff, hvalues name hne]
  constructor
  · intro hbare name hname
    exact (hdescribed name hname).mp (hbare.undescribed name hname)
  · intro hnone
    exact ⟨rfl, rfl, fun name hname => (hdescribed name hname).mpr (hnone name hname)⟩

def seeOther (location : String) : Response :=
  { found location with status := 303 }

theorem bare_get_after_see_other :
    ∃ moved, decide defaultRetryLimit ErrorDocument.parse
        (visitor ⟨[(hostHeader, "a.example"), ("accept", "text/xml")]⟩)
        (seeOther "https://b.example/next") = (now, moved) ∧
      moved.request.headers.values "accept" = ["text/xml"] ∧ moved.request.IsBareGet := by
  obtain ⟨moved, hmoved⟩ : ∃ moved, decide defaultRetryLimit ErrorDocument.parse
      (visitor ⟨[(hostHeader, "a.example"), ("accept", "text/xml")]⟩)
      (seeOther "https://b.example/next") = (now, moved) :=
    ⟨_, Prod.ext (by decide +kernel) rfl⟩
  obtain ⟨-, -, hvalues, hbare⟩ := see_other_request defaultRetryLimit ErrorDocument.parse
    (visitor ⟨[(hostHeader, "a.example"), ("accept", "text/xml")]⟩) moved
    (seeOther "https://b.example/next") Duration.zero rfl hmoved
  exact ⟨moved, hmoved, hvalues "accept" (by decide), hbare.mpr (by decide)⟩

def submission : Command :=
  .ofRequest
    { method := "POST"
      target :=
        { scheme := some .https, authority := some ⟨"a.example"⟩, path := "/dir/start"
          query := none }
      version := .http11
      headers := ⟨[("accept", "text/xml"), ("content-type", "application/x-www-form-urlencoded")]⟩
      body := "Action=DescribeRegions" }

/-- The type of a form that is no longer there stays. -/
theorem type_after_see_other :
    (decide defaultRetryLimit ErrorDocument.parse submission (seeOther "/next")).1 = now ∧
      (decide defaultRetryLimit ErrorDocument.parse submission
        (seeOther "/next")).2.request.method = "GET" ∧
      (decide defaultRetryLimit ErrorDocument.parse submission
        (seeOther "/next")).2.request.body = "" ∧
      (decide defaultRetryLimit ErrorDocument.parse submission
        (seeOther "/next")).2.request.headers.values "content-type" =
          ["application/x-www-form-urlencoded"] ∧
      ¬ (decide defaultRetryLimit ErrorDocument.parse submission
        (seeOther "/next")).2.request.IsBareGet := by
  have hrun : let run := decide defaultRetryLimit ErrorDocument.parse submission (seeOther "/next")
      run.1 = now ∧ run.2.request.method = "GET" ∧ run.2.request.body = "" ∧
        run.2.request.headers.values "content-type" = ["application/x-www-form-urlencoded"] := by
    decide +kernel
  obtain ⟨hdecision, hmethod, hbody, htype⟩ := hrun
  refine ⟨hdecision, hmethod, hbody, htype, fun hbare => ?_⟩
  have hnone := hbare.undescribed "content-type" (by decide)
  rw [Headers.contains_eq_false_iff, htype] at hnone
  cases hnone

end Redirect

end CloudReach
