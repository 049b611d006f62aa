import CloudReach.Proofs.HostPort
import CloudReach.Proofs.Redirect.Steps

/-!
# The host header of a redirected command

A command that carries a `Host` header carries exactly one after a retry, and its value is the text
of the new authority. That text is a host and a port and nothing else exactly if the redirect names
no user and no port that cannot be read.
-/

namespace CloudReach

/-! ### Headers -/

namespace Headers

variable (h : Headers) (name value : String)

theorem filter_setFields (fields : List (String × String)) :
    (setFields name value fields).filter (·.1 == name) = [(name, value)] := by
  induction fields with
  | nil => simp [setFields]
  | cons f rest ih =>
    rw [setFields]
    by_cases hf : f.1 = name
    · have hrest : (rest.filter (fun g => g.1 ≠ name)).filter (·.1 == name) = [] := by
        rw [List.filter_eq_nil_iff]
        intro g hg
        simpa using (List.mem_filter.mp hg).2
      rw [if_pos hf, List.filter_cons_of_pos (by simp), hrest]
    · rw [if_neg hf, List.filter_cons_of_neg (by simpa using hf), ih]

@[simp] theorem values_set : (h.set name value).values name = [value] := by
  rw [values, set, filter_setFields, List.map_singleton]

theorem contains_eq_false_iff : h.contains name = false ↔ h.values name = [] := by
  rw [contains, values, List.map_eq_nil_iff, List.filter_eq_nil_iff, List.any_eq_false]

@[simp] theorem contains_set : (h.set name value).contains name = true := by
  refine eq_true_of_ne_false fun hnot => ?_
  have hnil := (contains_eq_false_iff _ _).mp hnot
  rw [values_set] at hnil
  cases hnil

end Headers

/-! ### Commands -/

namespace Command

variable (c : Command) {t : Target} {a : Target.Authority}

theorem headers_setTarget (h : t.authority = some a) :
    (c.setTarget t).request.headers =
      if c.request.headers.contains hostHeader then c.request.headers.set hostHeader a.text
      else c.request.headers := by
  unfold setTarget
  rw [h]

/-- Moving a command neither adds nor removes a `Host` header. -/
@[simp] theorem contains_setTarget :
    (c.setTarget t).request.headers.contains hostHeader =
      c.request.headers.contains hostHeader := by
  cases h : t.authority with
  | none =>
    unfold setTarget
    rw [h]
  | some a =>
    rw [headers_setTarget c h]
    by_cases hhost : c.request.headers.contains hostHeader = true
    · rw [if_pos hhost, hhost, Headers.contains_set]
    · rw [if_neg hhost]

theorem values_setTarget (h : t.authority = some a)
    (hhost : c.request.headers.contains hostHeader = true) :
    (c.setTarget t).request.headers.values hostHeader = [a.text] := by
  rw [headers_setTarget c h, if_pos hhost, Headers.values_set]

end Command

/-! ### Redirects -/

/-- What a redirect to the URL has for an authority is a host and a port and nothing else. A URL
without an authority is taken for one. -/
def Url.NamesHostPort (u : Url) : Prop :=
  match u.authority with
  | some a => a.username = "" ∧ a.password = ""
  | none => (Target.Authority.mk u.text).IsBare

namespace Redirect

open Command (hostHeader)

variable {limit : Nat} {reader : ErrorReader} {c : Command} {r : Response}

/-- The endpoint or the location of a response names a host and a port and nothing else. -/
def NamesHostPort (reader : ErrorReader) (c : Command) (r : Response) : Prop :=
  (∀ host, endpoint? reader c r = some host → (Target.Authority.mk host).IsBare) ∧
    ∀ url, located? reader c r = some url → url.NamesHostPort

theorem Leads.authority {target : Target} (h : Leads reader c r target) :
    ∃ a, target.authority = some a ∧ (a.IsBare ↔ NamesHostPort reader c r) := by
  cases h with
  | @endpoint host authority hhost hauthority =>
    refine ⟨authority, rfl, ?_⟩
    obtain rfl : Target.Authority.mk host = authority := Target.Authority.eq_of_parse hauthority
    constructor
    · intro hbare
      refine ⟨fun host' hhost' => ?_, fun url hurl => ?_⟩
      · obtain rfl : host = host' := Option.some.inj (hhost.symm.trans hhost')
        exact hbare
      · rw [located?_of_endpoint? hhost] at hurl
        cases hurl
    · intro hnames
      exact hnames.1 host hhost
  | @location location url _ hnone hlocation hurl htarget =>
    have hlocated := located?_eq_some hnone hlocation hurl
    obtain ⟨u, rfl⟩ := exists_readUrl hurl
    have hnames : NamesHostPort reader c r ↔ u.NamesHostPort := by
      constructor
      · intro h
        exact h.2 u hlocated
      · intro h
        refine ⟨fun host hhost => ?_, fun url' hurl' => ?_⟩
        · rw [hnone] at hhost
          cases hhost
        · obtain rfl : u.toUrl = url' := Option.some.inj (hlocated.symm.trans hurl')
          exact h
    cases hauthority : u.authority with
    | some a =>
      obtain ⟨-, htext, hne, -⟩ := u.target_of_authority hauthority htarget
      have hbare := (u.wellFormed.authority a hauthority).isBare_iff hne
      refine ⟨_, htext, hbare.trans ?_⟩
      rw [hnames, Url.NamesHostPort, hauthority]
    | none =>
      by_cases hflat : u.isFlat = true
      · rw [u.target_of_flat hflat htarget]
        refine ⟨_, rfl, ?_⟩
        rw [hnames, Url.NamesHostPort, hauthority]
      · exact absurd htarget (u.not_target hauthority (eq_false_of_ne_true hflat))

/-- No decision adds a `Host` header or removes one. -/
theorem contains_decide (limit : Nat) (reader : ErrorReader) (c : Command) (r : Response) :
    (decide limit reader c r).2.request.headers.contains hostHeader =
      c.request.headers.contains hostHeader := by
  have hmove (target : Target) :
      (c.addRedirect.setTarget target).request.headers.contains hostHeader =
        c.request.headers.contains hostHeader :=
    Command.contains_setTarget c.addRedirect
  have hdecide : decide limit reader c r =
      ((decide limit reader c r).1, (decide limit reader c r).2) := rfl
  rcases decide_cases hdecide with
    ⟨-, hmoved⟩ | ⟨target, -, ⟨-, hmoved⟩ | ⟨-, -, hmoved | ⟨-, hmoved⟩⟩⟩
  · rw [hmoved]
    rfl
  · rw [hmoved, hmove]
  · rw [hmoved, hmove]
  · rw [hmoved]
    exact hmove target

/-- After a retry a `Host` header is there exactly if it was at the start, alone, with the text of
the new authority. Whether that text is more than a host and a port, the redirect decides. -/
theorem host_header_after_retry (limit : Nat) (reader : ErrorReader) (c : Command)
    (responses : List Response) (s : Step) (hs : s ∈ steps limit reader c responses)
    (hretry : s.decision.isRetry = true) :
    ∃ a, s.after.request.target.authority = some a ∧
      (a.text = a.hostPort ↔ NamesHostPort reader s.before s.response) ∧
      (c.request.headers.contains hostHeader = true →
        s.after.request.headers.values hostHeader = [a.text]) ∧
      (c.request.headers.contains hostHeader = false →
        s.after.request.headers.contains hostHeader = false) := by
  obtain ⟨target, hleads, htarget, hheaders⟩ := leads_of_retry hs hretry
  obtain ⟨a, ha, hbare⟩ := hleads.authority
  obtain ⟨hkept, -⟩ := steps_invariant
    (P := fun c' => c'.request.headers.contains hostHeader = c.request.headers.contains hostHeader)
    (fun c' r hc' => (contains_decide limit reader c' r).trans hc') hs rfl
  refine ⟨a, by rw [htarget, ha], hbare, fun hhost => ?_, fun hhost => ?_⟩
  · rw [hheaders]
    exact Command.values_setTarget s.before ha (hkept.trans hhost)
  · rw [hheaders, Command.contains_setTarget, hkept, hhost]

theorem host_header_after_location :
    (decide defaultRetryLimit ErrorDocument.parse (visitor ⟨[(hostHeader, "a.example")]⟩)
      (found "https://b.example:8443/next")).2.request.headers.values hostHeader =
        ["b.example:8443"] := by
  obtain ⟨a, ha, -, hvalues, -⟩ :=
    host_header_after_retry defaultRetryLimit ErrorDocument.parse
      (visitor ⟨[(hostHeader, "a.example")]⟩) [found "https://b.example:8443/next"]
      _ List.mem_cons_self (by decide +kernel)
  have hmoved : (decide defaultRetryLimit ErrorDocument.parse
      (visitor ⟨[(hostHeader, "a.example")]⟩)
      (found "https://b.example:8443/next")).2.request.target.authority =
        some ⟨"b.example:8443"⟩ := by decide +kernel
  obtain rfl : Target.Authority.mk "b.example:8443" = a := Option.some.inj (hmoved.symm.trans ha)
  exact hvalues (by decide)

/-- A user named in an endpoint is sent in the header. -/
theorem user_in_host_header :
    (visitor ⟨[(hostHeader, "a.example")]⟩).request.headers.contains hostHeader = true ∧
      ∃ s ∈ steps defaultRetryLimit ErrorDocument.parse (visitor ⟨[(hostHeader, "a.example")]⟩)
          [{ status := 301, headers := .empty, body := "<Endpoint>u@h.x</Endpoint>" }],
        s.decision.isRetry = true ∧ s.after.request.target.authority = some ⟨"u@h.x"⟩ ∧
          (Target.Authority.mk "u@h.x").hostPort = "h.x" ∧
          s.after.request.headers.values hostHeader = ["u@h.x"] :=
  ⟨by decide, _, List.mem_cons_self, by decide +kernel⟩

end Redirect

end CloudReach
