import CloudReach.Proofs.Retry
import CloudReach.Proofs.Url.Query

/-!
# Runs of redirects

The responses that a redirect handler is shown one after the other, and what it makes of the command
each time. A command that is sent again has an absolute target unless its location was a flat URL,
whose text is taken for an authority.
-/

namespace CloudReach

def Target.IsAbsolute (t : Target) : Prop :=
  t.scheme.isSome ∧ t.authority.isSome

instance (t : Target) : Decidable t.IsAbsolute :=
  inferInstanceAs (Decidable (_ ∧ _))

namespace Redirect

/-- The URL that the location of a response means, where no endpoint comes first. -/
def located? (reader : ErrorReader) (c : Command) (r : Response) : Option Url :=
  match endpoint? reader c r with
  | some _ => none
  | none => (location? r).bind fun location => (c.resolve location).toOption

structure Step where
  before : Command
  response : Response
  decision : Decision
  after : Command

def steps (limit : Nat) (reader : ErrorReader) : Command → List Response → List Step
  | _, [] => []
  | c, r :: rest =>
    let (decision, after) := decide limit reader c r
    { before := c, response := r, decision, after } :: steps limit reader after rest

variable {limit : Nat} {reader : ErrorReader} {c : Command} {r : Response}

theorem steps_cons (rest : List Response) :
    steps limit reader c (r :: rest) =
      { before := c, response := r, decision := (decide limit reader c r).1
        after := (decide limit reader c r).2 } ::
      steps limit reader (decide limit reader c r).2 rest := rfl

/-- What every decision keeps holds of the command at every step of a run. -/
theorem steps_invariant {P : Command → Prop}
    (hkeeps : ∀ c r, P c → P (decide limit reader c r).2) {responses : List Response} {s : Step}
    (hs : s ∈ steps limit reader c responses) (hc : P c) :
    P s.before ∧ decide limit reader s.before s.response = (s.decision, s.after) := by
  -- The rest of a run is a run of its own, of the command that the first decision leaves.
  induction responses generalizing c with
  | nil => exact absurd hs List.not_mem_nil
  | cons r rest ih =>
    rw [steps_cons] at hs
    rcases List.mem_cons.mp hs with rfl | hs
    · exact ⟨hc, rfl⟩
    · exact ih hs (hkeeps c r hc)

theorem decide_of_mem_steps {responses : List Response} {s : Step}
    (hs : s ∈ steps limit reader c responses) :
    decide limit reader s.before s.response = (s.decision, s.after) :=
  (steps_invariant (P := fun _ => True) (fun _ _ _ => trivial) hs trivial).2

/-- A command that is sent again is where its redirect led, with the headers for it. -/
theorem leads_of_retry {responses : List Response} {s : Step}
    (hs : s ∈ steps limit reader c responses) (hretry : s.decision.isRetry = true) :
    ∃ target, Leads reader s.before.addRedirect s.response target ∧
      s.after.request.target = target ∧
      s.after.request.headers = (s.before.setTarget target).request.headers := by
  rcases decide_cases (decide_of_mem_steps hs) with
    ⟨hgiveUp, -⟩ | ⟨target, hleads, ⟨hgiveUp, -⟩ | ⟨-, -, hmoved⟩⟩
  · rw [hgiveUp] at hretry
    cases hretry
  · rw [hgiveUp] at hretry
    cases hretry
  · refine ⟨target, hleads, ?_⟩
    rcases hmoved with hmoved | ⟨-, hmoved⟩
    · rw [hmoved]
      exact ⟨rfl, rfl⟩
    · rw [hmoved]
      exact ⟨rfl, rfl⟩

/-- What a location means is a URL that has been read. -/
theorem exists_readUrl {location : String} {url : Url} (h : c.resolve location = .ok url) :
    ∃ u : ReadUrl, u.toUrl = url := by
  unfold Command.resolve at h
  split at h
  · rename_i hbase
    exact ⟨(ReadUrl.ofParse hbase).joined h, rfl⟩
  · exact ⟨.ofParse h, rfl⟩

theorem located?_eq_some {location : String} {url : Url} (hnone : endpoint? reader c r = none)
    (hlocation : location? r = some location) (hurl : c.resolve location = .ok url) :
    located? reader c r = some url := by
  rw [located?, hnone, hlocation, Option.bind_some, hurl]
  rfl

theorem located?_of_endpoint? {host : String} (hhost : endpoint? reader c r = some host) :
    located? reader c r = none := by
  rw [located?, hhost]

/-- A target is absolute wherever a redirect leads, save to the text of a flat URL. -/
theorem Leads.isAbsolute_iff {target : Target} (h : Leads reader c r target) :
    target.IsAbsolute ↔ ∀ url, located? reader c r = some url → url.isFlat = false := by
  cases h with
  | endpoint hhost _ =>
    have hnone := located?_of_endpoint? hhost
    constructor
    · intro _ url hurl
      rw [hnone] at hurl
      cases hurl
    · intro _
      exact ⟨rfl, rfl⟩
  | @location location url _ hnone hlocation hurl htarget =>
    have hlocated := located?_eq_some hnone hlocation hurl
    obtain ⟨u, rfl⟩ := exists_readUrl hurl
    constructor
    · intro habsolute url' hurl'
      obtain rfl : u.toUrl = url' := Option.some.inj (hlocated.symm.trans hurl')
      by_cases hflat : u.isFlat = true
      · -- The text of a flat URL is taken for an authority, and so has no scheme.
        have hscheme := habsolute.1
        rw [u.target_of_flat hflat htarget] at hscheme
        cases hscheme
      · exact eq_false_of_ne_true hflat
    · intro hrooted
      have hflat := hrooted u hlocated
      cases hauthority : u.authority with
      | none => exact absurd htarget (u.not_target hauthority hflat)
      | some a =>
        obtain ⟨hscheme, htext, -⟩ := u.target_of_authority hauthority htarget
        exact ⟨hscheme, by rw [htext]; rfl⟩

/-- After a retry the target is absolute exactly if the redirect was not to a flat URL. -/
theorem absolute_after_retry_iff (limit : Nat) (reader : ErrorReader) (c : Command)
    (responses : List Response) (s : Step) (hs : s ∈ steps limit reader c responses)
    (hretry : s.decision.isRetry = true) :
    s.after.request.target.IsAbsolute ↔
      ∀ url, located? reader s.before s.response = some url → url.isFlat = false := by
  obtain ⟨target, hleads, htarget, -⟩ := leads_of_retry hs hretry
  rw [htarget]
  exact hleads.isAbsolute_iff

def visitor (headers : Headers) : Command :=
  .ofRequest
    { method := "GET"
      target :=
        { scheme := some .https, authority := some ⟨"a.example"⟩, path := "/dir/start"
          query := some "s=1" }
      version := .http11
      headers
      body := "" }

def found (location : String) : Response :=
  { status := 302, headers := ⟨[("location", location)]⟩, body := "" }

theorem absolute_after_relative_location :
    (decide defaultRetryLimit ErrorDocument.parse (visitor .empty)
      (found "next")).2.request.target.IsAbsolute :=
  (absolute_after_retry_iff defaultRetryLimit ErrorDocument.parse (visitor .empty) [found "next"]
    _ List.mem_cons_self (by decide +kernel)).mpr fun url hurl => by
      have hrooted :
          (located? ErrorDocument.parse (visitor .empty) (found "next")).all (!·.isFlat) =
            true := by decide +kernel
      rw [hurl] at hrooted
      simpa using hrooted

/-- A mail address for a location becomes the target, and the request is sent again. -/
theorem not_absolute_after_mail_location :
    (visitor .empty).request.target.IsAbsolute ∧
      ∃ s ∈ steps defaultRetryLimit ErrorDocument.parse (visitor .empty) [found "mailto:a@b"],
        s.decision.isRetry = true ∧ s.after.request.target.scheme = none ∧
          ¬ s.after.request.target.IsAbsolute :=
  ⟨by decide, _, List.mem_cons_self, by decide +kernel⟩

end Redirect

end CloudReach
