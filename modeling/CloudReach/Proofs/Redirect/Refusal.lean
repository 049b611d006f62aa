import CloudReach.Proofs.Redirect.HostHeader
import CloudReach.Proofs.Redirect.Loop

/-!
# What a refusal leaves

Whether a command that is given up is the one that was asked about. A location is compared with the
target of the command only after the command has been moved there, so a refused loop leaves the
target as its URL is written, and a `Host` header that follows it. Everything else that is refused
leaves the request alone. The status of a response does not decide whether its location is followed.
-/

namespace CloudReach

open Command (hostHeader)

/-! ### Moving a command to where it is -/

namespace Headers

variable {name value : String}

theorem setFields_eq_self {fields : List (String × String)}
    (h : (fields.filter (·.1 == name)).map Prod.snd = [value]) :
    setFields name value fields = fields := by
  induction fields with
  | nil => cases h
  | cons f rest ih =>
    rw [setFields]
    by_cases hf : f.1 = name
    · rw [List.filter_cons_of_pos (by simpa using hf), List.map_cons, List.cons.injEq,
        List.map_eq_nil_iff, List.filter_eq_nil_iff] at h
      have hrest : rest.filter (fun g => g.1 ≠ name) = rest :=
        List.filter_eq_self.mpr fun g hg => by simpa using h.2 g hg
      rw [if_pos hf, hrest, ← hf, ← h.1]
    · rw [List.filter_cons_of_neg (by simpa using hf)] at h
      rw [if_neg hf, ih h]

/-- Setting a header changes nothing exactly if it has that value alone. -/
theorem set_eq_self_iff {h : Headers} : h.set name value = h ↔ h.values name = [value] := by
  constructor
  · intro hset
    rw [← hset, values_set]
  · intro hvalues
    rw [set, setFields_eq_self hvalues]

end Headers

namespace Command

variable {c : Command} {t : Target} {a : Target.Authority}

/-- A `Host` header, where the command has one, is the only one and names the authority. -/
def HostIs (c : Command) (a : Target.Authority) : Prop :=
  c.request.headers.contains hostHeader = true → c.request.headers.values hostHeader = [a.text]

theorem setTarget_request_eq_iff :
    (c.setTarget t).request = c.request ↔
      t = c.request.target ∧ ∀ a, t.authority = some a → c.HostIs a := by
  have hheaders : (c.setTarget t).request.headers = c.request.headers ↔
      ∀ a, t.authority = some a → c.HostIs a := by
    cases h : t.authority with
    | none =>
      unfold setTarget
      rw [h]
      exact iff_of_true rfl nofun
    | some a =>
      rw [headers_setTarget c h]
      simp only [Option.some.injEq, forall_eq', HostIs]
      by_cases hhost : c.request.headers.contains hostHeader = true
      · rw [if_pos hhost, Headers.set_eq_self_iff]
        exact ⟨fun hvalues _ => hvalues, fun hvalues => hvalues hhost⟩
      · rw [if_neg hhost]
        exact iff_of_true rfl fun hcontains => absurd hcontains hhost
  constructor
  · intro hrequest
    exact ⟨congrArg Request.target hrequest, hheaders.mp (congrArg Request.headers hrequest)⟩
  · rintro ⟨rfl, hhost⟩
    show { c.request with headers := (c.setTarget c.request.target).request.headers } = c.request
    rw [hheaders.mpr hhost]

end Command

theorem Target.same_refl (t : Target) : t.same t = true := by
  simp [Target.same]

namespace Redirect

variable {limit : Nat} {reader : ErrorReader} {c : Command} {r : Response} {t : Target}

/-! ### Decisions -/

theorem decide_of_limit (hover : limit < c.redirects + 1) :
    decide limit reader c r = (.giveUp, c.addRedirect) :=
  if_pos hover

/-- Within the limit, and without an endpoint, the command goes where the location leads; if that is
where it was, it is given up there. -/
theorem decide_of_location (hwithin : c.redirects + 1 ≤ limit)
    (hnone : endpoint? reader c r = none) :
    decide limit reader c r =
      match arrival? c r with
      | none => (.giveUp, c.addRedirect)
      | some t =>
        if t.same c.request.target then (.giveUp, c.addRedirect.setTarget t)
        else if r.status = 303 then (now, (c.addRedirect.setTarget t).convertToGet)
        else (now, c.addRedirect.setTarget t) := by
  rw [decide_of_no_endpoint hnone, if_neg (Nat.not_lt_of_le hwithin), followLocation_eq_arrival]
  rfl

/-! ### Refused redirects -/

/-- The target of the command as its URL is written, if a redirect that is within the limit and
names no endpoint leads back to it. -/
def loop? (limit : Nat) (reader : ErrorReader) (c : Command) (r : Response) : Option Target :=
  if c.redirects + 1 ≤ limit ∧ endpoint? reader c r = none then
    (arrival? c r).filter (·.same c.request.target)
  else none

theorem decide_of_endpoint_giveUp {host : String} (hhost : endpoint? reader c r = some host)
    (h : (decide limit reader c r).1 = .giveUp) :
    (decide limit reader c r).2 = c.addRedirect := by
  by_cases hover : limit < c.redirects + 1
  · rw [decide_of_limit hover]
  · have hfollow : ∃ outcome, followEndpoint reader c.addRedirect r = some outcome := by
      rw [followEndpoint_eq]
      exact ⟨_, congrArg (Option.map _) hhost⟩
    obtain ⟨outcome, houtcome⟩ := hfollow
    have hwithin : ¬ limit < c.addRedirect.redirects := hover
    have hdecide : decide limit reader c r = outcome := by
      unfold decide
      dsimp only
      rw [if_neg hwithin, houtcome, Option.getD_some]
    rw [hdecide] at h ⊢
    rcases followEndpoint_eq_some houtcome with ⟨-, hstays⟩ | ⟨hnow, -⟩
    · exact hstays
    · rw [h] at hnow
      cases hnow

/-- A command that is given up stays where it is, unless it has gone round a loop. -/
theorem decide_of_giveUp (h : (decide limit reader c r).1 = .giveUp) :
    (decide limit reader c r).2 =
      (loop? limit reader c r).elim c.addRedirect c.addRedirect.setTarget := by
  by_cases hloop : c.redirects + 1 ≤ limit ∧ endpoint? reader c r = none
  · rw [loop?, if_pos hloop]
    rw [decide_of_location hloop.1 hloop.2] at h ⊢
    cases ht : arrival? c r with
    | none => rfl
    | some t =>
      simp only [ht] at h ⊢
      by_cases hsame : t.same c.request.target = true
      · rw [if_pos hsame, Option.filter_some, if_pos hsame]
        rfl
      · -- A target that is another one is followed, not given up.
        rw [if_neg hsame] at h
        split at h <;> cases h
  · rw [loop?, if_neg hloop]
    cases hendpoint : endpoint? reader c r with
    | some host => exact decide_of_endpoint_giveUp hendpoint h
    | none =>
      have hover : limit < c.redirects + 1 :=
        Nat.lt_of_not_le fun hwithin => hloop ⟨hwithin, hendpoint⟩
      rw [decide_of_limit hover]
      rfl

/-! ### Statuses -/

def statuses : List Nat := [301, 302, 303, 307, 308]

/-- A response that is no 303, and may name no endpoint, only counts for its location. -/
theorem decide_of_status (h301 : r.status ≠ 301) (h303 : r.status ≠ 303) (h307 : r.status ≠ 307) :
    decide limit reader c r =
      match if c.redirects + 1 ≤ limit then arrival? c r else none with
      | none => (.giveUp, c.addRedirect)
      | some t =>
        (if t.same c.request.target then .giveUp else now, c.addRedirect.setTarget t) := by
  by_cases hwithin : c.redirects + 1 ≤ limit
  · have hnone : endpoint? reader c r = none := if_neg (by simp [h301, h307])
    rw [decide_of_location hwithin hnone, if_pos hwithin]
    cases arrival? c r with
    | none => rfl
    | some t =>
      dsimp only
      rw [if_neg h303]
      split <;> rfl
  · rw [decide_of_limit (Nat.lt_of_not_le hwithin), if_neg hwithin]

/-- The status of a response is looked at for an endpoint and for a 303, and not otherwise: any other
response with a location is taken for a 302. So the command stays where it is exactly if there is no
location to follow, or it leads to the target as that is written. -/
theorem unlisted_status_decision (limit : Nat) (reader : ErrorReader) (c : Command) (r : Response)
    (hstatus : r.status ∉ statuses) :
    decide limit reader c r = decide limit reader c { r with status := 302 } ∧
    (decide limit reader c r =
      match if c.redirects + 1 ≤ limit then arrival? c r else none with
      | none => (.giveUp, c.addRedirect)
      | some t =>
        (if t.same c.request.target then .giveUp else now, c.addRedirect.setTarget t)) ∧
    ((decide limit reader c r).1 = .giveUp ∧
        (decide limit reader c r).2.request.target = c.request.target ↔
      (c.redirects + 1 ≤ limit → ∀ t, arrival? c r = some t → t = c.request.target)) := by
  simp only [statuses, List.mem_cons, List.not_mem_nil, or_false, not_or] at hstatus
  obtain ⟨h301, -, h303, h307, -⟩ := hstatus
  have hdecide : decide limit reader c r = _ := decide_of_status h301 h303 h307
  have hfound : decide limit reader c { r with status := 302 } = _ :=
    decide_of_status (Nat.ne_of_beq_eq_false rfl) (Nat.ne_of_beq_eq_false rfl)
      (Nat.ne_of_beq_eq_false rfl)
  refine ⟨hdecide.trans hfound.symm, hdecide, ?_⟩
  rw [hdecide]
  by_cases hwithin : c.redirects + 1 ≤ limit
  · rw [if_pos hwithin]
    cases arrival? c r with
    | none => exact iff_of_true ⟨rfl, rfl⟩ fun _ => nofun
    | some t =>
      constructor
      · rintro ⟨-, hstays⟩ - t' ⟨⟩
        exact hstays
      · intro hback
        obtain rfl : t = c.request.target := hback hwithin t rfl
        dsimp only
        rw [if_pos (Target.same_refl _)]
        exact ⟨rfl, rfl⟩
  · rw [if_neg hwithin]
    exact iff_of_true ⟨rfl, rfl⟩ fun h => absurd h hwithin

theorem choices_at_target_refused :
    300 ∉ statuses ∧
      (decide defaultRetryLimit ErrorDocument.parse (visitorAt "a.example")
        { found "./start" with status := 300 }).1 = .giveUp ∧
      (decide defaultRetryLimit ErrorDocument.parse (visitorAt "a.example")
        { found "./start" with status := 300 }).2.request.target =
          (visitorAt "a.example").request.target := by
  have harrival : arrival? (visitorAt "a.example") { found "./start" with status := 300 } =
      some (visitorAt "a.example").request.target := by decide +kernel
  refine ⟨by decide, ?_⟩
  refine (unlisted_status_decision defaultRetryLimit ErrorDocument.parse (visitorAt "a.example")
    { found "./start" with status := 300 } (by decide)).2.2.mpr fun _ t ht => ?_
  exact Option.some.inj (ht.symm.trans harrival)

/-- A 305 moves the command to its location. -/
theorem use_proxy_followed :
    305 ∉ statuses ∧
      (decide defaultRetryLimit ErrorDocument.parse (visitorAt "a.example")
        { found "//b.example/next" with status := 305 }).1 = now ∧
      (decide defaultRetryLimit ErrorDocument.parse (visitorAt "a.example")
        { found "//b.example/next" with status := 305 }).2.request.target.text =
          "https://b.example/next" := by
  decide +kernel

/-! ### Requests that are given up -/

/-- A handler that gives up leaves the request as it was, unless a redirect is refused as a loop:
that leaves the target as the URL of the location is written, and a `Host` header with its
authority. So the request is the one that was asked about exactly if its target was written in that
way already and a `Host` header was there with that authority alone, or not at all. -/
theorem request_after_refusal {σ : Type} (limit : Nat) (reader : ErrorReader)
    (policy : ClientError.Policy) (draw : Draw σ) (c : Command) (r : Response) (s : σ) :
    ((decide limit reader c r).1 = .giveUp →
      (decide limit reader c r).2 =
        (loop? limit reader c r).elim c.addRedirect c.addRedirect.setTarget ∧
      ((decide limit reader c r).2.request = c.request ↔
        ∀ t, loop? limit reader c r = some t →
          t = c.request.target ∧ ∀ a, t.authority = some a → c.HostIs a)) ∧
    (ClientError.handler policy reader draw c r s).1.2 =
      if ClientError.isRetryable reader r then c.addFailure else c := by
  constructor
  · intro hgiveUp
    have hleft := decide_of_giveUp hgiveUp
    refine ⟨hleft, ?_⟩
    rw [hleft]
    cases hloop : loop? limit reader c r with
    | none => exact iff_of_true rfl nofun
    | some t =>
      have hmoved : (c.addRedirect.setTarget t).request = (c.setTarget t).request := rfl
      rw [Option.elim_some, hmoved, Command.setTarget_request_eq_iff]
      simp only [Option.some.injEq, forall_eq']
  · unfold ClientError.handler
    split
    · dsimp only
      split <;> rfl
    · rfl

theorem request_after_refused_loop :
    (decide defaultRetryLimit ErrorDocument.parse (visitor ⟨[(hostHeader, "a.example")]⟩)
        (found "start?s=1")).1 = .giveUp ∧
      (decide defaultRetryLimit ErrorDocument.parse (visitor ⟨[(hostHeader, "a.example")]⟩)
        (found "start?s=1")).2.request = (visitor ⟨[(hostHeader, "a.example")]⟩).request := by
  have hgiveUp : (decide defaultRetryLimit ErrorDocument.parse
      (visitor ⟨[(hostHeader, "a.example")]⟩) (found "start?s=1")).1 = .giveUp := by
    decide +kernel
  have hloop : loop? defaultRetryLimit ErrorDocument.parse (visitor ⟨[(hostHeader, "a.example")]⟩)
      (found "start?s=1") = some (visitor .empty).request.target := by decide +kernel
  refine ⟨hgiveUp, ?_⟩
  have hleft := (request_after_refusal (σ := Unit) defaultRetryLimit ErrorDocument.parse .standard
    (fun s => (0, s)) (visitor ⟨[(hostHeader, "a.example")]⟩) (found "start?s=1") ()).1 hgiveUp
  refine hleft.2.mpr fun t ht => ?_
  obtain rfl : t = (visitor .empty).request.target := Option.some.inj (ht.symm.trans hloop)
  refine ⟨rfl, ?_⟩
  rintro a ⟨⟩ -
  rfl

def namedVisitor : Command :=
  .ofRequest
    { method := "GET"
      target :=
        { scheme := some .https, authority := some ⟨"A.example"⟩, path := "/dir/start"
          query := none }
      version := .http11
      headers := ⟨[(hostHeader, "b.example")]⟩
      body := "" }

/-- A refused loop leaves another spelling of the target, and another `Host`. -/
theorem refused_loop_moves_command :
    (decide defaultRetryLimit ErrorDocument.parse namedVisitor (found "start")).1 = .giveUp ∧
      namedVisitor.request.target.text = "https://A.example/dir/start" ∧
      (decide defaultRetryLimit ErrorDocument.parse namedVisitor
        (found "start")).2.request.target.text = "https://a.example/dir/start" ∧
      namedVisitor.request.headers.values hostHeader = ["b.example"] ∧
      (decide defaultRetryLimit ErrorDocument.parse namedVisitor
        (found "start")).2.request.headers.values hostHeader = ["a.example"] := by
  decide +kernel

end Redirect

end CloudReach
