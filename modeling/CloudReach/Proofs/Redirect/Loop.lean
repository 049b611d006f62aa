import CloudReach.Proofs.HostPort
import CloudReach.Proofs.Redirect.Steps
import CloudReach.Proofs.Url.Fragment

/-!
# Redirects back to where a command is

Which redirects are refused as loops. An endpoint is refused if its text is the host of the command:
a port on either side, or another case of a letter, is not looked at as such. A location that means
the URL of the command is refused if the target of the command is spelled as that URL is written.
-/

namespace CloudReach

open Text (FreeOf)

/-! ### Hosts as endpoints -/

namespace Target.Authority

theorem afterUser_host (a : Authority) : (Authority.mk a.host).afterUser = a.host.toList := by
  have hat : a.host.toList.contains '@' = false := by simpa using a.at_notMem_host
  unfold afterUser
  dsimp only
  rw [hat]
  rfl

/-- A host is its own host, and has no port. -/
theorem host_of_host (a : Authority) :
    (Authority.mk a.host).host = a.host ∧ (Authority.mk a.host).port? = none := by
  have hafter := a.afterUser_host
  have hat := a.at_notMem_host
  by_cases hbracket : a.afterUser.head? = some '['
  · obtain ⟨t, ht⟩ := List.head?_eq_some_iff.mp hbracket
    have hhost : a.host = String.ofList ('[' :: t.takeWhile (· != ']') ++ [']']) := by
      rw [host_eq, if_pos hbracket, ht]
      rfl
    rw [hhost, String.toList_ofList] at hat
    have hclose : ']' ∉ t.takeWhile (· != ']') := fun hmem =>
      absurd (List.all_eq_true.mp List.all_takeWhile ']' hmem) (by decide)
    have hfree : FreeOf ['@', ']'] (t.takeWhile (· != ']')) := by
      have hinside : '@' ∉ t.takeWhile (· != ']') := fun hmem =>
        hat (List.mem_cons_of_mem _ (List.mem_append_left _ hmem))
      simpa [FreeOf] using ⟨hinside, hclose⟩
    have hown : (Authority.mk (String.ofList ('[' :: t.takeWhile (· != ']') ++ [']']))).host =
        String.ofList ('[' :: t.takeWhile (· != ']') ++ [']']) :=
      host_of_bracket hfree List.not_mem_nil
    rw [hhost]
    exact ⟨hown, port?_of_bracket⟩
  · have hhost : a.host = String.ofList (a.afterUser.takeWhile (· != ':')) := by
      rw [host_eq, if_neg hbracket]
    have hcolon : ∀ c ∈ a.afterUser.takeWhile (· != ':'), (c != ':') = true :=
      List.all_eq_true.mp List.all_takeWhile
    have hhead : (a.afterUser.takeWhile (· != ':')).head? ≠ some '[' := by
      rw [List.head?_takeWhile]
      intro hhead
      exact hbracket (Option.filter_eq_some_iff.mp hhead).1
    have hwhole : (a.afterUser.takeWhile (· != ':') ++ []).takeWhile (· != ':') =
        a.afterUser.takeWhile (· != ':') := Text.takeWhile_append_stop hcolon nofun
    rw [List.append_nil] at hwhole
    rw [hhost, String.toList_ofList] at hafter
    rw [hhost, host_eq, hafter, if_neg hhead, hwhole]
    exact ⟨rfl, port?_of_no_colon fun hmem => absurd (hcolon ':' hmem) (by decide)⟩

def portOr (usual : Option Nat) (a : Authority) : Option Nat :=
  (a.port?.map fun p => Text.ofDigits (p.toList.dropWhile (· == '+'))).or usual

def SamePlace (usual : Option Nat) (a b : Authority) : Prop :=
  lower a.host = lower b.host ∧ a.portOr usual = b.portOr usual

instance (usual : Option Nat) (a b : Authority) : Decidable (SamePlace usual a b) :=
  inferInstanceAs (Decidable (_ ∧ _))

/-- The authority is a host and nothing else, and it is the host of the other one as it is
written. -/
def IsHostOf (a b : Authority) : Prop :=
  a.text = a.host ∧ a.host = b.host

instance (a b : Authority) : Decidable (a.IsHostOf b) :=
  inferInstanceAs (Decidable (_ ∧ _))

theorem isHostOf_iff {a b : Authority} : a.IsHostOf b ↔ a.text = b.host := by
  constructor
  · rintro ⟨htext, hhost⟩
    rw [htext, hhost]
  · intro htext
    obtain rfl : a = Authority.mk b.host := by rw [← htext]
    exact ⟨(host_of_host b).1.symm, (host_of_host b).1⟩

theorem IsHostOf.portOr {a b : Authority} (h : a.IsHostOf b) (usual : Option Nat) :
    a.portOr usual = usual := by
  obtain rfl : a = Authority.mk b.host := by rw [← isHostOf_iff.mp h]
  rw [Authority.portOr, (host_of_host b).2]
  rfl

end Target.Authority

namespace Redirect

open Target.Authority (SamePlace portOr)

variable {limit : Nat} {reader : ErrorReader} {c : Command} {r : Response}

/-! ### Endpoints -/

section Endpoint

variable {a e : Target.Authority} {text : String}

theorem rehost_of_scheme {t : Target} (hscheme : t.scheme.isSome) :
    Command.rehost t e = { t with authority := some e } := by
  obtain ⟨s, hs⟩ := Option.isSome_iff_exists.mp hscheme
  have hpath : t.hasPath = true := by rw [Target.hasPath, hscheme, Bool.true_or, Bool.true_or]
  rw [Command.rehost, if_pos hpath, hs, Option.getD_some, ← hs]

theorem decide_of_endpoint (hmethod : c.request.method ∈ ["GET", "HEAD"])
    (hstatus : r.status = 301 ∨ r.status = 307) (hscheme : c.request.target.scheme.isSome)
    (ha : c.request.target.authority = some a) (hlimit : c.redirects + 1 ≤ limit)
    (hendpoint : (reader r.body).endpoint = some text)
    (he : Target.Authority.parse text = .ok e) :
    decide limit reader c r =
      if e.IsHostOf a then (.giveUp, c.addRedirect)
      else (now, c.addRedirect.setTarget { c.request.target with authority := some e }) := by
  have hnamed : endpoint? reader c.addRedirect r = some text :=
    (if_pos ⟨hmethod, hstatus⟩).trans hendpoint
  have hhost : c.addRedirect.host? = some a.host := by
    rw [Command.host?, Target.host?]
    exact congrArg (Option.map _) ha
  have hmoved : c.addRedirect.changeHost text =
      .ok (c.addRedirect.setTarget { c.request.target with authority := some e }) := by
    rw [Command.changeHost_eq, he, ← rehost_of_scheme hscheme]
    rfl
  obtain rfl : Target.Authority.mk text = e := Target.Authority.eq_of_parse he
  have hwithin : ¬ limit < c.addRedirect.redirects := Nat.not_lt.mpr hlimit
  unfold decide
  dsimp only
  rw [if_neg hwithin, followEndpoint_eq, hnamed, hhost, Option.map_some, Option.getD_some, hmoved]
  by_cases hsame : a.host = text
  · rw [if_pos (congrArg some hsame), if_pos (Target.Authority.isHostOf_iff.mpr hsame.symm)]
  · rw [if_neg fun h => hsame (Option.some.inj h),
      if_neg fun h => hsame (Target.Authority.isHostOf_iff.mp h).symm]

/-- An endpoint is refused if it is the host of the command as it is written, and otherwise the
command is sent there. So an endpoint on another port is refused if the command alone has a port of
its own, and one at the same place is followed if it has anything beside the host or writes the host
in another case. The command is sent again to where it was if the endpoint is its authority but not
its host. -/
theorem endpoint_decision (limit : Nat) (reader : ErrorReader) (c : Command) (r : Response)
    (a e : Target.Authority) (text : String) (usual : Option Nat)
    (hmethod : c.request.method ∈ ["GET", "HEAD"]) (hstatus : r.status = 301 ∨ r.status = 307)
    (hscheme : c.request.target.scheme.isSome) (ha : c.request.target.authority = some a)
    (hlimit : c.redirects + 1 ≤ limit) (hendpoint : (reader r.body).endpoint = some text)
    (he : Target.Authority.parse text = .ok e) :
    decide limit reader c r =
      (if e.IsHostOf a then (.giveUp, c.addRedirect)
      else (now, c.addRedirect.setTarget { c.request.target with authority := some e })) ∧
    ((decide limit reader c r).1 = .giveUp ∧ ¬ SamePlace usual e a ↔
      e.text = e.host ∧ e.host = a.host ∧ a.portOr usual ≠ usual) ∧
    ((decide limit reader c r).1 = now ∧ SamePlace usual e a ↔
      SamePlace usual e a ∧ (e.text ≠ e.host ∨ e.host ≠ a.host)) ∧
    ((decide limit reader c r).1 = now ∧
        (decide limit reader c r).2.request.target.same c.request.target = true ↔
      Target.lower e.text = Target.lower a.text ∧ (e.text ≠ e.host ∨ e.host ≠ a.host)) := by
  have hdecide := decide_of_endpoint hmethod hstatus hscheme ha hlimit hendpoint he
  have hother : ¬ e.IsHostOf a ↔ e.text ≠ e.host ∨ e.host ≠ a.host := Decidable.not_and_iff_not_or_not
  rw [hdecide, ← hother]
  by_cases hhost : e.IsHostOf a
  · -- The endpoint has no port, so it is on the port of the command if that is the usual one.
    have hplace : SamePlace usual e a ↔ a.portOr usual = usual := by
      rw [SamePlace, hhost.2, hhost.portOr usual]
      exact ⟨fun h => h.2.symm, fun h => ⟨rfl, h.symm⟩⟩
    rw [if_pos hhost, hplace]
    exact ⟨rfl, by simp [hhost.1, hhost.2], by simp [hhost, now], by simp [hhost, now]⟩
  · have htarget : ({ c.request.target with authority := some e } : Target).same c.request.target =
        true ↔ Target.lower e.text = Target.lower a.text := by
      simp [Target.same, Target.shownPath, Target.hasPath, ha]
    have hnot : ¬ (e.text = e.host ∧ e.host = a.host ∧ a.portOr usual ≠ usual) :=
      fun h => hhost ⟨h.1, h.2.1⟩
    rw [if_neg hhost]
    refine ⟨rfl, iff_of_false (by simp [now]) hnot, by simp [hhost], ?_⟩
    simp only [hhost, not_false_eq_true, and_true, true_and]
    exact htarget

def visitorAt (authority : String) : Command :=
  (visitor .empty).setTarget
    { scheme := some .https, authority := some ⟨authority⟩, path := "/dir/start", query := none }

def moved (endpoint : String) : Response :=
  { status := 301, headers := .empty, body := "<Endpoint>" ++ endpoint ++ "</Endpoint>" }

theorem endpoint_on_other_host :
    decide defaultRetryLimit ErrorDocument.parse (visitorAt "a.example") (moved "b.example:8443") =
      (now, (visitorAt "b.example:8443").addRedirect) := by
  have hdecide := (endpoint_decision defaultRetryLimit ErrorDocument.parse (visitorAt "a.example")
    (moved "b.example:8443") ⟨"a.example"⟩ ⟨"b.example:8443"⟩ "b.example:8443" (some 443)
    (by decide) (.inl rfl) rfl rfl (by decide) (by decide +kernel) (by decide +kernel)).1
  rwa [if_neg (by decide +kernel)] at hdecide

/-- An endpoint on the port of the command is followed, and one without a port is not. -/
theorem same_port_followed :
    SamePlace (some 443) ⟨"a.example:8443"⟩ ⟨"a.example:8443"⟩ ∧
      decide defaultRetryLimit ErrorDocument.parse (visitorAt "a.example:8443")
        (moved "a.example:8443") = (now, (visitorAt "a.example:8443").addRedirect) ∧
      ¬ SamePlace (some 443) ⟨"a.example"⟩ ⟨"a.example:8443"⟩ ∧
      decide defaultRetryLimit ErrorDocument.parse (visitorAt "a.example:8443")
        (moved "a.example") = (.giveUp, (visitorAt "a.example:8443").addRedirect) := by
  decide +kernel

end Endpoint

/-! ### Locations -/

section Location

variable {u v : Url} {location : String} {t : Target}

def SpelledAs (t : Target) (u : Url) : Prop :=
  ∃ t', Target.parse u.dropFragment.text = .ok t' ∧ t'.same t = true

theorem spelledAs_iff {t' : Target} (h : Target.parse u.dropFragment.text = .ok t) :
    SpelledAs t' u ↔ t.same t' = true := by
  constructor
  · rintro ⟨t'', hwritten, hsame⟩
    obtain rfl : t = t'' := Except.ok.inj (h.symm.trans hwritten)
    exact hsame
  · exact fun hsame => ⟨t, h, hsame⟩

theorem arrival?_of_join (hu : Url.parse c.request.target.text = .ok u)
    (hlocation : location? r = some location) (hv : u.join location = .ok v) :
    arrival? c r = (Target.parse v.text).toOption := by
  have hresolve : c.resolve location = .ok v := by
    rw [Command.resolve, hu]
    exact hv
  rw [arrival?, hlocation, Option.bind_some, hresolve]
  rfl

theorem followLocation_of_no_arrival (h : arrival? c r = none) :
    followLocation c r = (.giveUp, c) := by
  rw [followLocation_eq_arrival, h]

/-- A location that leads to a target is refused if the command has that target already. -/
theorem followLocation_of_arrival (h : arrival? c r = some t) :
    ((followLocation c r).1 = .giveUp ↔ t.same c.request.target = true) ∧
      ((followLocation c r).1 ≠ .giveUp →
        (followLocation c r).1 = now ∧ (followLocation c r).2.request.target = t) := by
  rw [followLocation_eq_arrival, h]
  dsimp only
  by_cases hsame : t.same c.request.target = true
  · rw [if_pos hsame]
    exact ⟨iff_of_true rfl hsame, fun h => absurd rfl h⟩
  · rw [if_neg hsame]
    split
    · exact ⟨iff_of_false nofun hsame, fun _ => ⟨rfl, rfl⟩⟩
    · exact ⟨iff_of_false nofun hsame, fun _ => ⟨rfl, rfl⟩⟩

/-- A location back to the URL of the command is followed to that URL as it is written. -/
theorem followLocation_back (hu : Url.parse c.request.target.text = .ok u)
    (hlocation : r.headers.get? "location" = some location) (hv : u.join location = .ok v)
    (hback : v.dropFragment = u.dropFragment) :
    ((followLocation c r).1 = .giveUp ↔ location? r = none ∨
      (∀ t, Target.parse v.text ≠ .ok t) ∨ SpelledAs c.request.target u) ∧
    ((followLocation c r).1 ≠ .giveUp → (followLocation c r).1 = now ∧
      Target.parse u.dropFragment.text = .ok (followLocation c r).2.request.target) := by
  cases hvisible : location? r with
  | none =>
    have hnowhere : arrival? c r = none := by rw [arrival?, hvisible, Option.bind_none]
    rw [followLocation_of_no_arrival hnowhere]
    exact ⟨iff_of_true rfl (.inl rfl), fun h => absurd rfl h⟩
  | some shown =>
    obtain rfl : location = shown := by
      have hshown := (Option.filter_eq_some_iff.mp hvisible).1
      exact Option.some.inj (hlocation.symm.trans hshown)
    have harrival := arrival?_of_join hu hvisible hv
    cases ht : Target.parse v.text with
    | ok t =>
      have hwritten : Target.parse u.dropFragment.text = .ok t :=
        hback ▸ ((WellFormedUrl.ofParse hu).joined hv).target_of_dropFragment ht
      rw [ht] at harrival
      obtain ⟨hrefused, hfollowed⟩ := followLocation_of_arrival harrival
      rw [hrefused, ← spelledAs_iff hwritten]
      refine ⟨by simp, fun hnot => ?_⟩
      obtain ⟨hnow, htarget⟩ := hfollowed hnot
      exact ⟨hnow, htarget ▸ hwritten⟩
    | error e =>
      rw [ht] at harrival
      have hno : ∀ t, (Except.error e : Except Target.Error Target) ≠ .ok t := by
        rintro t ⟨⟩
      rw [followLocation_of_no_arrival harrival]
      exact ⟨iff_of_true rfl (.inr (.inl hno)), fun h => absurd rfl h⟩

theorem decide_of_no_endpoint (hnone : endpoint? reader c r = none) :
    decide limit reader c r =
      if limit < c.redirects + 1 then (.giveUp, c.addRedirect)
      else followLocation c.addRedirect r := by
  have hendpoint : followEndpoint reader c.addRedirect r = none := by
    rw [followEndpoint_eq]
    exact congrArg (Option.map _) hnone
  unfold decide
  dsimp only
  rw [hendpoint]
  rfl

/-- A location that means the URL of the command is refused exactly if it is not followed at all or
the target of the command is spelled as its URL is written. Otherwise the command is sent again, to
that URL as it is written. -/
theorem location_back_decision (limit : Nat) (reader : ErrorReader) (c : Command) (r : Response)
    (u v : Url) (location : String) (hu : Url.parse c.request.target.text = .ok u)
    (hnone : endpoint? reader c r = none) (hlocation : r.headers.get? "location" = some location)
    (hv : u.join location = .ok v) (hback : v.dropFragment = u.dropFragment) :
    ((decide limit reader c r).1 = .giveUp ↔ limit < c.redirects + 1 ∨ location? r = none ∨
      (∀ t, Target.parse v.text ≠ .ok t) ∨ SpelledAs c.request.target u) ∧
    ((decide limit reader c r).1 ≠ .giveUp → (decide limit reader c r).1 = now ∧
      Target.parse u.dropFragment.text = .ok (decide limit reader c r).2.request.target) := by
  rw [decide_of_no_endpoint hnone]
  by_cases hover : limit < c.redirects + 1
  · rw [if_pos hover]
    exact ⟨iff_of_true rfl (.inl hover), fun h => absurd rfl h⟩
  · rw [if_neg hover]
    obtain ⟨hrefused, hfollowed⟩ := followLocation_back (c := c.addRedirect) hu hlocation hv hback
    exact ⟨hrefused.trans (or_iff_right hover).symm, hfollowed⟩

def startPage : Url :=
  { scheme := "https"
    authority := some { username := "", password := "", host := some (.name "a.example"), port := none }
    path := .rooted ["dir", "start"]
    query := none
    fragment := none }

theorem location_back_to_written_url :
    (decide defaultRetryLimit ErrorDocument.parse (visitorAt "a.example") (found "./start#top")).1 =
      .giveUp :=
  (location_back_decision defaultRetryLimit ErrorDocument.parse (visitorAt "a.example")
    (found "./start#top") startPage { startPage with fragment := some "top" } "./start#top"
    (by decide +kernel) (by decide +kernel) (by decide +kernel) (by decide +kernel) rfl).1.mpr
      (.inr (.inr (.inr ⟨(visitorAt "a.example").request.target, by decide +kernel,
        by decide +kernel⟩)))

/-- A location that leaves out the usual port is followed from where it is written. -/
theorem usual_port_left_out :
    Url.parse (visitorAt "a.example:443").request.target.text = .ok startPage ∧
      startPage.join "start" = .ok startPage ∧
      (decide defaultRetryLimit ErrorDocument.parse (visitorAt "a.example:443")
        (found "start")).1 = now := by
  decide +kernel

end Location

end Redirect

end CloudReach
