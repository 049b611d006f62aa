import CloudReach.Proofs.Redirect.HostHeader
import CloudReach.Proofs.ResponsePolicy.Budget

/-!
# What changes from send to send

Handlers change the command that a call is about, and the next send is made from what they leave. A
refused request is sent again as it was. A redirect that is followed changes the target and the
value of a `Host` header that is there, and after a 303 the method and the body. `After` says so for
one retry; `Keeps` is what is left of it over any number of them.
-/

namespace CloudReach

open Command (hostHeader)

namespace Headers

variable (h : Headers) (name value : String)

theorem filter_ne_setFields (fields : List (String × String)) :
    (setFields name value fields).filter (·.1 ≠ name) = fields.filter (·.1 ≠ name) := by
  induction fields with
  | nil => simp [setFields]
  | cons f rest ih =>
    rw [setFields]
    by_cases hf : f.1 = name
    · rw [if_pos hf, List.filter_cons_of_neg (by simp), List.filter_cons_of_neg (by simpa using hf),
        List.filter_filter]
      simp
    · rw [if_neg hf, List.filter_cons_of_pos (by simpa using hf),
        List.filter_cons_of_pos (by simpa using hf), ih]

theorem values_ne_nil_of_contains (hcontains : h.contains name = true) : h.values name ≠ [] := by
  intro hnil
  rw [(contains_eq_false_iff h name).mpr hnil] at hcontains
  cases hcontains

end Headers

namespace Request

/-- The requests differ at most in method, target and body, and in the value of a `Host` header that
is there. -/
structure Readdressed (a b : Request) : Prop where
  version : b.version = a.version
  headers : b.headers = a.headers ∨
    a.headers.contains hostHeader = true ∧ ∃ value, b.headers = a.headers.set hostHeader value

/-- What a request has of one that was sent before it: its version and its headers, in order, none
added and only a `Host` changed, and its body unless there is none any more. -/
structure Keeps (a b : Request) : Prop where
  version : b.version = a.version
  others : b.headers.fields.filter (·.1 ≠ hostHeader) = a.headers.fields.filter (·.1 ≠ hostHeader)
  hosts : (b.headers.values hostHeader).length ≤ (a.headers.values hostHeader).length
  body : b.body = a.body ∨ b.body = ""

theorem Keeps.refl (a : Request) : a.Keeps a :=
  ⟨rfl, rfl, Nat.le_refl _, .inl rfl⟩

theorem Keeps.trans {a b c : Request} (h : a.Keeps b) (h' : b.Keeps c) : a.Keeps c where
  version := h'.version.trans h.version
  others := h'.others.trans h.others
  hosts := Nat.le_trans h'.hosts h.hosts
  body := by
    rcases h'.body with hb | hb
    · rw [hb]
      exact h.body
    · exact .inr hb

theorem Keeps.body_eq_empty {a b : Request} (h : a.Keeps b) (ha : a.body = "") : b.body = "" := by
  rcases h.body with hb | hb
  · exact hb.trans ha
  · exact hb

theorem Readdressed.keeps {a b : Request} (h : a.Readdressed b)
    (hbody : b.body = a.body ∨ b.body = "") : a.Keeps b := by
  rcases h.headers with heq | ⟨hcontains, value, heq⟩
  · have hhosts : (b.headers.values hostHeader).length = (a.headers.values hostHeader).length := by
      rw [heq]
    exact ⟨h.version, by rw [heq], Nat.le_of_eq hhosts, hbody⟩
  · refine ⟨h.version, ?_, ?_, hbody⟩
    · rw [heq]
      exact Headers.filter_ne_setFields ..
    · rw [heq, Headers.values_set]
      exact List.length_pos_of_ne_nil (a.headers.values_ne_nil_of_contains _ hcontains)

end Request

theorem Command.readdressed_setTarget (c : Command) (t : Target) :
    c.request.Readdressed (c.setTarget t).request where
  version := rfl
  headers := by
    cases h : t.authority with
    | none =>
      left
      unfold setTarget
      rw [h]
    | some a =>
      rw [headers_setTarget c h]
      by_cases hhost : c.request.headers.contains hostHeader = true
      · rw [if_pos hhost]
        exact .inr ⟨hhost, a.text, rfl⟩
      · rw [if_neg hhost]
        exact .inl rfl

namespace Redirect

/-- A 303 names no endpoint. -/
theorem endpoint?_of_see_other (reader : ErrorReader) (c : Command) {r : Response}
    (h : r.status = 303) : endpoint? reader c r = none := by
  unfold endpoint?
  rw [h, if_neg (by simp)]

theorem followLocation_retry {c moved : Command} {r : Response} {d : Duration}
    (h : followLocation c r = (.retry d, moved)) :
    ∃ target, moved =
      if r.status = 303 then (c.setTarget target).convertToGet else c.setTarget target := by
  rw [followLocation_eq_arrival] at h
  cases harrival : arrival? c r with
  | none =>
    rw [harrival] at h
    cases h
  | some target =>
    refine ⟨target, ?_⟩
    rw [harrival] at h
    dsimp only at h
    split at h
    · cases h
    · split at h
      · rename_i h303
        rw [if_pos h303]
        exact (congrArg Prod.snd h).symm
      · rename_i h303
        rw [if_neg h303]
        exact (congrArg Prod.snd h).symm

/-- Where a followed redirect leaves a command, told by the status of the response. -/
theorem decide_retry_status {limit : Nat} {reader : ErrorReader} {c moved : Command} {r : Response}
    {d : Duration} (h : decide limit reader c r = (.retry d, moved)) :
    ∃ target, moved =
      if r.status = 303 then (c.addRedirect.setTarget target).convertToGet
      else c.addRedirect.setTarget target := by
  obtain ⟨-, hlimit, target, hmoved⟩ := decide_retry h
  by_cases h303 : r.status = 303
  · have hnone : followEndpoint reader c.addRedirect r = none := by
      rw [followEndpoint_eq, endpoint?_of_see_other reader _ h303, Option.map_none]
    have hover : ¬ limit < c.addRedirect.redirects := Nat.not_lt_of_le hlimit
    have hlocation : followLocation c.addRedirect r = (.retry d, moved) := by
      unfold decide at h
      rwa [if_neg hover, hnone, Option.getD_none] at h
    exact followLocation_retry hlocation
  · refine ⟨target, ?_⟩
    rw [if_neg h303]
    rcases hmoved with hmoved | ⟨hstatus, -⟩
    · exact hmoved
    · exact absurd hstatus h303

end Redirect

namespace ResponsePolicy

variable {σ : Type} {R C : Nat}

/-- How a send follows from the one before it, whose response was answered by another try. -/
def After (binding : Binding σ R C) (r : Response) (sent next : Request) : Prop :=
  match binding with
  | .none => False
  | .clientError _ _ _ _ => next = sent
  | .redirection _ _ _ =>
    sent.Readdressed next ∧
      if r.status = 303 then next.method = "GET" ∧ next.body = ""
      else next.method = sent.method ∧ next.body = sent.body

theorem After.keeps {binding : Binding σ R C} {r : Response} {sent next : Request}
    (h : After binding r sent next) : sent.Keeps next := by
  cases binding with
  | none => exact h.elim
  | clientError policy reader draw within =>
    obtain rfl : next = sent := h
    exact .refl next
  | redirection limit reader within =>
    obtain ⟨hreaddressed, hrest⟩ := h
    by_cases h303 : r.status = 303
    · rw [if_pos h303] at hrest
      exact hreaddressed.keeps (.inr hrest.2)
    · rw [if_neg h303] at hrest
      exact hreaddressed.keeps (.inl hrest.2)

theorem After.body_eq_empty {binding : Binding σ R C} {r : Response} {sent next : Request}
    (h : After binding r sent next) (hbinding : binding.isRedirection = true)
    (h303 : r.status = 303) : next.body = "" := by
  cases binding with
  | none => exact h.elim
  | clientError policy reader draw within => cases hbinding
  | redirection limit reader within =>
    obtain ⟨-, hrest⟩ := h
    rw [if_pos h303] at hrest
    exact hrest.2

/-- What the handler of a binding leaves to be sent when it asks for another try. -/
theorem Binding.after_of_retry {binding : Binding σ R C} {handler : RetryHandler σ}
    (hh : binding.handler = some handler) {c c₁ : Command} {r : Response} {s s₁ : σ} {d : Duration}
    (h : handler c r s = ((.retry d, c₁), s₁)) : After binding r c.request c₁.request := by
  cases binding with
  | none => cases hh
  | clientError policy reader draw within =>
    cases hh
    obtain ⟨-, -, rfl⟩ := ClientError.handler_retry h
    rfl
  | redirection limit reader within =>
    cases hh
    obtain ⟨target, hmoved⟩ := Redirect.decide_retry_status (congrArg Prod.fst h)
    have hreaddressed := c.addRedirect.readdressed_setTarget target
    by_cases h303 : r.status = 303
    · rw [if_pos h303] at hmoved
      rw [hmoved]
      refine ⟨⟨hreaddressed.version, hreaddressed.headers⟩, ?_⟩
      rw [if_pos h303]
      exact ⟨rfl, rfl⟩
    · rw [if_neg h303] at hmoved
      rw [hmoved]
      refine ⟨hreaddressed, ?_⟩
      rw [if_neg h303]
      exact ⟨rfl, rfl⟩

/-! ### All sends of a call -/

section Run

variable {interpreters : Category → Interpreter} {b : Category → Binding σ R C} {t : Transport σ}
  {n : Nat} {c c₁ : Command} {s s₁ : σ} {rounds : List Round}

/-- The first send is made from the command that a run starts with. -/
theorem Resends.head_sends {p : ResponsePolicy σ} (h : Resends p t n c s rounds c₁ s₁) :
    (rounds.map Round.request ++ [c₁.request]).head? = some c.request := by
  cases h with
  | stay n c s => rfl
  | again _ _ _ _ _ _ => rfl

theorem Resends.after (h : Resends (ofBindings interpreters b) t n c s rounds c₁ s₁) {i : Nat}
    {round : Round} {next : Request} (hround : rounds[i]? = some round)
    (hnext : (rounds.map Round.request ++ [c₁.request])[i + 1]? = some next) :
    After (b round.category) round.response round.request next := by
  induction h generalizing i with
  | stay n c s => cases hround
  | @again n c c₁ c₂ s s₁ s₂ s₃ s₄ r k handler d rounds _ _ _ retry decision rest ih =>
    cases i with
    | zero =>
      cases hround
      rw [handlers_ofBindings] at retry
      have hhead := rest.head_sends
      rw [List.head?_eq_getElem?] at hhead
      obtain rfl : c₁.request = next := Option.some.inj (hhead.symm.trans hnext)
      exact Binding.after_of_retry retry decision
    | succ i => exact ih hround hnext

/-- What all sends have of the first, and each of them of every one before it. -/
theorem Resends.keeps (h : Resends (ofBindings interpreters b) t n c s rounds c₁ s₁) :
    (∀ x ∈ rounds.map Round.request ++ [c₁.request], c.request.Keeps x) ∧
      (rounds.map Round.request ++ [c₁.request]).Pairwise Request.Keeps := by
  induction h with
  | stay n c s =>
    refine ⟨?_, List.pairwise_singleton ..⟩
    intro x hx
    obtain rfl := List.mem_singleton.mp hx
    exact .refl _
  | @again n c c₁ c₂ s s₁ s₂ s₃ s₄ r k handler d rounds _ _ _ retry decision _ ih =>
    obtain ⟨hall, hpairwise⟩ := ih
    rw [handlers_ofBindings] at retry
    have hkeeps := (Binding.after_of_retry retry decision).keeps
    have hlater : ∀ x ∈ rounds.map Round.request ++ [c₂.request], c.request.Keeps x :=
      fun x hx => hkeeps.trans (hall x hx)
    refine ⟨?_, List.pairwise_cons.mpr ⟨hlater, hpairwise⟩⟩
    intro x hx
    rcases List.mem_cons.mp hx with rfl | hx
    · exact .refl _
    · exact hlater x hx

/-- After a 303 that was followed, everything is sent without a body. -/
theorem Resends.bodies_empty (h : Resends (ofBindings interpreters b) t n c s rounds c₁ s₁)
    {i : Nat} {round : Round} (hround : rounds[i]? = some round)
    (hbinding : (b round.category).isRedirection = true) (h303 : round.response.status = 303) :
    ∀ x ∈ (rounds.map Round.request ++ [c₁.request]).drop (i + 1), x.body = "" := by
  intro x hx
  cases hdrop : (rounds.map Round.request ++ [c₁.request]).drop (i + 1) with
  | nil =>
    rw [hdrop] at hx
    cases hx
  | cons next later =>
    have hnext : (rounds.map Round.request ++ [c₁.request])[i + 1]? = some next := by
      rw [← List.head?_drop, hdrop]
      rfl
    have hempty : next.body = "" := (h.after hround hnext).body_eq_empty hbinding h303
    have hlater := h.keeps.2.drop (i := i + 1)
    rw [hdrop] at hx hlater
    rcases List.mem_cons.mp hx with rfl | hx
    · exact hempty
    · exact ((List.pairwise_cons.mp hlater).1 x hx).body_eq_empty hempty

/-- The command that a run ends with is sent, unless the transport is not ready for another attempt
or there is none left. -/
theorem Closes.requests {p : ResponsePolicy σ} {bound : Nat} {ending : Ending}
    {out : Option (Except ProviderError Response × σ)} (h : Closes p t bound n c s ending out) :
    ending.requests = [c.request] ∨ ending.requests = [] ∧ (1 < n ∨ bound < n) := by
  cases h with
  | unready within ready =>
    refine .inr ⟨rfl, .inl ?_⟩
    by_cases hn : 1 < n
    · exact hn
    · rw [arrive, if_neg hn] at ready
      cases ready
  | cutOff beyond => exact .inr ⟨rfl, .inr beyond⟩
  | _ => exact .inl rfl

/-- What is sent starts the list of all commands of a run. -/
theorem Closes.starts {p : ResponsePolicy σ} {bound : Nat} {ending : Ending}
    {out : Option (Except ProviderError Response × σ)} (h : Closes p t bound n c s ending out)
    (before : List Request) : before ++ ending.requests <+: before ++ [c.request] := by
  rw [List.prefix_append_right_inj]
  rcases h.requests with hlast | ⟨hnone, -⟩
  · exact ⟨[], (List.append_nil _).trans hlast⟩
  · rw [hnone]
    exact List.nil_prefix

/-- Something is sent if there are attempts. -/
theorem Closes.sends_ne_nil {p : ResponsePolicy σ} {bound : Nat} {ending : Ending}
    {out : Option (Except ProviderError Response × σ)}
    (h : Closes p t (bound + 1) (1 + rounds.length) c s ending out) :
    rounds.map Round.request ++ ending.requests ≠ [] := by
  intro hnil
  obtain ⟨hrounds, hending⟩ := List.append_eq_nil_iff.mp hnil
  rw [List.map_eq_nil_iff] at hrounds
  subst hrounds
  rcases h.requests with hlast | ⟨-, hlate | hbeyond⟩
  · rw [hending] at hlast
    cases hlast
  · exact absurd hlate (Nat.lt_irrefl 1)
  · rw [List.length_nil] at hbeyond
    omega

end Run

/-- The first request of a call is the caller's, and each later one is what the response before it
and the handler of its category make of the one before it. No header is added, and only a `Host` has
another value than in the caller's request. The body is the caller's until it is dropped for a 303,
and then it stays empty. -/
theorem sends_framed (interpreters : Category → Interpreter) (b : Category → Binding σ R C)
    (t : Transport σ) (bound : Nat) (request : Request) (s : σ) :
    let run := (((ofBindings interpreters b).layer (bound + 1) t.service).call request).run s
    let sends := Effect.requests run.1
    ∃ (rounds : List Round) (c : Command) (s₁ : σ) (ending : Ending),
      Resends (ofBindings interpreters b) t 1 (.ofRequest request) s rounds c s₁ ∧
      run.1 = course 1 rounds ++ ending.effects ∧
      sends = rounds.map Round.request ++ ending.requests ∧
      sends.head? = some request ∧
      (∀ i round next, rounds[i]? = some round → sends[i + 1]? = some next →
        After (b round.category) round.response round.request next) ∧
      sends.Pairwise Request.Keeps ∧
      (∀ x ∈ sends, request.Keeps x) ∧
      ∀ i round, rounds[i]? = some round → (b round.category).isRedirection = true →
        round.response.status = 303 → ∀ x ∈ sends.drop (i + 1), x.body = "" := by
  intro run sends
  obtain ⟨rounds, c, s₁, ending, hr, hc, ht⟩ := resend_course (ofBindings interpreters b) t
    (Nat.add_comm 1 (bound + 1)) (.ofRequest request) s
  have ht : run.1 = course 1 rounds ++ ending.effects := ht
  have hsends : sends = rounds.map Round.request ++ ending.requests := by
    rw [← requests_course 1 rounds ending, ← ht]
  have hne : sends ≠ [] := by
    rw [hsends]
    exact hc.sends_ne_nil
  have hstart : sends <+: rounds.map Round.request ++ [c.request] := by
    rw [hsends]
    exact hc.starts _
  obtain ⟨hall, hpairwise⟩ := hr.keeps
  refine ⟨rounds, c, s₁, ending, hr, ht, hsends, ?_, ?_, hpairwise.sublist hstart.sublist, ?_, ?_⟩
  · have hhead := hr.head_sends
    obtain ⟨rest, hrest⟩ := hstart
    rwa [← hrest, List.head?_append_of_ne_nil _ hne] at hhead
  · intro i round next hround hnext
    apply hr.after hround
    obtain ⟨rest, hrest⟩ := hstart
    rw [← hrest, List.getElem?_append_left (List.getElem?_eq_some_iff.mp hnext).1]
    exact hnext
  · intro x hx
    exact hall x (hstart.subset hx)
  · intro i round hround hbinding h303 x hx
    apply hr.bodies_empty hround hbinding h303
    obtain ⟨rest, hrest⟩ := hstart
    rw [← hrest, List.drop_append]
    exact List.mem_append_left _ hx

end ResponsePolicy

end CloudReach
