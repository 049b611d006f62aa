import CloudReach.Proofs.ResponsePolicy.Course
import CloudReach.Proofs.Retry

/-!
# The budget of a call

A policy that binds its categories to the handlers for redirects and refused requests, in any way,
sends a request only so often: each redirect that is followed counts against the limits of the one
kind, each refusal against those of the other, and a call begins with both counts at zero. So a call
ends, whatever the transport answers, and the bound on its attempts is never reached.
-/

namespace CloudReach

variable {σ : Type} {R C : Nat}

namespace ResponsePolicy

/-- What a category can be bound to, within limits of `R` redirects and `C` refusals. -/
inductive Binding (σ : Type) (R C : Nat)
  | none
  | redirection (limit : Nat) (reader : ErrorReader) (within : limit ≤ R)
  | clientError (policy : ClientError.Policy) (reader : ErrorReader) (draw : Draw σ)
    (within : policy.limit ≤ C)

namespace Binding

def handler : Binding σ R C → Option (RetryHandler σ)
  | none => .none
  | redirection limit reader _ => some (Redirect.handler limit reader)
  | clientError policy reader draw _ => some (ClientError.handler policy reader draw)

def isRedirection : Binding σ R C → Bool
  | redirection _ _ _ => true
  | _ => false

def isClientError : Binding σ R C → Bool
  | clientError _ _ _ _ => true
  | _ => false

end Binding

def ofBindings (interpreters : Category → Interpreter) (b : Category → Binding σ R C) :
    ResponsePolicy σ :=
  let pair k := { interpret := interpreters k, retry := (b k).handler }
  { redirection := pair .redirection
    clientError := pair .clientError
    serverError := pair .serverError }

theorem handlers_ofBindings (interpreters : Category → Interpreter) (b : Category → Binding σ R C)
    (k : Category) : ((ofBindings interpreters b).handlers k).retry = (b k).handler := by
  cases k <;> rfl

/-- The sends of a trace that come after a retry scheduled for one of some categories, with nothing
sent in between. The flag tells whether such a retry is pending at the start. -/
def sendsAfter (q : Category → Bool) : Bool → List Effect → Nat
  | _, [] => 0
  | pending, .sent _ :: rest => (if pending then 1 else 0) + sendsAfter q false rest
  | _, .emitted (.retryScheduled k _ _ _) :: rest => sendsAfter q (q k) rest
  | pending, _ :: rest => sendsAfter q pending rest

/-- What the handler of a binding takes from the counts of a command when it asks for another
try. -/
theorem Binding.retry_counts {b : Binding σ R C} {handler : RetryHandler σ}
    (hh : b.handler = some handler) {c c₁ : Command} {r : Response} {s s₁ : σ} {d : Duration}
    (h : handler c r s = ((.retry d, c₁), s₁)) :
    b.isRedirection = true ∧ b.isClientError = false ∧ c₁.redirects = c.redirects + 1 ∧
        c₁.failures = c.failures ∧ c₁.redirects ≤ R ∨
      b.isRedirection = false ∧ b.isClientError = true ∧ c₁.redirects = c.redirects ∧
        c₁.failures = c.failures + 1 ∧ c₁.failures ≤ C := by
  cases b with
  | none => cases hh
  | redirection limit reader within =>
    cases hh
    obtain ⟨-, hl, hm⟩ := Redirect.decide_retry (congrArg Prod.fst h)
    have hr : c₁.redirects = c.redirects + 1 := hm.redirects
    exact .inl ⟨rfl, rfl, hr, hm.failures, hr ▸ Nat.le_trans hl within⟩
  | clientError policy reader draw within =>
    cases hh
    obtain ⟨-, hl, rfl⟩ := ClientError.handler_retry h
    exact .inr ⟨rfl, rfl, rfl, rfl, Nat.le_trans hl within⟩

/-- Rounds are paid for one by one: those of redirects by the count of redirects, those of refusals
by the count of failures, and neither count passes its limit. -/
theorem Resends.counts {interpreters : Category → Interpreter} {b : Category → Binding σ R C}
    {t : Transport σ} {n : Nat} {c c₁ : Command} {s s₁ : σ}
    {rounds : List Round} (h : Resends (ofBindings interpreters b) t n c s rounds c₁ s₁) :
    c₁.redirects = c.redirects + rounds.countP (fun r => (b r.category).isRedirection) ∧
    c₁.failures = c.failures + rounds.countP (fun r => (b r.category).isClientError) ∧
    rounds.length = rounds.countP (fun r => (b r.category).isRedirection) +
      rounds.countP (fun r => (b r.category).isClientError) ∧
    (c.redirects ≤ R → c₁.redirects ≤ R) ∧ (c.failures ≤ C → c₁.failures ≤ C) := by
  induction h with
  | stay n c s => exact ⟨rfl, rfl, rfl, id, id⟩
  | @again n c c₁ c₂ s s₁ s₂ s₃ s₄ r k handler d rounds _ _ _ retry decision _ ih =>
    rw [handlers_ofBindings] at retry
    obtain ⟨hr, hf, hl, hR, hC⟩ := ih
    rcases Binding.retry_counts retry decision with
      ⟨h₁, h₂, h₃, h₄, h₅⟩ | ⟨h₁, h₂, h₃, h₄, h₅⟩
    all_goals
      simp only [List.countP_cons, List.length_cons, h₁, h₂, if_true, if_false,
        Bool.false_eq_true]
      exact ⟨by omega, by omega, by omega, by omega, by omega⟩

/-! ### Counts in words -/

/-- Whatever is decided, each count grows by one at most. -/
theorem Binding.counts_le {b : Binding σ R C} {handler : RetryHandler σ}
    (hh : b.handler = some handler) {c c₁ : Command} {r : Response} {s s₁ : σ} {d : Decision}
    (h : handler c r s = ((d, c₁), s₁)) :
    c₁.redirects ≤ c.redirects + 1 ∧ c₁.failures ≤ c.failures + 1 := by
  cases b with
  | none => cases hh
  | redirection limit reader within =>
    cases hh
    rcases Redirect.decide_cases (congrArg Prod.fst h) with
      ⟨-, rfl⟩ | ⟨target, -, ⟨-, rfl⟩ | ⟨-, -, rfl | ⟨-, rfl⟩⟩⟩
    all_goals exact ⟨Nat.le_refl _, Nat.le_succ _⟩
  | clientError policy reader draw within =>
    cases hh
    unfold ClientError.handler at h
    split at h
    · dsimp only at h
      split at h
      all_goals
        cases h
        exact ⟨Nat.le_succ _, Nat.le_refl _⟩
    · cases h
      exact ⟨Nat.le_succ _, Nat.le_succ _⟩

def InWords (c : Command) : Prop :=
  c.redirects < UInt64.size ∧ c.failures < UInt64.size

/-- The counts of each command that a call sends, and of what a handler makes of it, are words of 64
bits. Limits may be any words but the greatest, which no count could pass. -/
theorem Resends.inWords {interpreters : Category → Interpreter} {b : Category → Binding σ R C}
    {t : Transport σ} {request : Request} {c : Command} {s s₁ : σ} {rounds : List Round}
    (hR : R + 1 < UInt64.size) (hC : C + 1 < UInt64.size)
    (h : Resends (ofBindings interpreters b) t 1 (.ofRequest request) s rounds c s₁) :
    InWords c ∧ ∀ k handler r s₂ d c₁ s₃,
      ((ofBindings interpreters b).handlers k).retry = some handler →
      handler c r s₂ = ((d, c₁), s₃) → InWords c₁ := by
  obtain ⟨-, -, -, hred, hfail⟩ := h.counts
  have hred : c.redirects ≤ R := hred (Nat.zero_le R)
  have hfail : c.failures ≤ C := hfail (Nat.zero_le C)
  refine ⟨⟨by omega, by omega⟩, fun k handler r s₂ d c₁ s₃ hhandler hdecided => ?_⟩
  rw [handlers_ofBindings] at hhandler
  obtain ⟨hred₁, hfail₁⟩ := Binding.counts_le hhandler hdecided
  exact ⟨by omega, by omega⟩

/-! ### What a trace holds -/

def schedules (q : Category → Bool) : Event → Bool
  | .retryScheduled k _ _ _ => q k
  | _ => false

/-- Each send after a retry needs a retry of its own. -/
theorem sendsAfter_le (q : Category → Bool) (pending : Bool) (trace : List Effect) :
    sendsAfter q pending trace ≤
      (if pending then 1 else 0) + (Effect.events trace).countP (schedules q) := by
  fun_induction sendsAfter q pending trace with
  | case1 => exact Nat.zero_le _
  | case2 pending request rest ih =>
    have he : Effect.events (.sent request :: rest) = Effect.events rest := rfl
    rw [he]
    simp only [Bool.false_eq_true, if_false] at ih
    omega
  | case3 pending k status attempt d rest ih =>
    have he : Effect.events (.emitted (.retryScheduled k status attempt d) :: rest) =
      .retryScheduled k status attempt d :: Effect.events rest := rfl
    have hk : schedules q (.retryScheduled k status attempt d) = q k := rfl
    rw [he, List.countP_cons, hk]
    omega
  | case4 pending e rest _ _ ih =>
    have he : (Effect.events rest).countP (schedules q) ≤
        (Effect.events (e :: rest)).countP (schedules q) := by
      cases e with
      | emitted e =>
        change _ ≤ (e :: Effect.events rest).countP (schedules q)
        rw [List.countP_cons]
        exact Nat.le_add_right _ _
      | _ => exact Nat.le_refl _
    omega

theorem countP_scheduled (q : Category → Bool) (n : Nat) (rounds : List Round) :
    (scheduled n rounds).countP (schedules q) = rounds.countP fun r => q r.category := by
  induction rounds generalizing n with
  | nil => rfl
  | cons r rest ih =>
    rw [scheduled, List.countP_cons, List.countP_cons, ih]
    rfl

theorem Ending.countP_events (q : Category → Bool) (e : Ending) :
    e.events.countP (schedules q) = 0 := by
  cases e <;> rfl

theorem Ending.length_requests_le (e : Ending) : e.requests.length ≤ 1 := by
  cases e <;> simp [requests]

/-- A call that ends within some attempts is the same call whatever more it is allowed. -/
theorem run_resend_add (p : ResponsePolicy σ) (t : Transport σ) (left more n : Nat) (c : Command)
    (s : σ) (h : ((p.resend t.service left n c).run s).2 ≠ none) :
    (p.resend t.service (left + more) n c).run s = (p.resend t.service left n c).run s := by
  induction left generalizing n c s with
  | zero => exact absurd rfl h
  | succ left ih =>
    revert h
    rw [Nat.succ_add, Nat.succ_eq_add_one, (carries_service t).run_resend_succ,
      (carries_service t).run_resend_succ]
    rcases arrive t n s with ⟨e | ⟨⟨⟩⟩, s₁⟩
    · exact fun _ => rfl
    dsimp only
    rcases t.reply c.request s₁ with ⟨e | r, s₂⟩
    · exact fun _ => rfl
    dsimp only
    rcases Category.ofStatus r.status with _ | k
    · exact fun _ => rfl
    dsimp only
    rcases (p.handlers k).retry with _ | handler
    · exact fun _ => rfl
    dsimp only
    rcases handler c r s₂ with ⟨⟨d | _, c₁⟩, s₃⟩
    · intro h
      dsimp only at h ⊢
      rw [ih (n + 1) c₁ s₃ h]
    · exact fun _ => rfl

structure Affordable (b : Category → Binding σ R C) (trace : List Effect) : Prop where
  sends : (Effect.requests trace).length ≤ 1 + R + C
  redirects : sendsAfter (fun k => (b k).isRedirection) false trace ≤ R
  refusals : sendsAfter (fun k => (b k).isClientError) false trace ≤ C

/-- A call that is allowed an attempt for each redirect and each refusal, and one more, ends and is
affordable. -/
theorem call_affordable (interpreters : Category → Interpreter) (b : Category → Binding σ R C)
    (t : Transport σ) (more : Nat) (request : Request) (s : σ) :
    let run := ((ofBindings interpreters b).layer (1 + R + C + more) t.service |>.call request).run s
    run.2 ≠ none ∧ Affordable b run.1 := by
  intro run
  obtain ⟨rounds, c, s₁, ending, hr, hc, ht⟩ := resend_course (ofBindings interpreters b) t
    (Nat.add_comm 1 (1 + R + C + more)) (.ofRequest request) s
  have hc : Closes (ofBindings interpreters b) t _ (1 + rounds.length) c s₁ ending run.2 := hc
  have ht : run.1 = course 1 rounds ++ ending.effects := ht
  obtain ⟨hred, hfail, hlen, hR, hC⟩ := hr.counts
  have hR : c.redirects ≤ R := hR (Nat.zero_le R)
  have hC : c.failures ≤ C := hC (Nat.zero_le C)
  rw [show (Command.ofRequest request).redirects = 0 from rfl, Nat.zero_add] at hred
  rw [show (Command.ofRequest request).failures = 0 from rfl, Nat.zero_add] at hfail
  have after (q : Category → Bool) :
      sendsAfter q false run.1 ≤ rounds.countP fun r => q r.category := by
    have hle := sendsAfter_le q false run.1
    rw [ht, events_course, List.countP_append, countP_scheduled, Ending.countP_events] at hle
    simpa [ht] using hle
  refine ⟨?_, ?_, Nat.le_trans (after _) (hred ▸ hR), Nat.le_trans (after _) (hfail ▸ hC)⟩
  · intro hnone
    rw [hnone] at hc
    cases hc with
    | cutOff beyond => omega
  · have hend := ending.length_requests_le
    rw [ht, requests_course, List.length_append, List.length_map]
    omega

end ResponsePolicy

namespace Service

def sendEach (service : Service σ) : List Request → Act σ (List (Except ProviderError Response))
  | [] => pure []
  | request :: rest => do
    let answer ← service.send request
    let answers ← service.sendEach rest
    return answer :: answers

/-- What holds of the trace of every single call holds of each call of a sequence. -/
theorem run_sendEach {service : Service σ} {P : List Effect → Prop}
    (h : ∀ request s, ((service.send request).run s).2 ≠ none ∧ P ((service.send request).run s).1)
    (requests : List Request) (s : σ) :
    ∃ (calls : List (List Effect × Except ProviderError Response)) (s' : σ),
      (service.sendEach requests).run s =
        ((calls.map Prod.fst).flatten, some (calls.map Prod.snd, s')) ∧
      calls.length = requests.length ∧ ∀ call ∈ calls, P call.1 := by
  induction requests generalizing s with
  | nil => exact ⟨[], s, rfl, rfl, fun _ h => nomatch h⟩
  | cons request rest ih =>
    obtain ⟨hsome, hP⟩ := h request s
    rcases hx : (service.send request).run s with ⟨trace, _ | ⟨answer, s₁⟩⟩
    · exact absurd (congrArg Prod.snd hx) hsome
    · obtain ⟨calls, s', hrun, hlen, hcalls⟩ := ih s₁
      refine ⟨(trace, answer) :: calls, s', ?_, congrArg (· + 1) hlen, ?_⟩
      · rw [sendEach, Act.run_bind_of_some hx, Act.run_bind_of_some hrun]
        simp
      · intro call hcall
        rcases List.mem_cons.mp hcall with rfl | hcall
        · rwa [hx] at hP
        · exact hcalls call hcall

end Service

namespace ResponsePolicy

theorem run_send (p : ResponsePolicy σ) (bound : Nat) (t : Transport σ) (request : Request) (s : σ) :
    ((p.layer bound t.service).send request).run s =
      match t.ready s with
      | (.error e, s₁) => ([], some (.error e, s₁))
      | (.ok (), s₁) => ((p.layer bound t.service).call request).run s₁ := by
  rw [Service.send]
  change (Act.step t.ready >>= _).run s = _
  rw [Act.run_step_bind]
  rcases t.ready s with ⟨e | ⟨⟨⟩⟩, s₁⟩ <;> rfl

/-- Under handlers for redirects and refused requests, bound to the categories in any way, a call
ends within an attempt for each redirect and each refusal and one more: it does so in every world,
whatever more it is allowed, and as one of a sequence of calls on the same service as well as
alone. -/
theorem calls_affordable (interpreters : Category → Interpreter) (b : Category → Binding σ R C)
    (t : Transport σ) (more : Nat) :
    let service := (ofBindings interpreters b).layer (1 + R + C + more) t.service
    (∀ request s, ((service.call request).run s).2 ≠ none ∧
      Affordable b ((service.call request).run s).1 ∧
      (service.call request).run s =
        (((ofBindings interpreters b).layer (1 + R + C) t.service).call request).run s) ∧
    ∀ requests s, ∃ (calls : List (List Effect × Except ProviderError Response)) (s' : σ),
      (service.sendEach requests).run s =
        ((calls.map Prod.fst).flatten, some (calls.map Prod.snd, s')) ∧
      calls.length = requests.length ∧ ∀ call ∈ calls, Affordable b call.1 := by
  intro service
  refine ⟨fun request s => ?_, Service.run_sendEach fun request s => ?_⟩
  · obtain ⟨hends, haff⟩ := call_affordable interpreters b t more request s
    have hleast := (call_affordable interpreters b t 0 request s).1
    exact ⟨hends, haff, run_resend_add _ t (1 + R + C) more 1 (.ofRequest request) s hleast⟩
  · rw [run_send]
    rcases t.ready s with ⟨e | ⟨⟨⟩⟩, s₁⟩
    · exact ⟨Option.some_ne_none _, ⟨Nat.zero_le _, Nat.zero_le _, Nat.zero_le _⟩⟩
    · exact call_affordable interpreters b t more request s₁

end ResponsePolicy

end CloudReach
