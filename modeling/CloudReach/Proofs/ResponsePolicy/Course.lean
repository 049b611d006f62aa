import CloudReach.Proofs.World
import CloudReach.ResponsePolicy

/-!
# The course of a call

A call under a response policy goes through rounds: a command is sent, the response has a category,
and the retry handler of that category asks for another try. Then it ends. `Resends` and `Closes`
say when a round happens and what ends a call; both speak only of the answers of the transport, the
decisions of the handlers and the words of the interpreters.

The trace of a call is that of its rounds, numbered from one, followed by that of its ending.
-/

namespace CloudReach.ResponsePolicy

variable {σ : Type}

structure Round where
  request : Request
  response : Response
  category : Category
  delay : Duration

def Round.effects (attempt : Nat) (r : Round) : List Effect :=
  [.sent r.request, .emitted (.retryScheduled r.category r.response.status attempt r.delay)] ++
    if r.delay.isZero then [] else [.slept r.delay]

def course : Nat → List Round → List Effect
  | _, [] => []
  | attempt, r :: rest => r.effects attempt ++ course (attempt + 1) rest

def scheduled : Nat → List Round → List Event
  | _, [] => []
  | attempt, r :: rest =>
    .retryScheduled r.category r.response.status attempt r.delay :: scheduled (attempt + 1) rest

def waits (rounds : List Round) : List Duration :=
  (rounds.map Round.delay).filter fun d => !d.isZero

inductive Ending
  | unready
  | passed (request : Request)
  | interpreted (request : Request) (category : Category) (status : Nat)
  | gaveUp (request : Request) (category : Category) (status : Nat)
  | cutOff

namespace Ending

def requests : Ending → List Request
  | unready | cutOff => []
  | passed request | interpreted request _ _ | gaveUp request _ _ => [request]

def events : Ending → List Event
  | interpreted _ category status => [.interpreted category status]
  | gaveUp _ category status => [.gaveUp category status, .interpreted category status]
  | _ => []

def effects (e : Ending) : List Effect :=
  e.requests.map .sent ++ e.events.map .emitted

end Ending

/-- The readiness that an attempt waits for. The first one finds the transport ready. -/
def arrive (t : Transport σ) (attempt : Nat) (s : σ) : Except ProviderError Unit × σ :=
  if 1 < attempt then t.ready s else (.ok (), s)

/-- The rounds that lead from a command in one world to a command in another, from an attempt on. -/
inductive Resends (p : ResponsePolicy σ) (t : Transport σ) :
    Nat → Command → σ → List Round → Command → σ → Prop
  | stay (n : Nat) (c : Command) (s : σ) : Resends p t n c s [] c s
  | again {n : Nat} {c c₁ c₂ : Command} {s s₁ s₂ s₃ s₄ : σ} {r : Response} {k : Category}
      {handler : RetryHandler σ} {d : Duration} {rounds : List Round}
      (ready : arrive t n s = (.ok (), s₁))
      (reply : t.reply c.request s₁ = (.ok r, s₂))
      (category : Category.ofStatus r.status = some k)
      (bound : (p.handlers k).retry = some handler)
      (decision : handler c r s₂ = ((.retry d, c₁), s₃))
      (rest : Resends p t (n + 1) c₁ s₃ rounds c₂ s₄) :
      Resends p t n c s (⟨c.request, r, k, d⟩ :: rounds) c₂ s₄

/-- The attempt that ends a call, and the result. An attempt beyond the bound is not made. -/
inductive Closes (p : ResponsePolicy σ) (t : Transport σ) (bound n : Nat) (c : Command) (s : σ) :
    Ending → Option (Except ProviderError Response × σ) → Prop
  | unready {e : ProviderError} {s₁ : σ} (within : n ≤ bound)
      (ready : arrive t n s = (.error e, s₁)) :
      Closes p t bound n c s .unready (some (.error e, s₁))
  | failed {e : ProviderError} {s₁ s₂ : σ} (within : n ≤ bound)
      (ready : arrive t n s = (.ok (), s₁))
      (reply : t.reply c.request s₁ = (.error e, s₂)) :
      Closes p t bound n c s (.passed c.request) (some (.error e, s₂))
  | answered {r : Response} {s₁ s₂ : σ} (within : n ≤ bound)
      (ready : arrive t n s = (.ok (), s₁))
      (reply : t.reply c.request s₁ = (.ok r, s₂))
      (category : Category.ofStatus r.status = none) :
      Closes p t bound n c s (.passed c.request) (some (.ok r, s₂))
  | unhandled {r : Response} {s₁ s₂ : σ} {k : Category} (within : n ≤ bound)
      (ready : arrive t n s = (.ok (), s₁))
      (reply : t.reply c.request s₁ = (.ok r, s₂))
      (category : Category.ofStatus r.status = some k)
      (unbound : (p.handlers k).retry = none) :
      Closes p t bound n c s (.interpreted c.request k r.status)
        (some (.error ((p.handlers k).interpret c r), s₂))
  | refused {r : Response} {s₁ s₂ s₃ : σ} {k : Category} {handler : RetryHandler σ} {c₁ : Command}
      (within : n ≤ bound)
      (ready : arrive t n s = (.ok (), s₁))
      (reply : t.reply c.request s₁ = (.ok r, s₂))
      (category : Category.ofStatus r.status = some k)
      (handled : (p.handlers k).retry = some handler)
      (decision : handler c r s₂ = ((.giveUp, c₁), s₃)) :
      Closes p t bound n c s (.gaveUp c.request k r.status)
        (some (.error ((p.handlers k).interpret c₁ r), s₃))
  | cutOff (beyond : bound < n) : Closes p t bound n c s .cutOff none

/-! ### What the trace of a call holds -/

theorem events_rounds (n : Nat) (rounds : List Round) :
    Effect.events (course n rounds) = scheduled n rounds := by
  induction rounds generalizing n with
  | nil => rfl
  | cons r rest ih =>
    rw [course, Effect.events_append, ih, scheduled, Round.effects]
    split <;> rfl

theorem events_course (n : Nat) (rounds : List Round) (ending : Ending) :
    Effect.events (course n rounds ++ ending.effects) = scheduled n rounds ++ ending.events := by
  rw [Effect.events_append, events_rounds]
  cases ending <;> rfl

theorem sleeps_course (n : Nat) (rounds : List Round) (ending : Ending) :
    Effect.sleeps (course n rounds ++ ending.effects) = waits rounds := by
  induction rounds generalizing n with
  | nil => cases ending <;> rfl
  | cons r rest ih =>
    rw [course, List.append_assoc, Effect.sleeps_append, ih, Round.effects]
    cases hd : r.delay.isZero <;> simp [Effect.sleeps, waits, hd]

theorem requests_rounds (n : Nat) (rounds : List Round) :
    Effect.requests (course n rounds) = rounds.map Round.request := by
  induction rounds generalizing n with
  | nil => rfl
  | cons r rest ih =>
    rw [course, Effect.requests_append, ih, Round.effects]
    split <;> rfl

theorem requests_course (n : Nat) (rounds : List Round) (ending : Ending) :
    Effect.requests (course n rounds ++ ending.effects) =
      rounds.map Round.request ++ ending.requests := by
  rw [Effect.requests_append, requests_rounds]
  cases ending <;> rfl

/-! ### One attempt, and all of them -/

/-- A service that answers as a transport does, and whose calls leave in the trace what is said. -/
structure Carries (inner : Service σ) (t : Transport σ) (seen : Request → σ → List Effect) :
    Prop where
  ready (s : σ) : inner.ready.run s = ([], some (t.ready s))
  call (request : Request) (s : σ) :
    (inner.call request).run s = (seen request s, some (t.reply request s))

theorem carries_service (t : Transport σ) :
    Carries t.service t fun request _ => [.sent request] where
  ready _ := rfl
  call _ _ := rfl

section Attempt

variable {inner : Service σ} {t : Transport σ} {seen : Request → σ → List Effect}

theorem Carries.run_arrive {α : Type} (h : Carries inner t seen) (n : Nat) (s : σ)
    (f : Except ProviderError Unit → Act σ α) :
    (if 1 < n then inner.ready >>= f else pure (.ok ()) >>= f).run s =
      (f (arrive t n s).1).run (arrive t n s).2 := by
  unfold arrive
  split
  · exact Act.run_bind_of_some (h.ready s) f
  · rfl

theorem Carries.run_call {α : Type} (h : Carries inner t seen) (request : Request) (s : σ)
    (f : Except ProviderError Response → Act σ α) :
    (inner.call request >>= f).run s =
      (seen request s ++ ((f (t.reply request s).1).run (t.reply request s).2).1,
        ((f (t.reply request s).1).run (t.reply request s).2).2) :=
  Act.run_bind_of_some (h.call request s) f

/-- One attempt under a policy, whatever service is inside. -/
theorem Carries.run_resend_succ (h : Carries inner t seen) (p : ResponsePolicy σ)
    (left n : Nat) (c : Command) (s : σ) :
    (p.resend inner (left + 1) n c).run s =
      match arrive t n s with
      | (.error e, s₁) => ([], some (.error e, s₁))
      | (.ok (), s₁) =>
        match t.reply c.request s₁ with
        | (.error e, s₂) => (seen c.request s₁, some (.error e, s₂))
        | (.ok r, s₂) =>
          match Category.ofStatus r.status with
          | none => (seen c.request s₁, some (.ok r, s₂))
          | some k =>
            match (p.handlers k).retry with
            | none =>
              (seen c.request s₁ ++ [.emitted (.interpreted k r.status)],
                some (.error ((p.handlers k).interpret c r), s₂))
            | some handler =>
              match handler c r s₂ with
              | ((.retry d, c₁), s₃) =>
                let next := (p.resend inner left (n + 1) c₁).run s₃
                (seen c.request s₁ ++ (.emitted (.retryScheduled k r.status n d) ::
                  (if d.isZero then [] else [.slept d]) ++ next.1), next.2)
              | ((.giveUp, c₁), s₃) =>
                (seen c.request s₁ ++
                  [.emitted (.gaveUp k r.status), .emitted (.interpreted k r.status)],
                  some (.error ((p.handlers k).interpret c₁ r), s₃)) := by
  rw [resend]
  refine (h.run_arrive n s _).trans ?_
  rcases arrive t n s with ⟨_ | _, s₁⟩
  · rfl
  · refine (h.run_call c.request s₁ _).trans ?_
    dsimp only
    rcases t.reply c.request s₁ with ⟨e | r, s₂⟩
    · rw [Act.run_pure, List.append_nil]
    · dsimp only
      cases Category.ofStatus r.status with
      | none => rw [Act.run_pure, List.append_nil]
      | some k =>
        dsimp only
        cases (p.handlers k).retry with
        | none => rfl
        | some handler =>
          dsimp only
          rw [Act.run_step_bind]
          rcases handler c r s₂ with ⟨⟨d | _, c₁⟩, s₃⟩
          · dsimp only
            rw [Act.run_emit_bind]
            cases d.isZero <;> rfl
          · rfl

end Attempt

/-- Attempts from number `n` on, with as many left as the bound allows, go through rounds, not more
than there are attempts, and end. -/
theorem resend_course_within (p : ResponsePolicy σ) (t : Transport σ) {bound left n : Nat}
    (h : n + left = bound + 1) (c : Command) (s : σ) :
    ∃ rounds c₁ s₁ ending,
      Resends p t n c s rounds c₁ s₁ ∧
      Closes p t bound (n + rounds.length) c₁ s₁ ending
        ((p.resend t.service left n c).run s).2 ∧
      ((p.resend t.service left n c).run s).1 = course n rounds ++ ending.effects ∧
      rounds.length ≤ left := by
  induction left generalizing n c s with
  | zero =>
    have beyond : bound < n + ([] : List Round).length := by rw [List.length_nil]; omega
    exact ⟨[], c, s, .cutOff, .stay n c s, .cutOff beyond, rfl, Nat.le_refl 0⟩
  | succ left ih =>
    have within : n + ([] : List Round).length ≤ bound := by rw [List.length_nil]; omega
    have hnone : ([] : List Round).length ≤ left + 1 := Nat.zero_le _
    rw [(carries_service t).run_resend_succ]
    rcases ready : arrive t n s with ⟨e | ⟨⟨⟩⟩, s₁⟩
    · exact ⟨[], c, s, .unready, .stay n c s, .unready within ready, rfl, hnone⟩
    dsimp only
    rcases reply : t.reply c.request s₁ with ⟨e | r, s₂⟩
    · exact ⟨[], c, s, .passed c.request, .stay n c s, .failed within ready reply, rfl,
        hnone⟩
    dsimp only
    rcases category : Category.ofStatus r.status with _ | k
    · exact ⟨[], c, s, .passed c.request, .stay n c s, .answered within ready reply category, rfl,
        hnone⟩
    dsimp only
    rcases retry : (p.handlers k).retry with _ | handler
    · exact ⟨[], c, s, .interpreted c.request k r.status, .stay n c s,
        .unhandled within ready reply category retry, rfl, hnone⟩
    dsimp only
    rcases decision : handler c r s₂ with ⟨⟨d | _, c₁⟩, s₃⟩
    · obtain ⟨rounds, c₂, s₄, ending, hr, hc, ht, hle⟩ := ih (n := n + 1) (by omega) c₁ s₃
      refine ⟨⟨c.request, r, k, d⟩ :: rounds, c₂, s₄, ending,
        .again ready reply category retry decision hr, ?_, ?_, Nat.succ_le_succ hle⟩
      · rwa [List.length_cons, Nat.add_comm rounds.length, ← Nat.add_assoc]
      · dsimp only
        rw [ht, course, List.append_assoc]
        rfl
    · exact ⟨[], c, s, .gaveUp c.request k r.status, .stay n c s,
        .refused within ready reply category retry decision, rfl, hnone⟩

theorem resend_course (p : ResponsePolicy σ) (t : Transport σ) {bound left n : Nat}
    (h : n + left = bound + 1) (c : Command) (s : σ) :
    ∃ rounds c₁ s₁ ending,
      Resends p t n c s rounds c₁ s₁ ∧
      Closes p t bound (n + rounds.length) c₁ s₁ ending
        ((p.resend t.service left n c).run s).2 ∧
      ((p.resend t.service left n c).run s).1 = course n rounds ++ ending.effects := by
  obtain ⟨rounds, c₁, s₁, ending, hr, hc, ht, -⟩ := resend_course_within p t h c s
  exact ⟨rounds, c₁, s₁, ending, hr, hc, ht⟩

/-- One call of a policy around a transport: rounds, numbered without a gap, and an ending. The
events are the scheduled retries and then those of the ending, the waits are the delays that are
any, and each command of a round is sent once. -/
theorem layer_call_course (p : ResponsePolicy σ) (t : Transport σ) (bound : Nat)
    (request : Request) (s : σ) :
    let run := ((p.layer bound t.service).call request).run s
    ∃ rounds c s₁ ending,
      Resends p t 1 (.ofRequest request) s rounds c s₁ ∧
      Closes p t bound (rounds.length + 1) c s₁ ending run.2 ∧
      run.1 = course 1 rounds ++ ending.effects ∧
      Effect.events run.1 = scheduled 1 rounds ++ ending.events ∧
      Effect.sleeps run.1 = waits rounds ∧
      Effect.requests run.1 = rounds.map Round.request ++ ending.requests := by
  intro run
  obtain ⟨rounds, c, s₁, ending, hr, hc, ht⟩ :=
    resend_course p t (Nat.add_comm 1 bound) (.ofRequest request) s
  have ht : run.1 = course 1 rounds ++ ending.effects := ht
  exact ⟨rounds, c, s₁, ending, hr, Nat.add_comm 1 _ ▸ hc, ht,
    ht ▸ events_course 1 rounds ending, ht ▸ sleeps_course 1 rounds ending,
    ht ▸ requests_course 1 rounds ending⟩

end CloudReach.ResponsePolicy
