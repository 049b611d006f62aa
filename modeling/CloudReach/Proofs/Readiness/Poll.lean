import CloudReach.Proofs.World
import CloudReach.Readiness.Poll

/-!
# The course of a poll

A poll evaluates its check until an outcome decides, and each evaluation that denies is waited out.
`Denials` says which evaluations those are, and what they did to the world; the one after them
decides, because it holds, because it fails, or because it was the last that the policy allows.
-/

namespace CloudReach.Poll

variable {σ ε ι : Type}

/-- Evaluations that deny, one after the other, with what each of them left in the trace. -/
inductive Denials (check : Act σ (Except ε Bool)) : σ → List (List Effect) → σ → Prop
  | stay (s : σ) : Denials check s [] s
  | deny {s s₁ s₂ : σ} {own : List Effect} {owns : List (List Effect)}
      (denied : check.run s = (own, some (.ok false, s₁))) (rest : Denials check s₁ owns s₂) :
      Denials check s (own :: owns) s₂

/-- An evaluation in the trace: announced, made, and followed by what the check does itself. -/
def evaluation (policy : ReadinessPolicy) (attempt : Nat) (own : List Effect) : List Effect :=
  .emitted (.attempt policy.name attempt) :: .checked :: own

def waitedOut (policy : ReadinessPolicy) : Nat → List (List Effect) → List Effect
  | _, [] => []
  | attempt, own :: rest =>
    evaluation policy attempt own ++ .slept policy.interval :: waitedOut policy (attempt + 1) rest

def announced (policy : ReadinessPolicy) (attempt k : Nat) : List Event :=
  (List.range' attempt k).map (Event.attempt policy.name)

def closing (policy : ReadinessPolicy) (attempt : Nat) (elapsed : Duration) :
    Except ε Bool → Event
  | .ok true => .ready policy.name attempt elapsed
  | .ok false => .exhausted policy.name attempt elapsed
  | .error _ => .checkFailed policy.name attempt

theorem run_resume_of_decided {policy : ReadinessPolicy} (watch : Stopwatch)
    {check : Act σ (Except ε Bool)} {left attempt : Nat} {s s₁ : σ} {own : List Effect}
    {outcome : Except ε Bool} (h : check.run s = (own, some (outcome, s₁)))
    (hlast : outcome = .ok false → left = 0 ∧ attempt = policy.maxAttempts.toNat) :
    (resume policy watch check (left + 1) attempt).run s =
      (evaluation policy attempt own ++
        [.emitted (closing policy attempt (watch.shows policy.interval attempt) outcome)],
        some (outcome, s₁)) := by
  rw [resume, Act.run_emit_bind, Act.run_note_bind, Act.run_bind_of_some h]
  rcases outcome with e | _ | _
  · rfl
  · obtain ⟨rfl, rfl⟩ := hlast rfl
    rfl
  · rfl

theorem run_resume_of_denied (policy : ReadinessPolicy) (watch : Stopwatch)
    {check : Act σ (Except ε Bool)} {left : Nat} (hleft : 0 < left) (attempt : Nat) {s s₁ : σ}
    {own : List Effect} (h : check.run s = (own, some (.ok false, s₁))) :
    (resume policy watch check (left + 1) attempt).run s =
      let next := (resume policy watch check left (attempt + 1)).run s₁
      (evaluation policy attempt own ++ .slept policy.interval :: next.1, next.2) := by
  rw [resume, Act.run_emit_bind, Act.run_note_bind, Act.run_bind_of_some h]
  dsimp only
  rw [if_neg (Nat.pos_iff_ne_zero.mp hleft), Act.run_sleep_bind]
  rfl

theorem run_resume_of_cutOff (policy : ReadinessPolicy) (watch : Stopwatch)
    {check : Act σ (Except ε Bool)} (left attempt : Nat) {s : σ} {own : List Effect}
    (h : check.run s = (own, none)) :
    (resume policy watch check (left + 1) attempt).run s =
      (evaluation policy attempt own, none) := by
  rw [resume, Act.run_emit_bind, Act.run_note_bind, Act.run_bind_of_none h]
  rfl

theorem run_resume_of_denials (policy : ReadinessPolicy) (watch : Stopwatch)
    {check : Act σ (Except ε Bool)} {s s₁ : σ} {owns : List (List Effect)}
    (h : Denials check s owns s₁) (left attempt : Nat) :
    (resume policy watch check (left + 1 + owns.length) attempt).run s =
      let rest := (resume policy watch check (left + 1) (attempt + owns.length)).run s₁
      (waitedOut policy attempt owns ++ rest.1, rest.2) := by
  induction h generalizing attempt with
  | stay s => rfl
  | @deny s s₁ s₂ own owns denied rest ih =>
    rw [List.length_cons, ← Nat.add_assoc,
      run_resume_of_denied policy watch (by omega) attempt denied, ih]
    simp [waitedOut, Nat.add_assoc, Nat.add_comm 1]

/-- There is a longest row of evaluations that deny, of at most a given length. -/
theorem exists_denials (check : Act σ (Except ε Bool)) (most : Nat) (s : σ) :
    ∃ owns s₁, Denials check s owns s₁ ∧ owns.length ≤ most ∧
      ∀ own s₂, check.run s₁ = (own, some (.ok false, s₂)) → owns.length = most := by
  induction most generalizing s with
  | zero => exact ⟨[], s, .stay s, Nat.le_refl 0, fun _ _ _ => rfl⟩
  | succ most ih =>
    by_cases denied : ∃ own s₁, check.run s = (own, some (.ok false, s₁))
    · obtain ⟨own, s₁, denied⟩ := denied
      obtain ⟨owns, s₂, rest, hle, hmost⟩ := ih s₁
      exact ⟨own :: owns, s₂, .deny denied rest, Nat.succ_le_succ hle,
        fun own s₃ h => congrArg (· + 1) (hmost own s₃ h)⟩
    · exact ⟨[], s, .stay s, Nat.zero_le _, fun own s₁ h => absurd ⟨own, s₁, h⟩ denied⟩

/-- Of a number of attempts the last is not waited out, so the longest row of them that deny and are
waited out is shorter; a denial after it is the last attempt. -/
theorem exists_denials_lt (check : Act σ (Except ε Bool)) {attempts : Nat} (hpos : 0 < attempts)
    (s : σ) :
    ∃ owns s₁, Denials check s owns s₁ ∧ owns.length < attempts ∧
      ∀ own s₂, check.run s₁ = (own, some (.ok false, s₂)) → owns.length + 1 = attempts := by
  obtain ⟨owns, s₁, hd, hle, hmost⟩ := exists_denials check (attempts - 1) s
  refine ⟨owns, s₁, hd, by omega, fun own s₂ h => ?_⟩
  have hall := hmost own s₂ h
  omega

theorem Denials.silenced {check : Act σ (Except ε Bool)} {s s₁ : σ} {owns : List (List Effect)}
    (h : Denials check s owns s₁) :
    Denials check.silenced s (List.replicate owns.length []) s₁ := by
  induction h with
  | stay s => exact .stay s
  | deny denied _ ih => exact .deny (by rw [Act.run_silenced, denied]) ih

/-! ### What a poll does itself -/

theorem announced_succ (policy : ReadinessPolicy) (attempt k : Nat) :
    announced policy attempt (k + 1) =
      announced policy attempt k ++ [.attempt policy.name (attempt + k)] := by
  rw [announced, List.range'_concat, List.map_append, Nat.one_mul]
  rfl

theorem checks_waitedOut (policy : ReadinessPolicy) (attempt k : Nat) :
    Effect.checks (waitedOut policy attempt (List.replicate k [])) = k := by
  induction k generalizing attempt with
  | zero => rfl
  | succ k ih =>
    rw [List.replicate_succ, waitedOut, Effect.checks_append]
    change 1 + Effect.checks (waitedOut policy (attempt + 1) (List.replicate k [])) = k + 1
    rw [ih, Nat.add_comm]

theorem sleeps_waitedOut (policy : ReadinessPolicy) (attempt k : Nat) :
    Effect.sleeps (waitedOut policy attempt (List.replicate k [])) =
      List.replicate k policy.interval := by
  induction k generalizing attempt with
  | zero => rfl
  | succ k ih =>
    rw [List.replicate_succ, waitedOut, Effect.sleeps_append, List.replicate_succ, ← ih]
    rfl

theorem events_waitedOut (policy : ReadinessPolicy) (attempt k : Nat) :
    Effect.events (waitedOut policy attempt (List.replicate k [])) = announced policy attempt k := by
  induction k generalizing attempt with
  | zero => rfl
  | succ k ih =>
    rw [List.replicate_succ, waitedOut, Effect.events_append]
    change _ :: Effect.events (waitedOut policy (attempt + 1) (List.replicate k [])) = _
    rw [ih]
    rfl

/-- A poll whose check denies for a while, and then gives an outcome that decides. -/
theorem run_awaitReady (policy : ReadinessPolicy) (watch : Stopwatch) {check : Check σ ε ι}
    {input : ι} {s s₁ s₂ : σ} {owns : List (List Effect)} {own : List Effect}
    {outcome : Except ε Bool} (hd : Denials (check input) s owns s₁)
    (hle : owns.length < policy.maxAttempts.toNat)
    (h : (check input).run s₁ = (own, some (outcome, s₂)))
    (hlast : outcome = .ok false → owns.length + 1 = policy.maxAttempts.toNat) :
    (awaitReady policy watch check input).run s =
      (waitedOut policy 1 owns ++ (evaluation policy (owns.length + 1) own ++
        [.emitted (closing policy (owns.length + 1)
          (watch.shows policy.interval (owns.length + 1)) outcome)]), some (outcome, s₂)) := by
  obtain ⟨left, hleft⟩ := Nat.exists_eq_add_of_lt hle
  have hM : policy.maxAttempts.toNat = left + 1 + owns.length := by omega
  rw [awaitReady, hM, run_resume_of_denials policy watch hd, Nat.add_comm 1,
    run_resume_of_decided watch h fun hf => ?_]
  have hf := hlast hf
  exact ⟨by omega, hf⟩

/-- A poll whose check denies for a while, and then never answers. -/
theorem run_awaitReady_of_cutOff (policy : ReadinessPolicy) (watch : Stopwatch)
    {check : Check σ ε ι} {input : ι} {s s₁ : σ} {owns : List (List Effect)} {own : List Effect}
    (hd : Denials (check input) s owns s₁) (hle : owns.length < policy.maxAttempts.toNat)
    (h : (check input).run s₁ = (own, none)) :
    (awaitReady policy watch check input).run s =
      (waitedOut policy 1 owns ++ evaluation policy (owns.length + 1) own, none) := by
  obtain ⟨left, hleft⟩ := Nat.exists_eq_add_of_lt hle
  have hM : policy.maxAttempts.toNat = left + 1 + owns.length := by omega
  rw [awaitReady, hM, run_resume_of_denials policy watch hd, Nat.add_comm 1,
    run_resume_of_cutOff policy watch left _ h]

/-- A poll evaluates its check until an outcome decides. Up to the evaluation that does, all have
denied and have been waited out; it denies itself only if it is the last that the policy allows. The
counts are those of the poll under a check that leaves no trace of its own. -/
theorem awaitReady_course (policy : ReadinessPolicy) (watch : Stopwatch) (check : Check σ ε ι)
    (input : ι) (s : σ) :
    ∃ owns s₁, Denials (check input) s owns s₁ ∧ owns.length < policy.maxAttempts.toNat ∧
      match (check input).run s₁ with
      | (own, none) =>
        (awaitReady policy watch check input).run s =
          (waitedOut policy 1 owns ++ evaluation policy (owns.length + 1) own, none)
      | (own, some (outcome, s₂)) =>
        let k := owns.length + 1
        let final := closing policy k (watch.shows policy.interval k) outcome
        let quiet := (awaitReady policy watch (fun i => (check i).silenced) input).run s
        (outcome = .ok false → k = policy.maxAttempts.toNat) ∧
        (awaitReady policy watch check input).run s =
          (waitedOut policy 1 owns ++ (evaluation policy k own ++ [.emitted final]),
            some (outcome, s₂)) ∧
        quiet.2 = some (outcome, s₂) ∧
        Effect.checks quiet.1 = k ∧
        Effect.sleeps quiet.1 = List.replicate owns.length policy.interval ∧
        Effect.events quiet.1 = announced policy 1 k ++ [final] := by
  have hpos := policy.attempts_pos
  obtain ⟨owns, s₁, hd, hle, hlast⟩ :=
    exists_denials (check input) (policy.maxAttempts.toNat - 1) s
  have hlt : owns.length < policy.maxAttempts.toNat := by omega
  refine ⟨owns, s₁, hd, hlt, ?_⟩
  rcases h : (check input).run s₁ with ⟨own, _ | ⟨outcome, s₂⟩⟩
  · exact run_awaitReady_of_cutOff policy watch hd hlt h
  dsimp -zeta only
  intro k final quiet
  have hfalse : outcome = .ok false → k = policy.maxAttempts.toNat := by
    rintro rfl
    have hmost := hlast own s₂ h
    omega
  have hquiet : (awaitReady policy watch (fun i => (check i).silenced) input).run s = _ :=
    run_awaitReady policy watch hd.silenced (by rwa [List.length_replicate])
      (by rw [Act.run_silenced, h]) (by rwa [List.length_replicate])
  have hquiet : quiet = _ := hquiet
  rw [List.length_replicate] at hquiet
  refine ⟨hfalse, run_awaitReady policy watch hd hlt h hfalse, congrArg Prod.snd hquiet,
    ?_, ?_, ?_⟩
  · rw [hquiet, Effect.checks_append, checks_waitedOut]
    rfl
  · rw [hquiet, Effect.sleeps_append, sleeps_waitedOut]
    exact List.append_nil _
  · rw [hquiet, Effect.events_append, events_waitedOut]
    have hk : announced policy 1 k = announced policy 1 owns.length ++ [.attempt policy.name k] := by
      rw [announced_succ, Nat.add_comm 1]
    rw [hk, List.append_assoc]
    rfl

end CloudReach.Poll
