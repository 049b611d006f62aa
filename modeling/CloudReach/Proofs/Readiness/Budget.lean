import CloudReach.Proofs.Duration
import CloudReach.Proofs.Readiness.Poll

/-!
# The budget of a policy

A poll waits one interval between two attempts, so a poll that uses up its attempts waits the whole
span of its policy, and no other poll waits longer. The budget is that span as long as it counts
every gap: it counts no more than 32 bits of them, and what it leaves out shows unless the interval
is empty or the gaps it does count already fill the longest duration.
-/

namespace CloudReach

namespace ReadinessPolicy

variable (p : ReadinessPolicy)

/-- The time from the first attempt of a policy to the last, cut to the longest duration. -/
def span : Duration :=
  Duration.clamp ((p.maxAttempts.toNat - 1) * p.interval.nanos)

/-- No gap goes missing from the budget: their number has 32 bits, or the others make no
difference. -/
def GapsCounted : Prop :=
  p.maxAttempts.toNat - 1 < UInt32.size ∨ p.interval.nanos = 0 ∨
    Duration.maxNanos ≤ p.interval.nanos * (UInt32.size - 1)

theorem nanos_budget : p.budget.nanos =
    min (p.interval.nanos * min (p.maxAttempts.toNat - 1) (UInt32.size - 1)) Duration.maxNanos :=
  Duration.nanos_mul?_getD_max _ _

theorem nanos_span :
    p.span.nanos = min (p.interval.nanos * (p.maxAttempts.toNat - 1)) Duration.maxNanos := by
  rw [Nat.mul_comm]
  rfl

variable {p}

theorem budget_eq_span (h : p.GapsCounted) : p.budget = p.span := by
  apply Duration.eq_of_nanos
  rw [nanos_budget, nanos_span]
  by_cases hfew : p.maxAttempts.toNat - 1 < UInt32.size
  · rw [Nat.min_eq_left (Nat.le_sub_one_of_lt hfew)]
  · have hcut : min (p.maxAttempts.toNat - 1) (UInt32.size - 1) = UInt32.size - 1 :=
      Nat.min_eq_right (Nat.le_trans (Nat.sub_le ..) (Nat.le_of_not_lt hfew))
    rw [hcut]
    rcases h with hfew' | hzero | hfull
    · exact absurd hfew' hfew
    · rw [hzero, Nat.zero_mul, Nat.zero_mul]
    · have hmore : p.interval.nanos * (UInt32.size - 1) ≤
          p.interval.nanos * (p.maxAttempts.toNat - 1) :=
        Nat.mul_le_mul_left _ (by omega)
      rw [Nat.min_eq_right hfull, Nat.min_eq_right (Nat.le_trans hfull hmore)]

/-- A budget that leaves gaps out is too short. -/
theorem budget_lt_span (h : ¬ p.GapsCounted) : p.budget.nanos < p.span.nanos := by
  unfold GapsCounted at h
  obtain ⟨hmany, hinterval, hroom⟩ : UInt32.size ≤ p.maxAttempts.toNat - 1 ∧
      0 < p.interval.nanos ∧ p.interval.nanos * (UInt32.size - 1) < Duration.maxNanos := by
    omega
  have hcut : min (p.maxAttempts.toNat - 1) (UInt32.size - 1) = UInt32.size - 1 :=
    Nat.min_eq_right (Nat.le_trans (Nat.sub_le ..) hmany)
  have hmore : p.interval.nanos * (UInt32.size - 1) <
      p.interval.nanos * (p.maxAttempts.toNat - 1) := by
    apply Nat.mul_lt_mul_of_pos_left _ hinterval
    exact Nat.lt_of_lt_of_le (by decide) hmany
  rw [nanos_budget, nanos_span, hcut]
  omega

theorem budget_eq_span_iff : p.budget = p.span ↔ p.GapsCounted := by
  constructor
  · intro heq
    by_cases hcounted : p.GapsCounted
    · exact hcounted
    · have hlt := budget_lt_span hcounted
      rw [heq] at hlt
      exact absurd hlt (Nat.lt_irrefl _)
  · exact budget_eq_span

end ReadinessPolicy

namespace Poll

variable {σ ε ι : Type}

/-- A poll waits its interval some times, fewer than it has attempts; one that uses them up waits
between any two of them. -/
theorem sleeps_awaitReady (policy : ReadinessPolicy) (watch : Stopwatch) (check : Check σ ε ι)
    (input : ι) (s : σ) :
    let quiet := (awaitReady policy watch (fun i => (check i).silenced) input).run s
    ∃ waits, Effect.sleeps quiet.1 = List.replicate waits policy.interval ∧
      waits < policy.maxAttempts.toNat ∧
      ∀ s', quiet.2 = some (.ok false, s') → waits + 1 = policy.maxAttempts.toNat := by
  intro quiet
  let silent : Check σ ε ι := fun i => (check i).silenced
  obtain ⟨owns, s₁, hd, hlt, hlast⟩ := exists_denials_lt (check input) policy.attempts_pos s
  have hlt' : (List.replicate owns.length ([] : List Effect)).length <
      policy.maxAttempts.toNat := by
    rwa [List.length_replicate]
  have hdenials : Denials (silent input) s (List.replicate owns.length []) s₁ := hd.silenced
  refine ⟨owns.length, ?_⟩
  rcases h : (check input).run s₁ with ⟨own, _ | ⟨outcome, s₂⟩⟩
  · have hrun : (silent input).run s₁ = ([], none) := by rw [Act.run_silenced, h]
    have hquiet : quiet = _ := run_awaitReady_of_cutOff policy watch hdenials hlt' hrun
    rw [hquiet, Effect.sleeps_append, sleeps_waitedOut]
    refine ⟨List.append_nil _, hlt, ?_⟩
    intro s' hs'
    cases hs'
  · have hfalse : outcome = .ok false → owns.length + 1 = policy.maxAttempts.toNat := by
      rintro rfl
      exact hlast own s₂ h
    have hrun : (silent input).run s₁ = ([], some (outcome, s₂)) := by rw [Act.run_silenced, h]
    have hquiet : quiet = _ :=
      run_awaitReady policy watch hdenials hlt' hrun (by rwa [List.length_replicate])
    rw [hquiet, Effect.sleeps_append, sleeps_waitedOut]
    refine ⟨List.append_nil _, hlt, ?_⟩
    intro s' hs'
    cases hs'
    exact hfalse rfl

/-- No poll waits longer than the span of its policy, and one that is exhausted waits all of it. The
budget of the policy is that span exactly if it counts every gap; if it does not, an exhausted poll
waits longer than the budget. -/
theorem budget_covers_waits (policy : ReadinessPolicy) (watch : Stopwatch) (check : Check σ ε ι)
    (input : ι) (s : σ) :
    let quiet := (awaitReady policy watch (fun i => (check i).silenced) input).run s
    let waited := Duration.total (Effect.sleeps quiet.1)
    (policy.budget = policy.span ↔ policy.GapsCounted) ∧
    waited ≤ policy.span ∧
    (∀ s', quiet.2 = some (.ok false, s') → waited = policy.span) ∧
    (policy.GapsCounted → waited ≤ policy.budget) ∧
    (¬ policy.GapsCounted → ∀ s', quiet.2 = some (.ok false, s') →
      policy.budget.nanos < waited.nanos) := by
  intro quiet waited
  obtain ⟨waits, hsleeps, hlt, hlast⟩ := sleeps_awaitReady policy watch check input s
  have hwaited : waited = Duration.clamp (waits * policy.interval.nanos) :=
    (congrArg Duration.total hsleeps).trans (Duration.total_replicate ..)
  have hle : waited ≤ policy.span := by
    rw [hwaited]
    apply Duration.clamp_le_clamp
    apply Nat.mul_le_mul_right
    omega
  have hexhausted : ∀ s', quiet.2 = some (.ok false, s') → waited = policy.span := by
    intro s' hs'
    have hall : waits = policy.maxAttempts.toNat - 1 := by
      have hwaits := hlast s' hs'
      omega
    rw [hwaited, hall]
    rfl
  refine ⟨ReadinessPolicy.budget_eq_span_iff, hle, hexhausted, ?_, ?_⟩
  · intro hcounted
    rw [ReadinessPolicy.budget_eq_span hcounted]
    exact hle
  · intro hnot s' hs'
    rw [hexhausted s' hs']
    exact ReadinessPolicy.budget_lt_span hnot

def denying : Check Unit Unit Unit :=
  fun _ => return .ok false

theorem denials_denying (k : Nat) : Denials (denying ()) () (List.replicate k []) () := by
  induction k with
  | zero => exact .stay ()
  | succ k ih => exact .deny rfl ih

/-- A poll of a check that always denies is exhausted, and has waited the span of its policy. -/
theorem run_awaitReady_denying (policy : ReadinessPolicy) (watch : Stopwatch) :
    let run := (awaitReady policy watch denying ()).run ()
    run.2 = some (.ok false, ()) ∧ Duration.total (Effect.sleeps run.1) = policy.span := by
  intro run
  have hpos := policy.attempts_pos
  have hdeny : (denying ()).run () = ([], some (.ok false, ())) := rfl
  have hrun : run = _ :=
    run_awaitReady policy watch (denials_denying (policy.maxAttempts.toNat - 1))
      (by rw [List.length_replicate]; omega) hdeny (by rw [List.length_replicate]; omega)
  rw [hrun, Effect.sleeps_append, sleeps_waitedOut]
  refine ⟨rfl, ?_⟩
  exact (congrArg Duration.total (List.append_nil _)).trans (Duration.total_replicate ..)

/-- Of as many gaps as 32 bits count and one more, a nanosecond each, the budget leaves out one. -/
theorem budget_of_many_attempts :
    ∃ p, ReadinessPolicy.build "p" 4294967297 ⟨1, by decide⟩ = .ok p ∧
      p.budget.nanos = 4294967295 ∧
      min ((p.maxAttempts.toNat - 1) * p.interval.nanos) Duration.maxNanos = 4294967296 ∧
      ((awaitReady p .clock denying ()).run ()).2 = some (.ok false, ()) ∧
      p.budget.nanos <
        (Duration.total (Effect.sleeps ((awaitReady p .clock denying ()).run ()).1)).nanos := by
  refine ⟨⟨"p", 4294967297, ⟨1, by decide⟩, by decide⟩, rfl, ?_⟩
  generalize hp : (⟨"p", 4294967297, ⟨1, by decide⟩, by decide⟩ : ReadinessPolicy) = p
  obtain ⟨hexhausted, hwaited⟩ := run_awaitReady_denying p .clock
  rw [hwaited]
  subst hp
  exact ⟨by decide, by decide, hexhausted, by decide⟩

end Poll

end CloudReach
