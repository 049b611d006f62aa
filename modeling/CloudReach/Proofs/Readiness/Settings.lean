import CloudReach.Proofs.Jitter
import CloudReach.Proofs.Readiness.Budget
import Mathlib.Order.Bounds.Basic

/-!
# Settings of a policy

Settings count an interval in whole milliseconds, as jitter counts a delay: rounded down and cut to
64 bits. What is left is the longest duration within the interval that can be counted like that, so
a policy comes back from its settings as it was if its interval is one of these, and settings always
come back from the policy that they make. An interval that is no longer changes nothing about the
course of a poll but its waits.
-/

namespace CloudReach

namespace Duration

def IsWholeMillis (d : Duration) : Prop :=
  ∃ ms < UInt64.size, d.nanos = ms * milli

/-- Counted in 64 bits of milliseconds, a duration becomes the longest one within it that is counted
exactly. -/
theorem isGreatest_ofMillis (d : Duration) :
    IsGreatest {e | e.IsWholeMillis ∧ e ≤ d} (ofMillis (Jitter.wholeMillis d)) := by
  have hcount : (Jitter.wholeMillis d).toNat = min d.millis (UInt64.size - 1) :=
    Jitter.toNat_wholeMillis d
  constructor
  · refine ⟨⟨_, (Jitter.wholeMillis d).toNat_lt_size, rfl⟩, ?_⟩
    calc (Jitter.wholeMillis d).toNat * milli
        ≤ d.millis * milli := Nat.mul_le_mul_right _ (hcount ▸ Nat.min_le_left _ _)
      _ ≤ d.nanos := Nat.div_mul_le_self _ _
  · rintro e ⟨⟨ms, hms, he⟩, hle⟩
    have hwithin : ms ≤ d.millis := by
      rw [millis, Nat.le_div_iff_mul_le (by decide), ← he]
      exact hle
    have hms' : ms ≤ (Jitter.wholeMillis d).toNat := by
      rw [hcount]
      exact Nat.le_min.mpr ⟨hwithin, Nat.le_sub_one_of_lt hms⟩
    calc e.nanos = ms * milli := he
      _ ≤ (Jitter.wholeMillis d).toNat * milli := Nat.mul_le_mul_right _ hms'

theorem ofMillis_wholeMillis_eq_iff (d : Duration) :
    ofMillis (Jitter.wholeMillis d) = d ↔ d.IsWholeMillis := by
  obtain ⟨⟨hwhole, hle⟩, hgreatest⟩ := isGreatest_ofMillis d
  constructor
  · intro heq
    rwa [heq] at hwhole
  · intro hd
    exact eq_of_nanos (Nat.le_antisymm hle (hgreatest ⟨hd, Nat.le_refl _⟩))

theorem wholeMillis_ofMillis (m : UInt64) : Jitter.wholeMillis (ofMillis m) = m := by
  rw [← UInt64.toNat_inj, Jitter.toNat_wholeMillis, millis_ofMillis]
  exact Nat.min_eq_left (Nat.le_sub_one_of_lt m.toNat_lt_size)

end Duration

/-! ### Policies and settings -/

namespace ReadinessPolicy

variable {p q : ReadinessPolicy}

theorem build_eq_ok_iff {name : String} {attempts : UInt64} {interval : Duration} :
    build name attempts interval = .ok p ↔
      p.name = name ∧ p.maxAttempts = attempts ∧ p.interval = interval := by
  constructor
  · intro h
    unfold build at h
    split at h
    · cases h
      exact ⟨rfl, rfl, rfl⟩
    · cases h
  · rintro ⟨rfl, rfl, rfl⟩
    exact dif_pos p.attempts_pos

theorem span_le_span (hattempts : q.maxAttempts = p.maxAttempts)
    (hinterval : q.interval ≤ p.interval) : q.span ≤ p.span := by
  apply Duration.clamp_le_clamp
  rw [hattempts]
  exact Nat.mul_le_mul_left _ hinterval

end ReadinessPolicy

namespace PolicySettings

variable {s : PolicySettings} {name : String}

/-- The policies that settings make: those that have these settings, and lost nothing to them. -/
theorem policy_eq_ok_iff {p : ReadinessPolicy} :
    s.policy name = .ok p ↔ p.name = name ∧ p.settings = s ∧ p.interval.IsWholeMillis := by
  rw [policy, ReadinessPolicy.build_eq_ok_iff]
  constructor
  · rintro ⟨hname, hattempts, hinterval⟩
    have hmillis : Jitter.wholeMillis p.interval = s.intervalMillis := by
      rw [hinterval, Duration.wholeMillis_ofMillis]
    refine ⟨hname, ?_, _, s.intervalMillis.toNat_lt_size, congrArg Duration.nanos hinterval⟩
    cases s
    exact congrArg₂ PolicySettings.mk hattempts hmillis
  · rintro ⟨hname, rfl, hwhole⟩
    exact ⟨hname, rfl, ((Duration.ofMillis_wholeMillis_eq_iff p.interval).mpr hwhole).symm⟩

theorem exists_policy_iff :
    (∃ p, s.policy name = .ok p ∧ p.name = name ∧ p.settings = s) ↔ 0 < s.maxAttempts.toNat := by
  constructor
  · rintro ⟨p, -, -, rfl⟩
    exact p.attempts_pos
  · intro hpos
    let p : ReadinessPolicy := ⟨name, s.maxAttempts, .ofMillis s.intervalMillis, hpos⟩
    have hp : s.policy name = .ok p := ReadinessPolicy.build_eq_ok_iff.mpr ⟨rfl, rfl, rfl⟩
    obtain ⟨hname, hsettings, -⟩ := policy_eq_ok_iff.mp hp
    exact ⟨p, hp, hname, hsettings⟩

end PolicySettings

/-! ### Polls with shorter intervals -/

namespace Poll

variable {σ ε ι : Type} {p q : ReadinessPolicy}

theorem sleeps_evaluation (p : ReadinessPolicy) (attempt : Nat) (own : List Effect) :
    Effect.sleeps (evaluation p attempt own) = Effect.sleeps own := rfl

theorem forall₂_le_refl (ds : List Duration) : List.Forall₂ (· ≤ ·) ds ds :=
  List.forall₂_same.mpr fun d _ => Nat.le_refl d.nanos

theorem forall₂_sleeps_waitedOut (h : q.interval ≤ p.interval) (attempt : Nat)
    (owns : List (List Effect)) :
    List.Forall₂ (· ≤ ·) (Effect.sleeps (waitedOut q attempt owns))
      (Effect.sleeps (waitedOut p attempt owns)) := by
  induction owns generalizing attempt with
  | nil => exact .nil
  | cons own rest ih =>
    rw [waitedOut, waitedOut, Effect.sleeps_append, Effect.sleeps_append]
    exact List.rel_append (forall₂_le_refl (Effect.sleeps own)) (.cons h (ih (attempt + 1)))

/-- With the same attempts and an interval that is no longer, a poll ends as it does, and every wait
has one in its place that is no longer. -/
theorem run_awaitReady_of_le (hattempts : q.maxAttempts = p.maxAttempts)
    (hinterval : q.interval ≤ p.interval) (watch : Stopwatch) (check : Check σ ε ι) (input : ι)
    (w : σ) :
    let short := (awaitReady q watch check input).run w
    let long := (awaitReady p watch check input).run w
    short.2 = long.2 ∧
      List.Forall₂ (· ≤ ·) (Effect.sleeps short.1) (Effect.sleeps long.1) := by
  -- The row of denials comes from the check and the attempts alone, so both polls wait it out.
  obtain ⟨owns, w₁, hd, hlt, hlast⟩ := exists_denials_lt (check input) p.attempts_pos w
  have hlt' : owns.length < q.maxAttempts.toNat := hattempts ▸ hlt
  have hwaits := forall₂_sleeps_waitedOut hinterval 1 owns
  rcases h : (check input).run w₁ with ⟨own, _ | ⟨outcome, w₂⟩⟩
  · rw [run_awaitReady_of_cutOff q watch hd hlt' h, run_awaitReady_of_cutOff p watch hd hlt h]
    refine ⟨rfl, ?_⟩
    rw [Effect.sleeps_append, Effect.sleeps_append, sleeps_evaluation, sleeps_evaluation]
    exact List.rel_append hwaits (forall₂_le_refl _)
  · have hfalse : outcome = .ok false → owns.length + 1 = p.maxAttempts.toNat := by
      rintro rfl
      exact hlast own w₂ h
    rw [run_awaitReady q watch hd hlt' h (hattempts ▸ hfalse),
      run_awaitReady p watch hd hlt h hfalse]
    refine ⟨rfl, ?_⟩
    simp only [Effect.sleeps_append, sleeps_evaluation]
    exact List.rel_append hwaits (forall₂_le_refl _)

/-- Settings make a policy of any name if they allow an attempt, and they are the settings of that
policy. Every policy comes back from its own settings with its name and its attempts; its interval
becomes the longest within it that is a whole number of milliseconds in 64 bits, so the policy is as
it was if its interval is such a number already, and in no other case. The span of what comes back
is no longer, and a poll under it ends as it would have ended, with every wait at most as long. -/
theorem settings_round_trip (s : PolicySettings) (name : String) (p : ReadinessPolicy) :
    ((∃ made, s.policy name = .ok made ∧ made.name = name ∧ made.settings = s) ↔
      0 < s.maxAttempts.toNat) ∧
    ∃ q, p.settings.policy p.name = .ok q ∧
      q.name = p.name ∧ q.maxAttempts = p.maxAttempts ∧
      IsGreatest {d | d.IsWholeMillis ∧ d ≤ p.interval} q.interval ∧
      (q = p ↔ p.interval.IsWholeMillis) ∧
      q.span ≤ p.span ∧
      ∀ (σ ε ι : Type) (watch : Stopwatch) (check : Check σ ε ι) (input : ι) (w : σ),
        let short := (awaitReady q watch check input).run w
        let long := (awaitReady p watch check input).run w
        short.2 = long.2 ∧
        List.Forall₂ (· ≤ ·) (Effect.sleeps short.1) (Effect.sleeps long.1) ∧
        Duration.total (Effect.sleeps short.1) ≤ Duration.total (Effect.sleeps long.1) := by
  refine ⟨PolicySettings.exists_policy_iff, ?_⟩
  have hmade : 0 < p.settings.maxAttempts.toNat := p.attempts_pos
  obtain ⟨q, hq, hname, -⟩ := PolicySettings.exists_policy_iff.mpr hmade
  obtain ⟨-, hattempts, hinterval⟩ := ReadinessPolicy.build_eq_ok_iff.mp hq
  have hgreatest : IsGreatest {d | d.IsWholeMillis ∧ d ≤ p.interval} q.interval :=
    hinterval ▸ Duration.isGreatest_ofMillis p.interval
  have hle : q.interval ≤ p.interval := hgreatest.1.2
  have hback : q = p ↔ p.interval.IsWholeMillis :=
    calc q = p ↔ p.settings.policy p.name = .ok p := by rw [hq, Except.ok.injEq]
      _ ↔ p.name = p.name ∧ p.settings = p.settings ∧ p.interval.IsWholeMillis :=
        PolicySettings.policy_eq_ok_iff
      _ ↔ p.interval.IsWholeMillis := by simp
  refine ⟨q, hq, hname, hattempts, hgreatest, hback,
    ReadinessPolicy.span_le_span hattempts hle, ?_⟩
  intro σ ε ι watch check input w short long
  obtain ⟨hends, hwaits⟩ := run_awaitReady_of_le hattempts hle watch check input w
  exact ⟨hends, hwaits, Duration.total_le_total hwaits⟩

end Poll

end CloudReach
