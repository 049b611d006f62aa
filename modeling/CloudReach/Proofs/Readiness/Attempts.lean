import CloudReach.Proofs.Readiness.Budget
import Mathlib.Data.Rat.Floor

/-!
# Attempts that fill a budget

The attempts of a policy made for a budget are the intervals that go into the budget, rounded up, as
far as 64 bits count them. They are never none, so a budget that holds its interval always makes a
policy, and since a poll waits one interval less than it makes attempts, it waits less than the
budget.
-/

namespace CloudReach

namespace ReadinessPolicy

/-- The intervals that go into a budget, the last of them perhaps in part. -/
def intervalsIn (budget interval : Duration) : Nat :=
  ⌈(budget.nanos : ℚ) / interval.nanos⌉₊

variable {budget interval : Duration}

theorem isZero_iff (d : Duration) : d.isZero = true ↔ d.nanos = 0 := by
  simp [Duration.isZero]

theorem intervalsIn_le_iff (hpos : 0 < interval.nanos) (n : Nat) :
    intervalsIn budget interval ≤ n ↔ budget.nanos ≤ n * interval.nanos := by
  have hrat : (0 : ℚ) < interval.nanos := by exact_mod_cast hpos
  rw [intervalsIn, Nat.ceil_le, div_le_iff₀ hrat]
  exact_mod_cast Iff.rfl

theorem intervalsIn_eq (hpos : 0 < interval.nanos) :
    intervalsIn budget interval = (budget.nanos + interval.nanos - 1) / interval.nanos := by
  apply eq_of_forall_ge_iff
  intro n
  rw [intervalsIn_le_iff hpos, Nat.div_le_iff_le_mul_add_pred hpos, Nat.mul_comm]
  omega

theorem intervalsIn_pos (hpos : 0 < interval.nanos) (hle : interval ≤ budget) :
    0 < intervalsIn budget interval := by
  have hbudget : 0 < budget.nanos := Nat.lt_of_lt_of_le hpos hle
  by_contra hnone
  have hfill := (intervalsIn_le_iff hpos 0).mp (Nat.le_of_not_lt hnone)
  omega

/-- The rounded number is the least that fills the budget. -/
theorem isLeast_intervalsIn (hpos : 0 < interval.nanos) :
    IsLeast {n | budget.nanos ≤ n * interval.nanos} (intervalsIn budget interval) :=
  ⟨(intervalsIn_le_iff hpos _).mp le_rfl, fun n hn => (intervalsIn_le_iff hpos n).mpr hn⟩

theorem ofBudget_of_no_interval (name : String) (hzero : interval.nanos = 0) :
    ofBudget name budget interval = .error .zeroInterval :=
  if_pos ((isZero_iff interval).mpr hzero)

theorem ofBudget_of_short_budget (name : String) (hpos : 0 < interval.nanos)
    (hlt : budget.nanos < interval.nanos) :
    ofBudget name budget interval = .error (.budgetShorterThanInterval budget interval) := by
  have hinterval : ¬ interval.isZero = true := by
    rw [isZero_iff]
    omega
  rw [ofBudget, if_neg hinterval, if_pos hlt]

theorem ofBudget_of_le (name : String) (hpos : 0 < interval.nanos) (hle : interval ≤ budget) :
    ∃ p, ofBudget name budget interval = .ok p ∧ p.name = name ∧ p.interval = interval ∧
      p.maxAttempts.toNat = min (intervalsIn budget interval) (UInt64.size - 1) := by
  have hinterval : ¬ interval.isZero = true := by
    rw [isZero_iff]
    omega
  have hcut : min (intervalsIn budget interval) (UInt64.size - 1) < UInt64.size := by
    simp only [UInt64.size]
    omega
  have hattempts : (UInt64.ofNat (min (intervalsIn budget interval) (UInt64.size - 1))).toNat =
      min (intervalsIn budget interval) (UInt64.size - 1) :=
    UInt64.toNat_ofNat_of_lt' hcut
  have hsome : 0 <
      (UInt64.ofNat (min (intervalsIn budget interval) (UInt64.size - 1))).toNat := by
    have hpos' := intervalsIn_pos hpos hle
    rw [hattempts]
    simp only [UInt64.size]
    omega
  refine ⟨⟨name, _, interval, hsome⟩, ?_, rfl, rfl, hattempts⟩
  rw [ofBudget, if_neg hinterval, if_neg (Nat.not_lt.mpr hle), ← intervalsIn_eq hpos]
  exact dif_pos hsome

end ReadinessPolicy

namespace Poll

open ReadinessPolicy

variable {σ ε ι : Type}

/-- A poll with fewer waits than a budget has intervals waits less than the budget. -/
theorem waited_lt_budget {budget interval : Duration} (policy : ReadinessPolicy)
    (hpos : 0 < interval.nanos) (hinterval : policy.interval = interval)
    (hattempts : policy.maxAttempts.toNat ≤ intervalsIn budget interval) (watch : Stopwatch)
    (check : Check σ ε ι) (input : ι) (s : σ) :
    let quiet := (awaitReady policy watch (fun i => (check i).silenced) input).run s
    ((Effect.sleeps quiet.1).map Duration.nanos).sum < budget.nanos := by
  intro quiet
  obtain ⟨waits, hsleeps, hlt, -⟩ := sleeps_awaitReady policy watch check input s
  have hfew : ¬ intervalsIn budget interval ≤ waits := by omega
  rw [intervalsIn_le_iff hpos] at hfew
  rw [hsleeps, hinterval, List.map_replicate, List.sum_replicate_nat]
  omega

/-- A budget makes a policy if there is an interval and the budget is not shorter; there is no other
refusal. The policy has the intervals that go into the budget as its attempts, cut to 64 bits: where
these count them, no fewer attempts fill the budget. Its polls wait less than the budget. -/
theorem attempts_fill_budget (name : String) (budget interval : Duration) (watch : Stopwatch)
    (check : Check σ ε ι) (input : ι) (s : σ) :
    let made := ofBudget name budget interval
    let attempts := ⌈(budget.nanos : ℚ) / interval.nanos⌉₊
    (made = .error .zeroInterval ↔ interval = Duration.zero) ∧
    (made = .error (.budgetShorterThanInterval budget interval) ↔
      interval ≠ Duration.zero ∧ budget.nanos < interval.nanos) ∧
    (∀ n, made ≠ .error (.invalidMaxAttempts n)) ∧
    (interval ≠ Duration.zero → interval ≤ budget →
      ∃ p, made = .ok p ∧ p.name = name ∧ p.interval = interval ∧
        p.maxAttempts.toNat = min attempts (UInt64.size - 1) ∧
        (attempts < UInt64.size →
          IsLeast {n | budget.nanos ≤ n * interval.nanos} p.maxAttempts.toNat) ∧
        let quiet := (awaitReady p watch (fun i => (check i).silenced) input).run s
        ((Effect.sleeps quiet.1).map Duration.nanos).sum < budget.nanos) := by
  intro made attempts
  have hzero : interval = Duration.zero ↔ interval.nanos = 0 :=
    ⟨congrArg Duration.nanos, fun h => Duration.eq_of_nanos h⟩
  rcases Nat.eq_zero_or_pos interval.nanos with hnone | hpos
  · have hmade : made = .error .zeroInterval := ofBudget_of_no_interval name hnone
    simp [hmade, hzero, hnone]
  by_cases hlt : budget.nanos < interval.nanos
  · have hmade : made = .error (.budgetShorterThanInterval budget interval) :=
      ofBudget_of_short_budget name hpos hlt
    have hnot : ¬ interval ≤ budget := Nat.not_le.mpr hlt
    have hne : interval.nanos ≠ 0 := by omega
    simp [hmade, hzero, hlt, hnot, hne]
  · obtain ⟨p, hp, hname, hinterval, hattempts⟩ :=
      ofBudget_of_le name hpos (Nat.le_of_not_lt hlt)
    have hmade : made = .ok p := hp
    have hne : interval.nanos ≠ 0 := by omega
    have hwaited := waited_lt_budget p hpos hinterval
      (hattempts.trans_le (Nat.min_le_left _ _)) watch check input s
    refine ⟨by simp [hmade, hzero, hne], by simp [hmade, hlt], by simp [hmade], fun _ _ => ?_⟩
    refine ⟨p, hmade, hname, hinterval, hattempts, ?_, hwaited⟩
    intro hfits
    have hall : p.maxAttempts.toNat = attempts := by
      rw [hattempts]
      exact Nat.min_eq_left (Nat.le_sub_one_of_lt hfits)
    rw [hall]
    exact isLeast_intervalsIn hpos

end Poll

end CloudReach
