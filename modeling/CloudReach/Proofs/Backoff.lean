import CloudReach.Backoff
import CloudReach.Proofs.Outcome
import Mathlib.Algebra.Group.Nat.Defs

/-!
# Schedules of waits

An exponential schedule waits its base times a power of two, cut to its cap and to an hour. The
words in which it counts cut nothing else, for any base and any number of failures. A wait is no
shorter than those after fewer failures.
-/

namespace CloudReach.Backoff

/-! ### Growth -/

theorem longest_le_widest : longest.nanos ≤ widest := by decide

/-- Where a power of two no longer fits, it is past the hour for every base but zero. -/
theorem min_mul_growth (base n : Nat) :
    min (base * growth n) longest.nanos = min (base * 2 ^ (n - 1)) longest.nanos := by
  by_cases hn : n - 1 < 128
  · have hdoublings : min (n - 1) (UInt32.size - 1) = n - 1 :=
      Nat.min_eq_left (Nat.le_trans (Nat.le_of_lt hn) (by decide))
    have hgrowth : growth n = 2 ^ (n - 1) := by
      unfold growth
      dsimp only
      rw [hdoublings, if_pos hn]
      rfl
    rw [hgrowth]
  · have hdoublings : ¬ min (n - 1) (UInt32.size - 1) < 128 := by
      have : 128 ≤ UInt32.size - 1 := by decide
      omega
    have hgrowth : growth n = widest := if_neg hdoublings
    rcases Nat.eq_zero_or_pos base with rfl | hbase
    · rw [Nat.zero_mul, Nat.zero_mul]
    · have hpower : longest.nanos ≤ 2 ^ (n - 1) :=
        calc longest.nanos ≤ 2 ^ 128 := by decide
          _ ≤ 2 ^ (n - 1) := Nat.pow_le_pow_right (by decide) (Nat.le_of_not_lt hn)
      rw [hgrowth, Nat.min_eq_right (Nat.le_trans longest_le_widest (Nat.le_mul_of_pos_left _ hbase)),
        Nat.min_eq_right (Nat.le_trans hpower (Nat.le_mul_of_pos_left _ hbase))]

theorem grown_eq (base : Duration) (n : Nat) :
    grown base n = min (base.nanos * 2 ^ (n - 1)) longest.nanos := by
  have hwidest := longest_le_widest
  rw [← min_mul_growth, grown]
  omega

/-- What has grown fits into 64 bits. -/
theorem toNat_grown (base : Duration) (n : Nat) :
    (UInt64.ofNat (grown base n)).toNat = grown base n :=
  UInt64.toNat_ofNat_of_lt'
    (Nat.lt_of_le_of_lt (Nat.min_le_right _ _) (show longest.nanos < UInt64.size by decide))

/-! ### Waits -/

def ceiling (cap : Option Duration) : Nat :=
  min longest.nanos ((cap.map Duration.nanos).getD longest.nanos)

/-- From the first failure on, a wait is the base times a power of two, cut to the ceiling. -/
theorem nanos_delay (base : Duration) (cap : Option Duration) {n : Nat} (hn : n ≠ 0) :
    ((exponential base cap).delay n).nanos = min (base.nanos * 2 ^ (n - 1)) (ceiling cap) := by
  have hgrown : (Duration.ofNanos (.ofNat (grown base n))).nanos =
      min (base.nanos * 2 ^ (n - 1)) longest.nanos :=
    (toNat_grown base n).trans (grown_eq base n)
  unfold delay ceiling
  rw [if_neg hn]
  cases cap with
  | none =>
    dsimp only [Option.map_none, Option.getD_none]
    rw [Duration.nanos_min]
    omega
  | some m =>
    dsimp only [Option.map_some, Option.getD_some]
    rw [Duration.nanos_min, Duration.nanos_min]
    omega

theorem delay_le_longest (base : Duration) (cap : Option Duration) (n : Nat) :
    (exponential base cap).delay n ≤ longest := by
  by_cases hn : n = 0
  · rw [hn]
    exact Nat.zero_le _
  · show ((exponential base cap).delay n).nanos ≤ longest.nanos
    rw [nanos_delay base cap hn]
    exact Nat.le_trans (Nat.min_le_right _ _) (Nat.min_le_left _ _)

/-- Waits do not get shorter with more failures. -/
theorem delay_mono (b : Backoff) {m n : Nat} (h : m ≤ n) : b.delay m ≤ b.delay n := by
  show (b.delay m).nanos ≤ (b.delay n).nanos
  by_cases hm : m = 0
  · rw [hm]
    exact Nat.zero_le _
  · have hn : n ≠ 0 := by omega
    cases b with
    | constant d =>
      have hdelay {k : Nat} (hk : k ≠ 0) : (constant d).delay k = d := if_neg hk
      exact Nat.le_of_eq (by rw [hdelay hm, hdelay hn])
    | exponential base cap =>
      have hpower : 2 ^ (m - 1) ≤ 2 ^ (n - 1) :=
        Nat.pow_le_pow_right (by decide) (Nat.sub_le_sub_right h 1)
      have hproduct := Nat.mul_le_mul_left base.nanos hpower
      rw [nanos_delay base cap hm, nanos_delay base cap hn]
      omega

/-! ### Caps -/

/-- A schedule after calls that cap it, one after the other. A call that is refused leaves the
schedule as it was. -/
def capEach (b : Backoff) (caps : List Duration) : Backoff :=
  caps.foldl (fun b m => (b.withMax m).toOption.getD b) b

theorem withMax_eq_ok_iff {base m : Duration} {cap : Option Duration} {b : Backoff} :
    (exponential base cap).withMax m = .ok b ↔
      (0 < m.nanos ∧ base ≤ m) ∧ b = exponential base (some m) := by
  have hzero : m.isZero = true ↔ m.nanos = 0 := beq_iff_eq
  have hbase : base ≤ m ↔ ¬ m.nanos < base.nanos := Nat.not_lt.symm
  rw [withMax, hbase]
  by_cases h0 : m.isZero = true
  · have := hzero.mp h0
    simp [h0, this]
  · have hpos : 0 < m.nanos := Nat.pos_of_ne_zero (mt hzero.mpr h0)
    by_cases hlt : m.nanos < base.nanos <;> simp [h0, hpos, hlt, eq_comm]

theorem getLast?_cons_or (m : Duration) (rest : List Duration) (cap : Option Duration) :
    (m :: rest).getLast?.or cap = rest.getLast?.or (some m) := by
  rw [List.getLast?_cons]
  cases rest.getLast? <;> rfl

/-- The last cap that is taken counts. -/
theorem capEach_exponential (base : Duration) (cap : Option Duration) (caps : List Duration) :
    capEach (exponential base cap) caps =
      exponential base ((caps.filter fun m => 0 < m.nanos ∧ base ≤ m).getLast?.or cap) := by
  unfold capEach
  induction caps generalizing cap with
  | nil => rfl
  | cons m rest ih =>
    rw [List.foldl_cons, List.filter_cons]
    by_cases h : 0 < m.nanos ∧ base ≤ m
    · have hok : (exponential base cap).withMax m = .ok (exponential base (some m)) :=
        withMax_eq_ok_iff.mpr ⟨h, rfl⟩
      rw [hok, if_pos (decide_eq_true h), getLast?_cons_or]
      exact ih (some m)
    · have hrefused : ((exponential base cap).withMax m).toOption = none := by
        cases hw : (exponential base cap).withMax m with
        | ok b => exact absurd (withMax_eq_ok_iff.mp hw).1 h
        | error e => rfl
      rw [hrefused, if_neg (mt of_decide_eq_true h)]
      exact ih cap

/-- In a row of calls of which the first refusal is the end, all are taken or there is no
schedule. -/
theorem foldlM_withMax_eq_ok_iff {base : Duration} {cap : Option Duration} {caps : List Duration}
    {b : Backoff} :
    caps.foldlM (fun b m => b.withMax m) (exponential base cap) = .ok b ↔
      (∀ m ∈ caps, 0 < m.nanos ∧ base ≤ m) ∧ b = exponential base (caps.getLast?.or cap) := by
  induction caps generalizing cap with
  | nil => simp [pure, Except.pure, eq_comm]
  | cons m rest ih =>
    rw [List.foldlM_cons, bind_eq_ok_iff, List.forall_mem_cons, getLast?_cons_or, and_assoc]
    constructor
    · rintro ⟨_, hm, hrest⟩
      obtain ⟨h, rfl⟩ := withMax_eq_ok_iff.mp hm
      exact ⟨h, ih.mp hrest⟩
    · rintro ⟨h, hrest⟩
      exact ⟨_, withMax_eq_ok_iff.mpr ⟨h, rfl⟩, ih.mpr hrest⟩

/-- A cap is taken if it is positive and not below the base, and the last one that is taken counts.
From the first failure on, the wait is the base times a power of two, or the cap or an hour where
that is less; nothing is lost on the way to 64 bits, and waits never get shorter. -/
theorem exponential_exact (base : Duration) (caps : List Duration) :
    let taken := caps.filter fun m => 0 < m.nanos ∧ base ≤ m
    let schedule := capEach (exponential base none) caps
    schedule = exponential base taken.getLast? ∧
    (∀ m b, schedule.withMax m = .ok b ↔
      (0 < m.nanos ∧ base ≤ m) ∧ b = exponential base (some m)) ∧
    (∀ b, caps.foldlM (fun b m => b.withMax m) (exponential base none) = .ok b ↔
      (∀ m ∈ caps, 0 < m.nanos ∧ base ≤ m) ∧ b = exponential base caps.getLast?) ∧
    (∀ n, n ≠ 0 →
      (UInt64.ofNat (grown base n)).toNat = min (base.nanos * 2 ^ (n - 1)) longest.nanos ∧
      (schedule.delay n).nanos =
        min (base.nanos * 2 ^ (n - 1)) (ceiling taken.getLast?)) ∧
    ∀ m n, m ≤ n → schedule.delay m ≤ schedule.delay n := by
  intro taken schedule
  have hschedule : schedule = exponential base taken.getLast? :=
    (capEach_exponential base none caps).trans (congrArg _ Option.or_none)
  refine ⟨hschedule, fun m b => ?_, fun b => ?_, fun n hn => ⟨?_, ?_⟩, fun m n => delay_mono schedule⟩
  · rw [hschedule]
    exact withMax_eq_ok_iff
  · rw [foldlM_withMax_eq_ok_iff, Option.or_none]
  · rw [toNat_grown, grown_eq]
  · rw [hschedule]
    exact nanos_delay base taken.getLast? hn

end CloudReach.Backoff
