import CloudReach.Duration
import Mathlib.Data.List.Forall2

/-!
# Durations compared

Durations are told apart by their nanoseconds. Their sums, and their whole milliseconds, do not get
less when they get longer.
-/

namespace CloudReach.Duration

theorem eq_of_nanos {d e : Duration} (h : d.nanos = e.nanos) : d = e := by
  cases d
  cases e
  cases h
  rfl

theorem clamp_le_clamp {m n : Nat} (h : m ≤ n) : clamp m ≤ clamp n := by
  change min m maxNanos ≤ min n maxNanos
  omega

/-- Equal durations add up to their multiple. -/
theorem total_replicate (n : Nat) (d : Duration) :
    total (List.replicate n d) = clamp (n * d.nanos) := by
  have hsum : (List.replicate n d).foldr (fun d n => d.nanos + n) 0 = n * d.nanos := by
    induction n with
    | zero => rw [List.replicate_zero, List.foldr_nil, Nat.zero_mul]
    | succ n ih => rw [List.replicate_succ, List.foldr_cons, ih, Nat.succ_mul, Nat.add_comm]
  rw [total, hsum]

theorem total_le_total {ds es : List Duration} (h : List.Forall₂ (· ≤ ·) ds es) :
    total ds ≤ total es := by
  apply clamp_le_clamp
  induction h with
  | nil => exact Nat.le_refl 0
  | cons hd _ ih => exact Nat.add_le_add hd ih

theorem nanos_mul?_getD_max (d : Duration) (k : Nat) :
    ((d.mul? k).getD max).nanos = min (d.nanos * k) maxNanos := by
  unfold mul? ofNanos?
  by_cases h : d.nanos * k ≤ maxNanos
  · rw [dif_pos h, Option.getD_some, Nat.min_eq_left h]
  · rw [dif_neg h, Option.getD_none, Nat.min_eq_right (Nat.le_of_not_le h)]
    rfl

/-! ### Milliseconds -/

theorem millis_le_millis {d e : Duration} (h : d ≤ e) : d.millis ≤ e.millis :=
  Nat.div_le_div_right h

theorem millis_ofMillis (m : UInt64) : (ofMillis m).millis = m.toNat :=
  Nat.mul_div_cancel _ (by decide)

end CloudReach.Duration
