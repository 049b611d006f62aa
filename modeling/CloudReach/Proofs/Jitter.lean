import CloudReach.Jitter

/-!
# Delays left to chance

A word between two bounds is the lower bound and a share of the range: two draws are read as one
number of 128 bits, and the share is what its product with the range has above 128 bits. So the
carry of the second draw never takes a sample past its upper bound, and no delay gets longer.
-/

namespace CloudReach.Jitter

variable {σ : Type}

def wideDraw (draw : Draw σ) (s : σ) : Nat :=
  (draw s).1.toNat * UInt64.size + (draw (draw s).2).1.toNat

def point (r low high : Nat) : Nat :=
  low + r * (high - low + 1) / (UInt64.size * UInt64.size)

theorem wideDraw_lt (draw : Draw σ) (s : σ) : wideDraw draw s < UInt64.size * UInt64.size := by
  have hv := (draw s).1.toNat_lt_size
  have hw := (draw (draw s).2).1.toNat_lt_size
  simp only [wideDraw, UInt64.size] at *
  omega

theorem le_point (r low high : Nat) : low ≤ point r low high :=
  Nat.le_add_right _ _

theorem point_le {r low high : Nat} (h : low ≤ high) (hr : r < UInt64.size * UInt64.size) :
    point r low high ≤ high := by
  have hshare : r * (high - low + 1) / (UInt64.size * UInt64.size) < high - low + 1 :=
    Nat.div_lt_of_lt_mul (Nat.mul_lt_mul_of_pos_right hr (Nat.succ_pos _))
  rw [point]
  omega

/-- Of all words the first draw is the sample as it comes. -/
theorem point_full {v w low high : Nat} (hw : w < UInt64.size) (hhigh : high < UInt64.size)
    (h : high - low + 1 = UInt64.size) : point (v * UInt64.size + w) low high = v := by
  have hlow : low = 0 := by
    simp only [UInt64.size] at hhigh h
    omega
  rw [point, h, hlow, Nat.zero_add, Nat.mul_div_mul_right _ _ (by decide), Nat.add_comm,
    Nat.add_mul_div_right _ _ (by decide), Nat.div_eq_of_lt hw, Nat.zero_add]

/-! ### Words -/

theorem toNat_mulHigh (a b : UInt64) : (mulHigh a b).toNat = a.toNat * b.toNat / UInt64.size :=
  UInt64.toNat_ofNat_of_lt'
    (Nat.div_lt_of_lt_mul (Nat.mul_lt_mul'' a.toNat_lt_size b.toNat_lt_size))

/-- The words between two bounds are counted exactly, unless they are all the words there are. -/
theorem range_cases {low high : UInt64} (h : low ≤ high) :
    (high - low + 1 = 0 ∧ high.toNat - low.toNat + 1 = UInt64.size) ∨
      (high - low + 1 ≠ 0 ∧ (high - low + 1).toNat = high.toNat - low.toNat + 1) := by
  have hrange : (high - low + 1).toNat = (high.toNat - low.toNat + 1) % UInt64.size := by
    rw [UInt64.toNat_add, UInt64.toNat_sub_of_le _ _ h]
    rfl
  have hle : high.toNat - low.toNat + 1 ≤ UInt64.size :=
    Nat.lt_of_le_of_lt (Nat.sub_le _ _) high.toNat_lt_size
  rcases Nat.lt_or_eq_of_le hle with hlt | hall
  · rw [Nat.mod_eq_of_lt hlt] at hrange
    refine .inr ⟨fun hzero => ?_, hrange⟩
    rw [hzero] at hrange
    exact absurd hrange (Nat.succ_ne_zero _).symm
  · rw [hall, Nat.mod_self] at hrange
    exact .inl ⟨UInt64.toNat_inj.mp hrange, hall⟩

/-- A sum of words that is not above another word does not wrap. -/
theorem toNat_add_of_le {a b high : UInt64} (h : a.toNat + b.toNat ≤ high.toNat) :
    (a + b).toNat = a.toNat + b.toNat := by
  rw [UInt64.toNat_add]
  exact Nat.mod_eq_of_lt (Nat.lt_of_le_of_lt h high.toNat_lt_size)

/-- A share is the high half of the first product, and one more if the finer draw carries into
it. -/
theorem share_eq (v w range : UInt64) :
    (v.toNat * UInt64.size + w.toNat) * range.toNat / (UInt64.size * UInt64.size) =
      (mulHigh v range).toNat +
        if UInt64.size ≤ (v * range).toNat + (mulHigh w range).toNat then 1 else 0 := by
  have hproduct : (v.toNat * UInt64.size + w.toNat) * range.toNat =
      w.toNat * range.toNat + v.toNat * range.toNat * UInt64.size := by
    rw [Nat.add_mul, Nat.mul_right_comm, Nat.add_comm]
  have hfiner := (mulHigh w range).toNat_lt_size
  rw [toNat_mulHigh] at hfiner
  rw [hproduct, ← Nat.div_div_eq_div_mul, Nat.add_mul_div_right _ _ (by decide), Nat.add_comm,
    Nat.add_div (by decide), Nat.div_eq_of_lt hfiner, Nat.mod_eq_of_lt hfiner, Nat.add_zero,
    toNat_mulHigh, toNat_mulHigh]
  rfl

/-- Where no second draw is made, none would carry. -/
theorem not_carry {v range : UInt64} (w : UInt64) (hrange : range ≠ 0)
    (h : ¬ -range < v * range) :
    ¬ UInt64.size ≤ (v * range).toNat + (mulHigh w range).toNat := by
  have hpos : 0 < range.toNat := Nat.pos_of_ne_zero fun hzero => hrange (UInt64.toNat_inj.mp hzero)
  have hfiner : (mulHigh w range).toNat < range.toNat := by
    rw [toNat_mulHigh]
    exact Nat.div_lt_of_lt_mul (Nat.mul_lt_mul_of_pos_right w.toNat_lt_size hpos)
  have hneg : (-range).toNat = UInt64.size - range.toNat := by
    rw [UInt64.toNat_neg]
    exact Nat.mod_eq_of_lt (Nat.sub_lt (by decide) hpos)
  have hrest : (v * range).toNat ≤ UInt64.size - range.toNat :=
    hneg ▸ Nat.le_of_not_lt (mt UInt64.lt_iff_toNat_lt.mpr h)
  have hsize := range.toNat_lt_size
  omega

/-! ### Samples -/

/-- A sample is the exact number at which the two draws point; no sum of words wraps. -/
theorem toNat_sample (draw : Draw σ) {low high : UInt64} (h : low ≤ high) (s : σ) :
    (sample draw low high s).1.toNat = point (wideDraw draw s) low.toNat high.toNat := by
  have hpoint := point_le (UInt64.le_iff_toNat_le.mp h) (wideDraw_lt draw s)
  have hcases := range_cases h
  unfold sample
  rw [wideDraw] at hpoint ⊢
  dsimp only
  generalize (draw s).1 = v at hpoint ⊢
  generalize (draw (draw s).2).1 = w at hpoint ⊢
  generalize high - low + 1 = range at hcases ⊢
  rcases hcases with ⟨hfull, hall⟩ | ⟨hpart, hexact⟩
  · rw [if_pos hfull, point_full w.toNat_lt_size high.toNat_lt_size hall]
  · rw [if_neg hpart]
    rw [point, ← hexact, share_eq] at hpoint ⊢
    by_cases hsecond : -range < v * range
    · have hcarry (c : Prop) [Decidable c] :
          (if c then 1 else 0 : UInt64).toNat = if c then 1 else 0 := apply_ite UInt64.toNat c 1 0
      rw [← hcarry] at hpoint ⊢
      have hoffset := toNat_add_of_le (Nat.le_trans (Nat.le_add_left _ _) hpoint)
      rw [← hoffset] at hpoint ⊢
      rw [if_pos hsecond]
      exact toNat_add_of_le hpoint
    · simp only [if_neg (not_carry w hpart hsecond), if_neg hsecond, Nat.add_zero] at hpoint ⊢
      exact toNat_add_of_le hpoint

/-! ### Delays -/

theorem toNat_wholeMillis (delay : Duration) :
    (wholeMillis delay).toNat = min delay.millis (UInt64.size - 1) :=
  UInt64.toNat_ofNat_of_lt' (Nat.lt_of_le_of_lt (Nat.min_le_right _ _) (by decide))

/-- A delay that is spread from a lower bound up has the milliseconds at which the draws point. One
below a millisecond makes no exception: there is but one point in its range. -/
theorem nanos_spread (draw : Draw σ) {delay : Duration} {low : UInt64}
    (h : low ≤ wholeMillis delay) (s : σ) :
    (if wholeMillis delay = 0 then (Duration.zero, s)
      else ofSample (sample draw low (wholeMillis delay) s)).1.nanos =
      point (wideDraw draw s) low.toNat (wholeMillis delay).toNat * Duration.milli := by
  by_cases hzero : wholeMillis delay = 0
  · have hpoint := point_le (UInt64.le_iff_toNat_le.mp h) (wideDraw_lt draw s)
    rw [hzero] at hpoint ⊢
    rw [Nat.le_zero.mp hpoint, if_pos rfl]
    exact (Nat.zero_mul _).symm
  · rw [if_neg hzero, ← toNat_sample draw h]
    rfl

/-- A sample in words is the exact number at which two draws point, and within its bounds. Without
jitter a delay stays as it is; otherwise it becomes the milliseconds at which the draws point,
between none or half of its own and all of them, as far as 64 bits count, and never gets longer. -/
theorem spread_within (draw : Draw σ) (delay : Duration) (s : σ) :
    let ms := min delay.millis (UInt64.size - 1)
    let r := wideDraw draw s
    (∀ low high : UInt64, low ≤ high →
      (sample draw low high s).1.toNat = point r low.toNat high.toNat ∧
      low.toNat ≤ point r low.toNat high.toNat ∧ point r low.toNat high.toNat ≤ high.toNat) ∧
    none.apply draw delay s = (delay, s) ∧
    (full.apply draw delay s).1.nanos = point r 0 ms * Duration.milli ∧
    (equal.apply draw delay s).1.nanos = point r (ms / 2) ms * Duration.milli ∧
    ∀ j : Jitter, (j.apply draw delay s).1 ≤ delay := by
  intro ms r
  have hr : r < UInt64.size * UInt64.size := wideDraw_lt draw s
  have hms : (wholeMillis delay).toNat = ms := toNat_wholeMillis delay
  have hhalf : (wholeMillis delay / 2).toNat = ms / 2 := by
    rw [UInt64.toNat_div, hms]
    rfl
  have hfull : (full.apply draw delay s).1.nanos = point r 0 ms * Duration.milli :=
    hms ▸ nanos_spread draw UInt64.zero_le s
  have hequal : (equal.apply draw delay s).1.nanos = point r (ms / 2) ms * Duration.milli := by
    rw [← hhalf, ← hms]
    refine nanos_spread draw ?_ s
    rw [UInt64.le_iff_toNat_le, hhalf, hms]
    exact Nat.div_le_self ms 2
  have hlonger {low : Nat} (h : low ≤ ms) : point r low ms * Duration.milli ≤ delay.nanos :=
    calc point r low ms * Duration.milli
        ≤ delay.millis * Duration.milli :=
          Nat.mul_le_mul_right _ (Nat.le_trans (point_le h hr) (Nat.min_le_left _ _))
      _ ≤ delay.nanos := Nat.div_mul_le_self _ _
  refine ⟨fun low high h => ⟨toNat_sample draw h s, le_point r _ _,
    point_le (UInt64.le_iff_toNat_le.mp h) hr⟩, rfl, hfull, hequal, fun j => ?_⟩
  cases j with
  | none => exact Nat.le_refl delay.nanos
  | full => exact Nat.le_trans (Nat.le_of_eq hfull) (hlonger (Nat.zero_le ms))
  | equal => exact Nat.le_trans (Nat.le_of_eq hequal) (hlonger (Nat.div_le_self ms 2))

end CloudReach.Jitter
