import CloudReach.Proofs.Jitter

/-!
# Half of a delay

Equal jitter draws a whole number of milliseconds, from half of those of the delay up, and both the
count and its half are rounded down. What the rounding takes away shows when the draws point at the
lowest number of the range: then half of the delay is kept only if the delay is an even number of
milliseconds. So half is kept whatever is drawn for these delays alone, as far as 64 bits count
milliseconds; past that there are delays of which no draw keeps half.
-/

namespace CloudReach.Jitter

variable {σ : Type}

def millisOf (delay : Duration) : Nat :=
  min delay.millis (UInt64.size - 1)

def HalvesEvenly (delay : Duration) : Prop :=
  delay.millis < UInt64.size ∧ delay.nanos % (2 * Duration.milli) = 0

/-- The draws point at the lowest number of milliseconds that equal jitter can make of a delay. -/
def PointsLow (draw : Draw σ) (delay : Duration) (s : σ) : Prop :=
  wideDraw draw s * (millisOf delay - millisOf delay / 2 + 1) < UInt64.size * UInt64.size

theorem point_eq_low_iff (r low high : Nat) :
    point r low high = low ↔ r * (high - low + 1) < UInt64.size * UInt64.size := by
  have hpos : 0 < UInt64.size * UInt64.size := by decide
  rw [point, Nat.add_eq_left, Nat.div_eq_zero_iff]
  omega

theorem nanos_equal (draw : Draw σ) (delay : Duration) (s : σ) :
    (equal.apply draw delay s).1.nanos =
      point (wideDraw draw s) (millisOf delay / 2) (millisOf delay) * Duration.milli := by
  have hms : (wholeMillis delay).toNat = millisOf delay := toNat_wholeMillis delay
  have hhalf : (wholeMillis delay / 2).toNat = millisOf delay / 2 := by
    rw [UInt64.toNat_div, hms]
    rfl
  rw [← hhalf, ← hms]
  apply nanos_spread
  rw [UInt64.le_iff_toNat_le, hhalf, hms]
  exact Nat.div_le_self ..

/-- The lowest number of milliseconds that can be drawn, and when it is drawn. -/
theorem floor_of_equal (draw : Draw σ) (delay : Duration) (s : σ) :
    ∃ ms, (equal.apply draw delay s).1.nanos = ms * Duration.milli ∧
      millisOf delay / 2 ≤ ms ∧ ms ≤ millisOf delay ∧
      (ms = millisOf delay / 2 ↔ PointsLow draw delay s) :=
  ⟨_, nanos_equal draw delay s, le_point .., point_le (Nat.div_le_self ..) (wideDraw_lt draw s),
    point_eq_low_iff ..⟩

def zeros : Draw Unit := fun s => (0, s)

theorem pointsLow_zeros (delay : Duration) : PointsLow zeros delay () := by
  simp [PointsLow, wideDraw, zeros, UInt64.size]

variable (draw : Draw σ) {delay : Duration} (s : σ)

theorem half_kept_within (h : delay.millis < UInt64.size) :
    delay.nanos ≤ 2 * (equal.apply draw delay s).1.nanos ↔
      HalvesEvenly delay ∨ ¬ PointsLow draw delay s := by
  obtain ⟨ms, hms, hlow, -, hpoints⟩ := floor_of_equal draw delay s
  rw [hms, ← hpoints]
  simp only [millisOf, HalvesEvenly, Duration.millis, Duration.milli, UInt64.size] at *
  omega

theorem half_lost_beyond (h : 2 * (UInt64.size - 1) * Duration.milli < delay.nanos) :
    2 * (equal.apply draw delay s).1.nanos < delay.nanos := by
  obtain ⟨ms, hms, -, hhigh, -⟩ := floor_of_equal draw delay s
  rw [hms]
  simp only [millisOf, Duration.millis, Duration.milli, UInt64.size] at *
  omega

theorem half_kept_by_zeros_iff (delay : Duration) :
    delay.nanos ≤ 2 * (equal.apply zeros delay ()).1.nanos ↔ HalvesEvenly delay := by
  by_cases h : delay.millis < UInt64.size
  · simp [half_kept_within zeros () h, pointsLow_zeros]
  · obtain ⟨ms, hms, -, -, hpoints⟩ := floor_of_equal zeros delay ()
    rw [hms, hpoints.mpr (pointsLow_zeros delay)]
    simp only [millisOf, HalvesEvenly, Duration.millis, Duration.milli, UInt64.size] at *
    omega

theorem no_wait_iff (delay : Duration) :
    (equal.apply draw delay s).1.nanos = 0 ↔
      delay.nanos < 2 * Duration.milli ∧ PointsLow draw delay s := by
  obtain ⟨ms, hms, hlow, -, hpoints⟩ := floor_of_equal draw delay s
  rw [hms, ← hpoints]
  simp only [millisOf, Duration.millis, Duration.milli, UInt64.size] at *
  omega

/-- Equal jitter keeps half of a delay, whatever is drawn, exactly if the delay is an even number of
milliseconds that 64 bits count. Of any other delay within 64 bits of milliseconds it keeps half
unless the draws point at the lowest number of the range, and of one longer than twice that range
it never does. No wait is left of a delay below two milliseconds whose draws point at the lowest
number, as below one millisecond they always do, and of no other. -/
theorem half_kept_iff (delay : Duration) :
    ((∀ (τ : Type) (draw : Draw τ) (s : τ),
      delay.nanos ≤ 2 * (equal.apply draw delay s).1.nanos) ↔ HalvesEvenly delay) ∧
    ∀ (τ : Type) (draw : Draw τ) (s : τ),
      let kept := (equal.apply draw delay s).1
      (delay.millis < UInt64.size →
        (delay.nanos ≤ 2 * kept.nanos ↔ HalvesEvenly delay ∨ ¬ PointsLow draw delay s)) ∧
      (2 * (UInt64.size - 1) * Duration.milli < delay.nanos → 2 * kept.nanos < delay.nanos) ∧
      (kept.nanos = 0 ↔ delay.nanos < 2 * Duration.milli ∧ PointsLow draw delay s) ∧
      (delay.millis = 0 → PointsLow draw delay s) := by
  refine ⟨⟨fun h => (half_kept_by_zeros_iff delay).mp (h Unit zeros ()), ?_⟩, ?_⟩
  · intro heven τ draw s
    exact (half_kept_within draw s heven.1).mpr (.inl heven)
  · intro τ draw s kept
    refine ⟨half_kept_within draw s, half_lost_beyond draw s, no_wait_iff draw s delay, ?_⟩
    intro hzero
    have hr := wideDraw_lt draw s
    simpa [PointsLow, millisOf, hzero] using hr

/-- Nothing is left of a millisecond if the draw is zero. -/
theorem millisecond_lost :
    (equal.apply zeros (Duration.ofMillis 1) ()).1 = Duration.zero ∧
      ¬ (Duration.ofMillis 1).nanos ≤ 2 * (equal.apply zeros (Duration.ofMillis 1) ()).1.nanos := by
  decide

end CloudReach.Jitter
