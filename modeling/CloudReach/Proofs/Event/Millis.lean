import CloudReach.Backoff
import CloudReach.Proofs.Duration
import CloudReach.Proofs.Event.Journal
import CloudReach.Proofs.Jitter

/-!
# Durations in a journal

An event that tells a duration is written with the low 64 bits of its milliseconds, so the count
starts again at zero after each turn of 64 bits. A longer duration is written as a larger number as
long as no turn ends between the two; which durations can be told wrong, and by which others they
can, is said exactly. Where milliseconds are cut to 64 bits instead, as jitter does it, no order is
lost.
-/

namespace CloudReach.Event

def told? : Event → Option Duration
  | ready _ _ elapsed => some elapsed
  | exhausted _ _ elapsed => some elapsed
  | retryScheduled _ _ _ delay => some delay
  | _ => none

def writtenMillis? (e : Event) : Option Nat :=
  (number? "elapsed_ms" e.members).or (number? "delay_ms" e.members)

theorem writtenMillis?_eq (e : Event) : e.writtenMillis? = e.told?.map loggedMillis := by
  cases e <;> rfl

theorem loggedMillis_lt (d : Duration) : loggedMillis d < UInt64.size :=
  Nat.mod_lt _ (by decide)

/-- Two durations are written in their order exactly if the milliseconds between them, whole turns
left out, do not take the number of the shorter one past the end of its turn. -/
theorem loggedMillis_le_iff {d e : Duration} (h : d ≤ e) :
    loggedMillis d ≤ loggedMillis e ↔
      loggedMillis d + (e.millis - d.millis) % UInt64.size < UInt64.size := by
  have hsum : d.millis + (e.millis - d.millis) = e.millis :=
    Nat.add_sub_cancel' (Duration.millis_le_millis h)
  have hlater : loggedMillis e =
      if UInt64.size ≤ loggedMillis d + (e.millis - d.millis) % UInt64.size then
        loggedMillis d + (e.millis - d.millis) % UInt64.size - UInt64.size
      else loggedMillis d + (e.millis - d.millis) % UInt64.size := by
    rw [loggedMillis, ← hsum, Nat.add_mod_eq_ite, hsum]
    rfl
  have hless : (e.millis - d.millis) % UInt64.size < UInt64.size := Nat.mod_lt _ (by decide)
  rw [hlater]
  split <;> omega

/-- As many whole milliseconds as the longest duration has, or fewer, make a duration. -/
theorem exists_nanos_eq {ms : Nat} (h : ms ≤ Duration.max.millis) :
    ∃ d : Duration, d.nanos = ms * Duration.milli ∧ loggedMillis d = ms % UInt64.size := by
  have hle : ms * Duration.milli ≤ Duration.maxNanos := (Nat.le_div_iff_mul_le (by decide)).mp h
  refine ⟨⟨ms * Duration.milli, hle⟩, rfl, ?_⟩
  rw [loggedMillis, Duration.millis, Nat.mul_div_cancel _ (by decide)]

/-- No shorter duration is written as a larger number exactly if 64 bits count the milliseconds, or
the number that is written is the largest. -/
theorem written_above_shorter_iff (e : Duration) :
    (∀ d, d ≤ e → loggedMillis d ≤ loggedMillis e) ↔
      e.millis < UInt64.size ∨ loggedMillis e = UInt64.size - 1 := by
  constructor
  · intro hkept
    by_cases hfits : e.millis < UInt64.size
    · exact .inl hfits
    · -- The last millisecond of the first turn has the largest number, and is before `e`.
      have hreach : UInt64.size - 1 ≤ Duration.max.millis := by decide
      obtain ⟨d, hnanos, hd⟩ := exists_nanos_eq hreach
      have hle : d ≤ e := by
        change d.nanos ≤ e.nanos
        simp only [Duration.millis, Duration.milli, UInt64.size] at hfits hnanos
        omega
      have hlargest := hkept d hle
      have hlt := loggedMillis_lt e
      rw [hd, Nat.mod_eq_of_lt (by decide)] at hlargest
      exact .inr (by omega)
  · rintro (hfits | hlargest) d hle
    · calc loggedMillis d ≤ d.millis := Nat.mod_le _ _
        _ ≤ e.millis := Duration.millis_le_millis hle
        _ = loggedMillis e := (Nat.mod_eq_of_lt hfits).symm
    · rw [hlargest]
      exact Nat.le_sub_one_of_lt (loggedMillis_lt d)

theorem turn_le_turn {d e : Duration} (h : d ≤ e) :
    d.millis / UInt64.size ≤ e.millis / UInt64.size :=
  Nat.div_le_div_right (Duration.millis_le_millis h)

/-- No longer duration is written as a smaller number exactly if the number is zero, or the turn is
the last one that durations reach. -/
theorem written_below_longer_iff (d : Duration) :
    (∀ e, d ≤ e → loggedMillis d ≤ loggedMillis e) ↔
      loggedMillis d = 0 ∨ d.millis / UInt64.size = Duration.max.millis / UInt64.size := by
  have hreached (e : Duration) : e.millis / UInt64.size ≤ Duration.max.millis / UInt64.size :=
    turn_le_turn e.nanos_le
  constructor
  · intro hkept
    rcases Nat.lt_or_eq_of_le (hreached d) with hmore | hlast
    · -- The next turn begins with a duration that is written as zero.
      have hreach : (d.millis / UInt64.size + 1) * UInt64.size ≤ Duration.max.millis :=
        Nat.le_trans (Nat.mul_le_mul_right _ hmore) (Nat.div_mul_le_self _ _)
      obtain ⟨e, hnanos, he⟩ := exists_nanos_eq hreach
      have hle : d ≤ e := by
        change d.nanos ≤ e.nanos
        simp only [Duration.millis, Duration.milli, UInt64.size] at hnanos
        omega
      have hzero := hkept e hle
      rw [he, Nat.mul_mod_left] at hzero
      exact .inl (Nat.le_zero.mp hzero)
    · exact .inr hlast
  · rintro (hzero | hlast) e hle
    · rw [hzero]
      exact Nat.zero_le _
    · have hmillis := Duration.millis_le_millis hle
      have hsame : d.millis / UInt64.size = e.millis / UInt64.size :=
        Nat.le_antisymm (turn_le_turn hle) (hlast ▸ hreached e)
      simp only [loggedMillis, UInt64.size] at hsame ⊢
      omega

/-- Milliseconds that are cut to 64 bits keep their order. -/
theorem toNat_wholeMillis_le {d e : Duration} (h : d ≤ e) :
    (Jitter.wholeMillis d).toNat ≤ (Jitter.wholeMillis e).toNat := by
  have hmillis := Duration.millis_le_millis h
  rw [Jitter.toNat_wholeMillis, Jitter.toNat_wholeMillis]
  omega

/-- Of two events the one that tells the longer duration has the smaller number exactly if a turn of
64 bits ends between the two, whole turns left out, whereas milliseconds that are cut to 64 bits keep
their order. No shorter duration has a larger number if 64 bits count the milliseconds or the number
is the largest, as it is for the longest duration, and in no other case; no longer duration has a
smaller number if the number is zero or the turn is the last, and in no other case. -/
theorem waits_logged_in_order_iff {shorter longer : Event} {d e : Duration}
    (hd : shorter.told? = some d) (he : longer.told? = some e) (h : d ≤ e) :
    shorter.writtenMillis? = some (loggedMillis d) ∧
    longer.writtenMillis? = some (loggedMillis e) ∧
    (loggedMillis d ≤ loggedMillis e ↔
      loggedMillis d + (e.millis - d.millis) % UInt64.size < UInt64.size) ∧
    (Jitter.wholeMillis d).toNat ≤ (Jitter.wholeMillis e).toNat ∧
    ((∀ d', d' ≤ e → loggedMillis d' ≤ loggedMillis e) ↔
      e.millis < UInt64.size ∨ loggedMillis e = UInt64.size - 1) ∧
    loggedMillis Duration.max = UInt64.size - 1 ∧
    ((∀ e', d ≤ e' → loggedMillis d ≤ loggedMillis e') ↔
      loggedMillis d = 0 ∨ d.millis / UInt64.size = Duration.max.millis / UInt64.size) := by
  refine ⟨?_, ?_, loggedMillis_le_iff h, toNat_wholeMillis_le h, written_above_shorter_iff e,
    by decide, written_below_longer_iff d⟩
  · rw [writtenMillis?_eq, hd]
    rfl
  · rw [writtenMillis?_eq, he]
    rfl

/-- A turn and half a second is logged as half a second, which is not more than the number of the
longest duration. -/
theorem half_second_logged_below_longest :
    let d : Duration := ⟨18446744073709552116 * Duration.milli, by decide⟩
    let short := ready "running" 2 d
    let long := retryScheduled .clientError 429 1 Duration.max
    short.told? = some d ∧ long.told? = some Duration.max ∧ d ≤ Duration.max ∧
      short.writtenMillis? = some 500 ∧ long.writtenMillis? = some 18446744073709551615 ∧
      loggedMillis d ≤ loggedMillis Duration.max := by
  intro d short long
  have hle : d ≤ Duration.max := d.nanos_le
  have hshort : short.told? = some d := rfl
  have hlong : long.told? = some Duration.max := rfl
  have hd : loggedMillis d = 500 := by decide
  have he : loggedMillis Duration.max = 18446744073709551615 := by decide
  obtain ⟨hwritten, hwritten', horder, -⟩ := waits_logged_in_order_iff hshort hlong hle
  rw [hd] at hwritten
  rw [he] at hwritten'
  exact ⟨hshort, hlong, hle, hwritten, hwritten', horder.mpr (by decide)⟩

/-- The first duration past a turn is logged as no wait, and the one before it as the longest. -/
theorem longer_wait_logged_as_none :
    let shorter := (Backoff.constant (.ofMillis 18446744073709551615)).delay 1
    let longer := (Backoff.constant ⟨18446744073709551616 * Duration.milli, by decide⟩).delay 1
    shorter ≤ longer ∧
      (retryScheduled .clientError 429 1 shorter).writtenMillis? = some 18446744073709551615 ∧
      (retryScheduled .clientError 429 1 longer).writtenMillis? = some 0 :=
  ⟨by decide, rfl, rfl⟩

end CloudReach.Event
