import CloudReach.Proofs.Calendar
import CloudReach.Proofs.Fields
import CloudReach.Timestamp

/-!
# Stamps of instants

A signed request is stamped with the end of its window. The end is the instant an interval after the
current one, if the calendar has that instant. In the years of four digits its stamp has one form,
and gives back the end to the millisecond, rounded down also before 1970; so stamps are in the order
of the ends.
-/

namespace CloudReach

/-! ### Moments -/

structure Moment where
  date : Date
  hour : Nat
  minute : Nat
  second : Nat
  milli : Nat
deriving DecidableEq

namespace Moment

structure IsCivil (m : Moment) : Prop where
  date : m.date.IsCivil
  hour_lt : m.hour < 24
  minute_lt : m.minute < 60
  second_lt : m.second < 60
  milli_lt : m.milli < 1000

def millis (m : Moment) : Int :=
  (((m.date.dayNumber * 24 + m.hour) * 60 + m.minute) * 60 + m.second) * 1000 + m.milli

def ofMillis (ms : Int) : Moment :=
  let clock := (ms % 86400000).toNat
  { date := Date.ofDays (ms / 86400000)
    hour := clock / 3600000
    minute := clock / 60000 % 60
    second := clock / 1000 % 60
    milli := clock % 1000 }

theorem isCivil_ofMillis (ms : Int) : (ofMillis ms).IsCivil := by
  constructor
  · exact Date.isCivil_ofDays _
  all_goals
    simp only [ofMillis]
    omega

theorem millis_ofMillis (ms : Int) : (ofMillis ms).millis = ms := by
  simp only [millis, ofMillis, Date.dayNumber_ofDays]
  omega

/-! ### Stamps of moments -/

def layout : Text.Layout :=
  [(4, '-'), (2, '-'), (2, 'T'), (2, ':'), (2, ':'), (2, '.'), (3, 'Z')]

theorem pattern_layout : layout.pattern = "0000-00-00T00:00:00.000Z".toList := by decide

def fields (m : Moment) : List Nat :=
  [m.date.year.toNat, m.date.month, m.date.day, m.hour, m.minute, m.second, m.milli]

def ofFields : List Nat → Option Moment
  | [year, month, day, hour, minute, second, milli] =>
    some ⟨⟨year, month, day⟩, hour, minute, second, milli⟩
  | _ => none

def read? (s : String) : Option Moment :=
  ofFields (layout.read s.toList)

variable {m m' : Moment}

theorem ofFields_fields (hyear : 0 ≤ m.date.year) : ofFields m.fields = some m := by
  rw [fields, ofFields, Int.toNat_of_nonneg hyear]

theorem fits_fields (h : m.IsCivil) (hyear : m.date.year ≤ 9999) : layout.Fits m.fields := by
  obtain ⟨⟨-, hmonth, -, hday⟩, hhour, hminute, hsecond, hmilli⟩ := h
  have hlength := Date.monthLength_le m.date.year m.date.month
  simp only [Text.Layout.Fits, layout, fields, List.forall₂_cons, List.Forall₂.nil, and_true]
  omega

/-- The fields of moments come one before the other as the moments do. -/
theorem fields_lt_iff (h : m.IsCivil) (h' : m'.IsCivil) (hyear : 0 ≤ m.date.year)
    (hyear' : 0 ≤ m'.date.year) : m.fields < m'.fields ↔ m.millis < m'.millis := by
  obtain ⟨hdate, hhour, hminute, hsecond, hmilli⟩ := h
  obtain ⟨hdate', hhour', hminute', hsecond', hmilli'⟩ := h'
  simp only [fields, millis, List.cons_lt_cons_iff, List.not_lt_nil, and_false, or_false]
  rcases Date.before_or_eq_or_before m.date m'.date with hbefore | heq | hafter
  · have hdays := (Date.before_iff hdate hdate').mp hbefore
    unfold Date.Before at hbefore
    omega
  · rw [heq]
    omega
  · have hdays := (Date.before_iff hdate' hdate).mp hafter
    unfold Date.Before at hafter
    omega

end Moment

namespace Instant

theorem dayNanos_eq : dayNanos = 86400000000000 := by decide

theorem date_eq (t : Instant) : t.date = (Moment.ofMillis t.millis).date := by
  have hdays : t.nanos / 86400000000000 = t.nanos / 1000000 / 86400000 := by omega
  rw [date, dayNanos_eq, hdays]
  rfl

theorem timeOfDay_eq (t : Instant) : t.timeOfDay = (t.millis % 86400000).toNat := by
  have hclock : t.nanos % 86400000000000 / 1000000 = t.nanos / 1000000 % 86400000 := by omega
  rw [timeOfDay, dayNanos_eq]
  exact congrArg Int.toNat hclock

def InYears (first last n : Int) : Prop :=
  Date.yearStart first * dayNanos ≤ n ∧ n < Date.yearStart (last + 1) * dayNanos

theorem inYears_iff {first last n : Int} :
    InYears first last n ↔
      first ≤ (Date.ofDays (n / dayNanos)).year ∧ (Date.ofDays (n / dayNanos)).year ≤ last := by
  have hpos : 0 < dayNanos := by decide
  have hlast : (Date.ofDays (n / dayNanos)).year ≤ last ↔
      ¬ last + 1 ≤ (Date.ofDays (n / dayNanos)).year := by omega
  rw [hlast, Date.le_year_iff, Date.le_year_iff, Int.le_ediv_iff_mul_le hpos,
    Int.le_ediv_iff_mul_le hpos, Int.not_le]
  rfl

/-- The calendar has the years from -262143 to 262142. -/
theorem calendar_iff {n : Int} : (firstNanos ≤ n ∧ n ≤ lastNanos) ↔ InYears (-262143) 262142 n := by
  have hfirst : Date.yearStart (-262143) * dayNanos = firstNanos := by decide
  have hlast : Date.yearStart (262142 + 1) * dayNanos = lastNanos + 1 := by decide
  rw [InYears, hfirst, hlast, Int.lt_add_one_iff]

variable {t u : Instant}

theorem InYears.fits (h : InYears 0 9999 t.nanos) :
    Moment.layout.Fits (Moment.ofMillis t.millis).fields := by
  apply Moment.fits_fields (Moment.isCivil_ofMillis _)
  rw [← date_eq]
  exact (inYears_iff.mp h).2

theorem InYears.year_nonneg (h : InYears 0 9999 t.nanos) :
    0 ≤ (Moment.ofMillis t.millis).date.year := by
  rw [← date_eq]
  exact (inYears_iff.mp h).1

theorem text_eq (h : InYears 0 9999 t.nanos) :
    t.text.toList = Moment.layout.write (Moment.ofMillis t.millis).fields := by
  have hyear : yearText t.date.year = Text.padded 4 t.date.year.toNat :=
    if_pos (inYears_iff.mp h)
  have hfits := h.fits
  simp only [Text.Layout.Fits, Moment.layout, Moment.fields, List.forall₂_cons] at hfits
  obtain ⟨hyears, hmonth, hday, hhour, hminute, hsecond, hmilli, -⟩ := hfits
  rw [text, String.toList_ofList, hyear, date_eq, timeOfDay_eq, Moment.layout, Moment.fields,
    Text.Layout.write_cons hyears, Text.Layout.write_cons hmonth, Text.Layout.write_cons hday,
    Text.Layout.write_cons hhour, Text.Layout.write_cons hminute, Text.Layout.write_cons hsecond,
    Text.Layout.write_cons hmilli]
  simp [Text.Layout.write, Moment.ofMillis]

theorem read?_text (h : InYears 0 9999 t.nanos) :
    Moment.read? t.text = some (Moment.ofMillis t.millis) := by
  rw [Moment.read?, text_eq h, Text.Layout.read_write h.fits, Moment.ofFields_fields h.year_nonneg]

theorem matches_text (h : InYears 0 9999 t.nanos) :
    Text.Matches "0000-00-00T00:00:00.000Z".toList t.text.toList := by
  rw [text_eq h, ← Moment.pattern_layout]
  exact Text.Layout.matches_write h.fits

theorem text_lt_text_iff (h : InYears 0 9999 t.nanos) (h' : InYears 0 9999 u.nanos) :
    t.text < u.text ↔ t.millis < u.millis := by
  rw [String.lt_iff, text_eq h, text_eq h', Text.Layout.write_lt_write_iff h.fits h'.fits,
    Moment.fields_lt_iff (Moment.isCivil_ofMillis _) (Moment.isCivil_ofMillis _) h.year_nonneg
      h'.year_nonneg, Moment.millis_ofMillis, Moment.millis_ofMillis]

end Instant

namespace Freshness

open Instant

variable {f : Freshness}

/-- A step from one instant of the calendar to another is never too long. -/
theorem interval_le_maxStep (h : InYears (-262143) 262142 (f.now.nanos + f.interval.nanos)) :
    f.interval.nanos ≤ maxStep := by
  have hfirst := f.now.first_le
  have hlast := (calendar_iff.mpr h).2
  simp only [firstNanos, lastNanos, maxStep, Duration.milli] at *
  omega

theorem expiry_of_inYears (h : InYears (-262143) 262142 (f.now.nanos + f.interval.nanos)) :
    f.expiry.nanos = f.now.nanos + f.interval.nanos := by
  rw [expiry, Instant.add?, if_pos (interval_le_maxStep h), Instant.ofNanos?,
    dif_pos (calendar_iff.mpr h)]
  rfl

theorem expiry_of_not_inYears (h : ¬ InYears (-262143) 262142 (f.now.nanos + f.interval.nanos)) :
    f.expiry = f.now := by
  have hnone : f.now.add? f.interval = none := by
    rw [Instant.add?, Instant.ofNanos?, dif_neg (mt calendar_iff.mp h), ite_self]
  rw [expiry, hnone]
  rfl

theorem now_le_expiry (f : Freshness) : f.now.nanos ≤ f.expiry.nanos := by
  by_cases h : InYears (-262143) 262142 (f.now.nanos + f.interval.nanos)
  · have hsum := expiry_of_inYears h
    omega
  · exact Int.le_of_eq (congrArg Instant.nanos (expiry_of_not_inYears h).symm)

/-- A window ends an interval after the current instant, to the nanosecond, if the calendar has that
instant; if not it ends at once. In the years from 0 to 9999 the stamp of its end has one form, its
fields are a moment of the calendar, which is the end rounded down to the millisecond, and two
stamps are in the order of the two moments, so never against that of the ends. -/
theorem stamp_rounds_expiry (f : Freshness) :
    (InYears (-262143) 262142 (f.now.nanos + f.interval.nanos) →
      f.expiry.nanos = f.now.nanos + f.interval.nanos) ∧
    (¬ InYears (-262143) 262142 (f.now.nanos + f.interval.nanos) → f.expiry = f.now) ∧
    f.now.nanos ≤ f.expiry.nanos ∧
    (InYears 0 9999 f.expiry.nanos →
      f.stamp.length = 24 ∧
      Text.Matches "0000-00-00T00:00:00.000Z".toList f.stamp.toList ∧
      (∃ m, Moment.read? f.stamp = some m ∧ m.IsCivil ∧
        m.millis = f.expiry.nanos / Duration.milli) ∧
      ∀ g : Freshness, InYears 0 9999 g.expiry.nanos →
        (f.stamp < g.stamp ↔ f.expiry.millis < g.expiry.millis) ∧
        (f.expiry.nanos ≤ g.expiry.nanos → f.stamp ≤ g.stamp)) := by
  refine ⟨expiry_of_inYears, expiry_of_not_inYears, f.now_le_expiry, fun hf => ?_⟩
  have hform := matches_text hf
  have hmoment : (Moment.ofMillis f.expiry.millis).millis = f.expiry.nanos / Duration.milli :=
    Moment.millis_ofMillis _
  refine ⟨?_, hform, ⟨_, read?_text hf, Moment.isCivil_ofMillis _, hmoment⟩, fun g hg => ?_⟩
  · rw [← String.length_toList]
    exact hform.length_eq.symm
  · refine ⟨text_lt_text_iff hf hg, fun hle => ?_⟩
    have hmillis : f.expiry.millis ≤ g.expiry.millis := Int.ediv_le_ediv (by decide) hle
    have hnot : ¬ g.stamp < f.stamp := by
      rw [stamp, stamp, text_lt_text_iff hg hf]
      omega
    exact String.not_lt.mp hnot

/-- The millisecond before 1970. -/
example : stamp ⟨Instant.ofMillis (-1), Duration.zero⟩ = "1969-12-31T23:59:59.999Z" := by decide

end Freshness

end CloudReach
