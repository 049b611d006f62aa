import CloudReach.Calendar
import Mathlib.Tactic.IntervalCases

/-!
# Days of the civil calendar

What a date of the Gregorian calendar is, said by leap years and the lengths of months, and its
number of days from 1 January 1970, said by counting whole years and months. `Date.ofDays` gives the
date of every day number, and day numbers are in the order of years, months and days.
-/

namespace CloudReach.Date

/-! ### Years and months -/

def IsLeap (y : Int) : Prop :=
  y % 4 = 0 ∧ (y % 100 ≠ 0 ∨ y % 400 = 0)

instance : DecidablePred IsLeap :=
  fun _ => inferInstanceAs (Decidable (_ ∧ _))

def leapDays (y : Int) : Nat :=
  if IsLeap y then 1 else 0

def monthLength (y : Int) : Nat → Nat
  | 2 => 28 + leapDays y
  | 4 | 6 | 9 | 11 => 30
  | _ => 31

def daysBefore (y : Int) : Nat → Nat
  | 0 | 1 => 0
  | m + 2 => daysBefore y (m + 1) + monthLength y (m + 1)

/-- The days from 1 January 1970 to that of a year: whole years, and a day for each leap year. -/
def yearStart (y : Int) : Int :=
  365 * (y - 1) + (y - 1) / 4 - (y - 1) / 100 + (y - 1) / 400 - 719162

structure IsCivil (d : Date) : Prop where
  month_pos : 1 ≤ d.month
  month_le : d.month ≤ 12
  day_pos : 1 ≤ d.day
  day_le : d.day ≤ monthLength d.year d.month

def dayNumber (d : Date) : Int :=
  yearStart d.year + daysBefore d.year d.month + d.day - 1

example : yearStart 1970 = 0 := by decide

theorem leapDays_cases (y : Int) :
    (leapDays y = 1 ∧ y % 4 = 0 ∧ (y % 100 ≠ 0 ∨ y % 400 = 0)) ∨
      (leapDays y = 0 ∧ ¬ (y % 4 = 0 ∧ (y % 100 ≠ 0 ∨ y % 400 = 0))) := by
  unfold leapDays
  split
  · exact .inl ⟨rfl, ‹_›⟩
  · exact .inr ⟨rfl, ‹_›⟩

/-- A year has 365 days, and one more in a leap year. -/
theorem yearStart_succ (y : Int) : yearStart (y + 1) = yearStart y + 365 + leapDays y := by
  have hleap := leapDays_cases y
  unfold yearStart
  omega

theorem yearStart_mono {y z : Int} (h : y ≤ z) : yearStart y ≤ yearStart z := by
  unfold yearStart
  omega

theorem monthLength_le (y : Int) (m : Nat) : monthLength y m ≤ 31 := by
  have hleap := leapDays_cases y
  unfold monthLength
  split <;> omega

theorem daysBefore_succ {m : Nat} (y : Int) (h : 1 ≤ m) :
    daysBefore y (m + 1) = daysBefore y m + monthLength y m := by
  obtain ⟨k, rfl⟩ := Nat.exists_eq_add_of_le' h
  rfl

theorem daysBefore_mono {m n : Nat} (y : Int) (h : m ≤ n) : daysBefore y m ≤ daysBefore y n := by
  induction n with
  | zero => exact Nat.le_of_eq (congrArg (daysBefore y) (Nat.le_zero.mp h))
  | succ n ih =>
    rcases Nat.eq_or_lt_of_le h with rfl | hlt
    · exact Nat.le_refl _
    · refine Nat.le_trans (ih (Nat.le_of_lt_succ hlt)) ?_
      cases n with
      | zero => exact Nat.le_refl _
      | succ n => exact Nat.le_add_right ..

/-- The months of a year fill it. -/
theorem daysBefore_end (y : Int) : daysBefore y 13 = 365 + leapDays y := by
  simp only [daysBefore, monthLength]
  omega

/-! ### The order of dates -/

variable {d e : Date}

theorem IsCivil.dayNumber_lt (h : d.IsCivil) :
    d.dayNumber < yearStart d.year + daysBefore d.year (d.month + 1) := by
  have hday := h.day_le
  rw [daysBefore_succ _ h.month_pos]
  unfold dayNumber
  omega

theorem IsCivil.yearStart_le (h : d.IsCivil) : yearStart d.year ≤ d.dayNumber := by
  have hday := h.day_pos
  unfold dayNumber
  omega

theorem IsCivil.lt_yearStart (h : d.IsCivil) : d.dayNumber < yearStart (d.year + 1) := by
  have hlt := h.dayNumber_lt
  have hmonth : daysBefore d.year (d.month + 1) ≤ daysBefore d.year 13 :=
    daysBefore_mono _ (Nat.succ_le_succ h.month_le)
  rw [daysBefore_end] at hmonth
  rw [yearStart_succ]
  omega

def Before (d e : Date) : Prop :=
  d.year < e.year ∨ d.year = e.year ∧ (d.month < e.month ∨ d.month = e.month ∧ d.day < e.day)

theorem dayNumber_lt_of_before (hd : d.IsCivil) (he : e.IsCivil) (h : d.Before e) :
    d.dayNumber < e.dayNumber := by
  rcases h with hyear | ⟨hyear, hmonth | ⟨hmonth, hday⟩⟩
  · have hlt := hd.lt_yearStart
    have hle := he.yearStart_le
    have hmono : yearStart (d.year + 1) ≤ yearStart e.year := yearStart_mono hyear
    omega
  · have hlt := hd.dayNumber_lt
    have hmono : daysBefore d.year (d.month + 1) ≤ daysBefore d.year e.month :=
      daysBefore_mono _ hmonth
    have hday := he.day_pos
    unfold dayNumber at hlt ⊢
    rw [← hyear]
    omega
  · unfold dayNumber
    rw [hyear, hmonth]
    omega

theorem before_or_eq_or_before (d e : Date) : d.Before e ∨ d = e ∨ e.Before d := by
  obtain ⟨y, m, n⟩ := d
  obtain ⟨y', m', n'⟩ := e
  simp only [Before, Date.mk.injEq]
  omega

/-- Dates come one before the other as their day numbers do. -/
theorem before_iff (hd : d.IsCivil) (he : e.IsCivil) :
    d.Before e ↔ d.dayNumber < e.dayNumber := by
  refine ⟨dayNumber_lt_of_before hd he, fun hlt => ?_⟩
  rcases before_or_eq_or_before d e with hbefore | rfl | hafter
  · exact hbefore
  · omega
  · have hgt := dayNumber_lt_of_before he hd hafter
    omega

/-! ### Years from March -/

def marchStart (y : Int) : Int :=
  365 * y + y / 4 - y / 100 + y / 400

theorem marchStart_succ (y : Int) : marchStart (y + 1) = marchStart y + 365 + leapDays (y + 1) := by
  have hleap := leapDays_cases (y + 1)
  unfold marchStart
  omega

theorem marchStart_eq (y : Int) : marchStart y = yearStart y + 59 + leapDays y + epochShift := by
  have hsucc := marchStart_succ (y - 1)
  rw [Int.sub_add_cancel] at hsucc
  rw [hsucc]
  unfold marchStart yearStart epochShift
  omega

/-- The date with a month counted from March, and a day counted from zero. -/
def ofMarch (y : Int) (m n : Nat) : Date :=
  { year := if m < 10 then y else y + 1
    month := if m < 10 then m + 3 else m - 9
    day := n + 1 }

/-- From March on the months have 153 days in every five. -/
theorem daysBefore_of_march (y : Int) {m : Nat} (h : m < 10) :
    daysBefore y (m + 3) = 59 + leapDays y + (153 * m + 2) / 5 := by
  interval_cases m <;> simp only [daysBefore, monthLength] <;> omega

theorem dayNumber_ofMarch (y : Int) {m : Nat} (n : Nat) (hm : m ≤ 11) :
    (ofMarch y m n).dayNumber = marchStart y - epochShift + (153 * m + 2) / 5 + n := by
  have hmarch := marchStart_eq y
  by_cases hearly : m < 10
  · simp only [ofMarch, dayNumber, if_pos hearly, daysBefore_of_march y hearly]
    omega
  · have hsucc := yearStart_succ y
    obtain rfl | rfl : m = 10 ∨ m = 11 := by omega
    all_goals
      simp [ofMarch, dayNumber, daysBefore, monthLength]
      omega

theorem monthLength_of_march (y : Int) {m : Nat} (h : m < 10) :
    monthLength y (m + 3) = (153 * (m + 1) + 2) / 5 - (153 * m + 2) / 5 := by
  interval_cases m <;> rfl

theorem isCivil_ofMarch (y : Int) {m n : Nat} (hm : m ≤ 11)
    (hn : (153 * m + 2) / 5 + n < (153 * (m + 1) + 2) / 5)
    (hyear : (153 * m + 2) / 5 + n < 365 + leapDays (y + 1)) : (ofMarch y m n).IsCivil := by
  by_cases hearly : m < 10
  · have hlength := monthLength_of_march y hearly
    constructor <;> simp only [ofMarch, if_pos hearly] <;> omega
  · obtain rfl | rfl : m = 10 ∨ m = 11 := by omega
    all_goals
      refine ⟨by simp [ofMarch], by simp [ofMarch], Nat.succ_pos n, ?_⟩
      simp [ofMarch, monthLength]
      omega

/-! ### Dates of day numbers -/

/-- Of a century the years are found with a leap day taken out for every 1460 days, and `k` days, of
the centuries before, make no difference. -/
theorem year_of_century {doc k r : Nat} (hdoc : doc ≤ 36524) (hk : k ≤ 72)
    (hr : r = (doc - (doc + k) / 1460) / 365) :
    r < 100 ∧ 365 * r + r / 4 ≤ doc ∧ doc < 365 * (r + 1) + (r + 1) / 4 := by
  obtain ⟨q, d, hd, rfl⟩ : ∃ q d, d < 1461 ∧ doc = 1461 * q + d :=
    ⟨doc / 1461, doc % 1461, by omega, by omega⟩
  have hq : q ≤ 24 := by omega
  by_cases hlast : q + d + k < 1460
  · have hquads : (1461 * q + d + k) / 1460 = q := by omega
    rw [hquads] at hr
    omega
  · have hquads : (1461 * q + d + k) / 1460 = q + 1 := by omega
    rw [hquads] at hr
    omega

/-- Only the last century of an era has its last day. -/
theorem century_of_era {doe : Nat} (h : doe < 146097) :
    ∃ c doc, c ≤ 3 ∧ doc ≤ 36524 ∧ (doc = 36524 → c = 3) ∧ doe = 36524 * c + doc ∧
      doe / 36524 = c + doe / 146096 := by
  by_cases hlast : doe = 146096
  · exact ⟨3, 36524, by omega, by omega, by omega, by omega, by omega⟩
  · exact ⟨doe / 36524, doe % 36524, by omega, by omega, by omega, by omega, by omega⟩

/-- The formula for the year of an era gives the year of a century behind so many centuries. -/
theorem year_of_era_eq {c doc doe : Nat} (hdoe : doe = 36524 * c + doc)
    (hcentury : doe / 36524 = c + doe / 146096) :
    (doe - doe / 1460 + doe / 36524 - doe / 146096) / 365 =
      100 * c + (doc - (doc + 24 * c) / 1460) / 365 := by
  have hquads : doe / 1460 = 25 * c + (doc + 24 * c) / 1460 := by omega
  have hdays : doe - doe / 1460 + doe / 36524 - doe / 146096 =
      doc - (doc + 24 * c) / 1460 + 365 * (100 * c) := by
    rw [hcentury, hquads, hdoe]
    omega
  rw [hdays, Nat.add_mul_div_left _ _ (by decide), Nat.add_comm]

/-- The year of an era in which a day of it lies. -/
theorem year_of_era {doe yoe : Nat} (h : doe < 146097)
    (hyoe : yoe = (doe - doe / 1460 + doe / 36524 - doe / 146096) / 365) :
    yoe < 400 ∧ 365 * yoe + yoe / 4 - yoe / 100 ≤ doe ∧
      doe < 365 * (yoe + 1) + (yoe + 1) / 4 - (yoe + 1) / 100 + (yoe + 1) / 400 := by
  obtain ⟨c, doc, hc, hdoc, hlast, hdoe, hcentury⟩ := century_of_era h
  obtain ⟨hr, hlow, hhigh⟩ := year_of_century hdoc (show 24 * c ≤ 72 by omega) rfl
  rw [year_of_era_eq hdoe hcentury] at hyoe
  generalize (doc - (doc + 24 * c) / 1460) / 365 = r at hr hlow hhigh hyoe
  subst hyoe hdoe
  clear hcentury
  have hquads : (100 * c + r) / 4 = 25 * c + r / 4 := by omega
  have hhundreds : (100 * c + r) / 100 = c := by omega
  have hnext : (100 * c + r + 1) / 4 = 25 * c + (r + 1) / 4 := by omega
  refine ⟨by omega, by omega, ?_⟩
  -- Behind the last year of a century the next one begins, and behind that of the last an era.
  by_cases hends : r = 99
  · have hcenturies : (100 * c + r + 1) / 100 = c + 1 := by omega
    have heras : (100 * c + r + 1) / 400 = (c + 1) / 4 := by omega
    rw [hnext, hcenturies, heras]
    omega
  · have hcenturies : (100 * c + r + 1) / 100 = c := by omega
    have heras : (100 * c + r + 1) / 400 = 0 := by omega
    rw [hnext, hcenturies, heras]
    omega

/-- Every 400 years have the same days. -/
theorem marchStart_era (era : Int) (yoe : Nat) :
    marchStart (era * 400 + yoe) =
      146097 * era + ((365 * yoe + yoe / 4 - yoe / 100 + yoe / 400 : Nat) : Int) := by
  unfold marchStart
  omega

/-- A day from 1 March of year zero is a day of the year found for it, counted from its March. -/
theorem year_of_day {z : Int} {doe yoe doy : Nat} (hdoe : doe = (z % 146097).toNat)
    (hyoe : yoe = (doe - doe / 1460 + doe / 36524 - doe / 146096) / 365)
    (hdoy : doy = doe - (365 * yoe + yoe / 4 - yoe / 100)) :
    z = marchStart (z / 146097 * 400 + yoe) + doy ∧
      doy < 365 + leapDays (z / 146097 * 400 + yoe + 1) := by
  obtain ⟨hera, hlow, hhigh⟩ := year_of_era (show doe < 146097 by omega) hyoe
  have hsum : doe = 365 * yoe + yoe / 4 - yoe / 100 + doy := by omega
  have hstart := marchStart_era (z / 146097) yoe
  have hend := marchStart_era (z / 146097) (yoe + 1)
  have hyear := marchStart_succ (z / 146097 * 400 + yoe)
  rw [Int.natCast_add, ← Int.add_assoc, Int.natCast_one, hyear] at hend
  clear hyoe hdoy hyear
  constructor <;> omega

theorem month_of_year {doy m : Nat} (h : doy < 366) (hm : m = (5 * doy + 2) / 153) :
    m ≤ 11 ∧ (153 * m + 2) / 5 ≤ doy ∧ doy < (153 * (m + 1) + 2) / 5 := by
  omega

/-- A day number is that of a day counted from the March of a year, which has so many days. -/
theorem ofDays_eq (days : Int) :
    ∃ y m n, ofDays days = ofMarch y m n ∧ m ≤ 11 ∧
      (153 * m + 2) / 5 + n < (153 * (m + 1) + 2) / 5 ∧
      (153 * m + 2) / 5 + n < 365 + leapDays (y + 1) ∧
      days = marchStart y - epochShift + (153 * m + 2) / 5 + n := by
  obtain ⟨doe, hdoe⟩ : ∃ doe, doe = ((days + epochShift) % 146097).toNat := ⟨_, rfl⟩
  obtain ⟨yoe, hyoe⟩ : ∃ yoe, yoe = (doe - doe / 1460 + doe / 36524 - doe / 146096) / 365 :=
    ⟨_, rfl⟩
  obtain ⟨doy, hdoy⟩ : ∃ doy, doy = doe - (365 * yoe + yoe / 4 - yoe / 100) := ⟨_, rfl⟩
  obtain ⟨m, hm⟩ : ∃ m, m = (5 * doy + 2) / 153 := ⟨_, rfl⟩
  obtain ⟨hdays, hlength⟩ := year_of_day hdoe hyoe hdoy
  have hshort : doy < 366 := by
    have hleap := leapDays_cases ((days + epochShift) / 146097 * 400 + yoe + 1)
    omega
  obtain ⟨hm11, hfirst, hnext⟩ := month_of_year hshort hm
  refine ⟨(days + epochShift) / 146097 * 400 + yoe, m, doy - (153 * m + 2) / 5, ?_, hm11, ?_, ?_,
    ?_⟩
  · simp only [ofDays, ofMarch, ← hdoe, ← hyoe, ← hdoy, ← hm]
    -- January and February, the last months from March, fall in the next year.
    by_cases hmarch : m < 10
    · simp [hmarch]
    · simp [hmarch, hm11]
  · rwa [Nat.add_sub_cancel' hfirst]
  · rwa [Nat.add_sub_cancel' hfirst]
  · omega

/-- Every day number has a date, and its number is that number. -/
theorem isCivil_ofDays (days : Int) : (ofDays days).IsCivil := by
  obtain ⟨y, m, n, heq, hm, hn, hyear, -⟩ := ofDays_eq days
  rw [heq]
  exact isCivil_ofMarch y hm hn hyear

theorem dayNumber_ofDays (days : Int) : (ofDays days).dayNumber = days := by
  obtain ⟨y, m, n, heq, hm, -, -, hdays⟩ := ofDays_eq days
  rw [heq, dayNumber_ofMarch y n hm, hdays]

/-- A day lies in a year or later if the year has begun. -/
theorem le_year_iff {y days : Int} : y ≤ (ofDays days).year ↔ yearStart y ≤ days := by
  have hle := (isCivil_ofDays days).yearStart_le
  have hlt := (isCivil_ofDays days).lt_yearStart
  rw [dayNumber_ofDays] at hle hlt
  constructor
  · intro hyear
    exact Int.le_trans (yearStart_mono hyear) hle
  · intro hstart
    by_contra hyear
    have hmono : yearStart ((ofDays days).year + 1) ≤ yearStart y := yearStart_mono (by omega)
    omega

end CloudReach.Date
