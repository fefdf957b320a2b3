import OroEdge.Lib.Calendar
import Mathlib.Tactic.IntervalCases

/-!
# The Gregorian calendar

The leap years, the lengths of the months, and the day that has a date
(`dayNumber`).  Dates are ordered by year, month and day, and so are their days
(`Date.Before.dayNumber_lt`); hence `civilDate`, which computes a date from a
day, is the inverse of `dayNumber` on the dates that exist.

The rules are stated as one learns them: which years have a leap day, and how many days each
month has.  A day number is made of them by adding up (`Date.dayNumber`), so that the order of
dates is the order of days: a year ends where the next one begins (`newYearsDay_succ`), a month
likewise (`monthEnd_le`), and from this two dates of one day are equal
(`Date.eq_of_dayNumber_eq`).

The other direction starts from the computation of `civilDate`, with its eras and its years that
begin in March.  The first of March of a year is found 306 days before a new year
(`monthStart_march`), the year of a day in an era is enclosed from both sides (`yearOfEra_le`,
`lt_yearOfEra_succ`), and so the date that is computed is a date that exists and has the day
that was given (`dayNumber_civilDate`).  With the order of dates that makes the two functions
inverse to each other.
-/

namespace OroEdge.Lib

/-- Every fourth year, but of the full centuries only every fourth. -/
def LeapYear (year : ℤ) : Prop := 4 ∣ year ∧ (¬ 100 ∣ year ∨ 400 ∣ year)

instance (year : ℤ) : Decidable (LeapYear year) :=
  inferInstanceAs (Decidable (_ ∧ (_ ∨ _)))

/-- The number of days of a month. -/
def monthLength (year month : ℤ) : ℤ :=
  if month = 2 then if LeapYear year then 29 else 28
  else if month = 4 ∨ month = 6 ∨ month = 9 ∨ month = 11 then 30
  else 31

/-- The days of the year before the first of the month. -/
def daysBefore (year month : ℤ) : ℤ :=
  (367 * month - 362) / 12 - if month ≤ 2 then 0 else if LeapYear year then 1 else 2

/-- The number of the first day of a month. -/
def monthStart (year month : ℤ) : ℤ := newYearsDay year + daysBefore year month

/-- The number of the day that has the date. -/
def Date.dayNumber (date : Date) : ℤ := monthStart date.year date.month + (date.day - 1)

/-- The date exists. -/
structure Date.Valid (date : Date) : Prop where
  month_pos : 1 ≤ date.month
  month_le : date.month ≤ 12
  day_pos : 1 ≤ date.day
  day_le : date.day ≤ monthLength date.year date.month

instance (date : Date) : Decidable date.Valid :=
  decidable_of_iff (1 ≤ date.month ∧ date.month ≤ 12 ∧ 1 ≤ date.day ∧
      date.day ≤ monthLength date.year date.month)
    ⟨fun h => ⟨h.1, h.2.1, h.2.2.1, h.2.2.2⟩,
      fun h => ⟨h.month_pos, h.month_le, h.day_pos, h.day_le⟩⟩

example : Date.Valid ⟨2000, 2, 29⟩ ∧ ¬ Date.Valid ⟨1900, 2, 29⟩ ∧
    Date.dayNumber ⟨2000, 2, 29⟩ = 11016 := by decide

/-- The order of the dates. -/
def Date.Before (first second : Date) : Prop :=
  first.year < second.year ∨ first.year = second.year ∧
    (first.month < second.month ∨ first.month = second.month ∧ first.day < second.day)

variable {year month : ℤ} {date other : Date}

theorem Date.before_trichotomy (first second : Date) :
    first.Before second ∨ first = second ∨ second.Before first := by
  obtain ⟨year, month, day⟩ := first
  obtain ⟨year', month', day'⟩ := second
  simp only [Date.Before, Date.mk.injEq]
  omega

/-! ## Months and years follow each other -/

theorem monthLength_ge (year month : ℤ) : 28 ≤ monthLength year month := by
  unfold monthLength
  split_ifs <;> omega

theorem monthLength_le (year month : ℤ) : monthLength year month ≤ 31 := by
  unfold monthLength
  split_ifs <;> omega

theorem daysBefore_one (year : ℤ) : daysBefore year 1 = 0 := rfl

theorem daysBefore_succ (hpos : 1 ≤ month) (hle : month ≤ 12) :
    daysBefore year (month + 1) = daysBefore year month + monthLength year month := by
  unfold daysBefore monthLength
  by_cases hleap : LeapYear year
  · simp only [hleap, if_true]
    interval_cases month <;> rfl
  · simp only [hleap, if_false]
    interval_cases month <;> rfl

/-- A year ends with the 31 days of December. -/
theorem newYearsDay_succ (year : ℤ) :
    newYearsDay (year + 1) = newYearsDay year + daysBefore year 12 + 31 := by
  unfold newYearsDay daysBefore LeapYear
  split_ifs <;> omega

theorem newYearsDay_mono {first second : ℤ} (hle : first ≤ second) :
    newYearsDay first ≤ newYearsDay second := by
  unfold newYearsDay
  omega

theorem daysBefore_mono (year : ℤ) {first second : ℤ} (hle : first ≤ second) :
    daysBefore year first ≤ daysBefore year second := by
  rcases hle.eq_or_lt with rfl | hlt
  · exact le_rfl
  · unfold daysBefore
    split_ifs <;> omega

theorem daysBefore_nonneg (year : ℤ) (hpos : 1 ≤ month) : 0 ≤ daysBefore year month :=
  (daysBefore_one year).symm.le.trans (daysBefore_mono year hpos)

theorem monthEnd_le_december (year : ℤ) (hpos : 1 ≤ month) (hle : month ≤ 12) :
    daysBefore year month + monthLength year month ≤ daysBefore year 12 + 31 := by
  rcases hle.eq_or_lt with rfl | hlt
  · exact Int.add_le_add_left (monthLength_le year 12) _
  · have hnext := daysBefore_mono year (show month + 1 ≤ 12 by omega)
    rw [daysBefore_succ hpos hle] at hnext
    omega

/-- A month is over when a later one begins. -/
theorem monthEnd_le {year' month' : ℤ} (hpos : 1 ≤ month) (hle : month ≤ 12) (hpos' : 1 ≤ month')
    (hlater : year < year' ∨ year = year' ∧ month < month') :
    monthStart year month + monthLength year month ≤ monthStart year' month' := by
  unfold monthStart
  rcases hlater with hyear | ⟨rfl, hmonth⟩
  · have hend := monthEnd_le_december year hpos hle
    calc newYearsDay year + daysBefore year month + monthLength year month
        ≤ newYearsDay year + daysBefore year 12 + 31 := by omega
      _ = newYearsDay (year + 1) := (newYearsDay_succ year).symm
      _ ≤ newYearsDay year' := newYearsDay_mono (by omega)
      _ ≤ newYearsDay year' + daysBefore year' month' :=
          le_add_of_nonneg_right (daysBefore_nonneg year' hpos')
  · have hnext := daysBefore_mono year (show month + 1 ≤ month' by omega)
    rw [daysBefore_succ hpos hle] at hnext
    omega

/-- The earlier of two dates has the earlier day. -/
theorem Date.Before.dayNumber_lt (hbefore : date.Before other) (hdate : date.Valid)
    (hother : other.Valid) : date.dayNumber < other.dayNumber := by
  unfold Date.dayNumber
  have hday := hdate.day_le
  have hday' := hother.day_pos
  rcases hbefore with hyear | ⟨hyear, hmonth | ⟨hmonth, hlt⟩⟩
  · have := monthEnd_le hdate.month_pos hdate.month_le hother.month_pos (Or.inl hyear)
    omega
  · have := monthEnd_le hdate.month_pos hdate.month_le hother.month_pos (Or.inr ⟨hyear, hmonth⟩)
    omega
  · rw [hyear, hmonth]
    omega

theorem Date.eq_of_dayNumber_eq (hdate : date.Valid) (hother : other.Valid)
    (heq : date.dayNumber = other.dayNumber) : date = other := by
  rcases Date.before_trichotomy date other with h | h | h
  · exact absurd heq (h.dayNumber_lt hdate hother).ne
  · exact h
  · exact absurd heq (h.dayNumber_lt hother hdate).ne'

/-- The dates of the years before `year` are those of the days before its new year. -/
theorem year_lt_iff (year : ℤ) (hdate : date.Valid) :
    date.year < year ↔ date.dayNumber < newYearsDay year := by
  have hpos := hdate.day_pos
  have hle := hdate.day_le
  have hend : monthStart date.year date.month + monthLength date.year date.month ≤
      monthStart (date.year + 1) 1 :=
    monthEnd_le hdate.month_pos hdate.month_le le_rfl (Or.inl (by omega))
  have hbefore := daysBefore_nonneg date.year hdate.month_pos
  simp only [monthStart, daysBefore_one, add_zero] at hend
  unfold Date.dayNumber monthStart
  constructor
  · intro hlt
    have := newYearsDay_mono (show date.year + 1 ≤ year by omega)
    omega
  · intro hlt
    by_contra hge
    have := newYearsDay_mono (show year ≤ date.year by omega)
    omega

/-! ## Years that begin in March

`civilDate` counts in years that begin on the first of March, so that a leap day is
the last day of its year. -/

/-- How many days a year has beyond 365. -/
def leapDays (year : ℤ) : ℤ := if LeapYear year then 1 else 0

theorem newYearsDay_add_one (year : ℤ) :
    newYearsDay (year + 1) = newYearsDay year + 365 + leapDays year := by
  unfold newYearsDay leapDays LeapYear
  split_ifs <;> omega

theorem leapDays_le_one (year : ℤ) : leapDays year ≤ 1 := by
  unfold leapDays
  split_ifs <;> decide

/-- The date of a day of the year that begins in March of `year`. -/
def marchDate (year dayOfYear : ℤ) : Date :=
  let shiftedMonth := (5 * dayOfYear + 2) / 153
  let month := if shiftedMonth < 10 then shiftedMonth + 3 else shiftedMonth - 9
  { year := year + if month ≤ 2 then 1 else 0
    month := month
    day := dayOfYear - (153 * shiftedMonth + 2) / 5 + 1 }

/-- The first of March is the 306th day before a new year. -/
theorem monthStart_march (year : ℤ) : monthStart year 3 = newYearsDay (year + 1) - 306 := by
  unfold monthStart newYearsDay daysBefore LeapYear
  split_ifs <;> omega

theorem monthStart_shifted {shiftedMonth : ℤ} (hnonneg : 0 ≤ shiftedMonth)
    (hlt : shiftedMonth < 10) (year : ℤ) :
    monthStart year (shiftedMonth + 3) =
      newYearsDay (year + 1) - 306 + (153 * shiftedMonth + 2) / 5 := by
  rw [← monthStart_march]
  unfold monthStart daysBefore
  split_ifs <;> omega

theorem dayNumber_marchDate {dayOfYear : ℤ} (hnonneg : 0 ≤ dayOfYear) (hle : dayOfYear ≤ 365)
    (year : ℤ) :
    (marchDate year dayOfYear).dayNumber = newYearsDay (year + 1) - 306 + dayOfYear := by
  unfold Date.dayNumber marchDate
  dsimp only
  generalize hmonth : (5 * dayOfYear + 2) / 153 = shiftedMonth
  by_cases hlt : shiftedMonth < 10
  · rw [if_pos hlt, if_neg (by omega), add_zero, monthStart_shifted (by omega) hlt]
    omega
  · -- January and February
    have hlast : shiftedMonth = 10 ∨ shiftedMonth = 11 := by omega
    rw [if_neg hlt, if_pos (by omega)]
    rcases hlast with rfl | rfl
    · rw [monthStart, show daysBefore (year + 1) (10 - 9) = 0 from rfl]
      omega
    · rw [monthStart, show daysBefore (year + 1) (11 - 9) = 31 from rfl]
      omega

theorem marchDate_valid {year dayOfYear : ℤ} (hnonneg : 0 ≤ dayOfYear)
    (hle : dayOfYear ≤ 364 + leapDays (year + 1)) : (marchDate year dayOfYear).Valid := by
  have hleap := leapDays_le_one (year + 1)
  have hdays : dayOfYear ≤ 365 := by omega
  have hmonth : 0 ≤ (5 * dayOfYear + 2) / 153 ∧ (5 * dayOfYear + 2) / 153 ≤ 11 := by omega
  constructor
  · unfold marchDate
    dsimp only
    split_ifs <;> omega
  · unfold marchDate
    dsimp only
    split_ifs <;> omega
  · unfold marchDate
    dsimp only
    omega
  · unfold marchDate monthLength
    unfold leapDays at hle
    dsimp only
    generalize hshifted : (5 * dayOfYear + 2) / 153 = shiftedMonth at *
    obtain ⟨hlow, hhigh⟩ := hmonth
    interval_cases shiftedMonth
    case «11» =>
      simp only [show ¬ (11 : ℤ) < 10 by decide, if_false, show (11 : ℤ) - 9 = 2 by decide,
        if_true, show (2 : ℤ) ≤ 2 by decide]
      split_ifs at hle ⊢ <;> omega
    all_goals
      simp
      omega

/-- The year of a day of an era has begun by that day. -/
theorem yearOfEra_le {dayOfEra yearOfEra : ℤ} (hnonneg : 0 ≤ dayOfEra) (hlt : dayOfEra < 146097)
    (hyear : yearOfEra =
      (dayOfEra - dayOfEra / 1460 + dayOfEra / 36524 - dayOfEra / 146096) / 365) :
    0 ≤ yearOfEra ∧ yearOfEra ≤ 399 ∧
      365 * yearOfEra + yearOfEra / 4 - yearOfEra / 100 ≤ dayOfEra := by
  have hcentury : dayOfEra / 36524 = 0 ∨ dayOfEra / 36524 = 1 ∨ dayOfEra / 36524 = 2 ∨
      dayOfEra / 36524 = 3 ∨ dayOfEra / 36524 = 4 := by
    omega
  have hleap : yearOfEra / 4 ≤ dayOfEra / 1460 := by
    rcases hcentury with h | h | h | h | h <;> rw [h] at hyear <;> omega
  have hskipped : dayOfEra / 36524 - dayOfEra / 146096 ≤ yearOfEra / 100 := by
    rcases hcentury with h | h | h | h | h <;> rw [h] at hyear <;> omega
  refine ⟨by omega, ?_, by omega⟩
  rcases hcentury with h | h | h | h | h <;> rw [h] at hyear <;> omega

/-- The next year of the era has not begun yet. -/
theorem lt_yearOfEra_succ {dayOfEra yearOfEra : ℤ} (hnonneg : 0 ≤ dayOfEra)
    (hlt : dayOfEra < 146097) (hyear : yearOfEra =
      (dayOfEra - dayOfEra / 1460 + dayOfEra / 36524 - dayOfEra / 146096) / 365) :
    dayOfEra < 365 * (yearOfEra + 1) + (yearOfEra + 1) / 4 - (yearOfEra + 1) / 100 +
      (yearOfEra + 1) / 400 := by
  rcases (show dayOfEra ≤ 146096 by omega).eq_or_lt with rfl | hbefore
  · rw [hyear]
    decide
  · have hlast : dayOfEra / 146096 = 0 := by omega
    have hcentury : dayOfEra / 36524 = 0 ∨ dayOfEra / 36524 = 1 ∨ dayOfEra / 36524 = 2 ∨
        dayOfEra / 36524 = 3 := by
      omega
    rw [hlast] at hyear
    have hhundred : yearOfEra + 1 = 100 * (dayOfEra / 36524 + 1) ∨
        (yearOfEra + 1) / 100 = dayOfEra / 36524 := by
      rcases hcentury with h | h | h | h <;> rw [h] at hyear ⊢ <;> omega
    -- the last year of a century, or one within it
    rcases hhundred with hyears | hyears
    · rw [hyears]
      omega
    · have hwhole : (yearOfEra + 1) / 400 = 0 := by omega
      rw [hyears, hwhole]
      rcases hcentury with h | h | h | h <;> rw [h] at hyear hyears ⊢ <;> omega

/-- An era of 400 years has 146097 days. -/
theorem newYearsDay_era (yearOfEra era : ℤ) :
    newYearsDay (yearOfEra + era * 400 + 1) =
      365 * yearOfEra + yearOfEra / 4 - yearOfEra / 100 + yearOfEra / 400 + 146097 * era -
        719162 := by
  have hfour : (yearOfEra + era * 400) / 4 = yearOfEra / 4 + 100 * era := by omega
  have hhundred : (yearOfEra + era * 400) / 100 = yearOfEra / 100 + 4 * era := by omega
  have hwhole : (yearOfEra + era * 400) / 400 = yearOfEra / 400 + era := by omega
  unfold newYearsDay
  rw [add_sub_cancel_right, hfour, hhundred, hwhole]
  omega

/-- `civilDate` finds the year that begins in March, and the day of it. -/
theorem exists_marchDate (day : ℤ) :
    ∃ year dayOfYear, 0 ≤ dayOfYear ∧ dayOfYear ≤ 364 + leapDays (year + 1) ∧
      newYearsDay (year + 1) - 306 + dayOfYear = day ∧
      civilDate day = marchDate year dayOfYear := by
  have hsplit := Int.emod_add_mul_ediv (day + 719468) 146097
  have hlow := Int.emod_nonneg (day + 719468) (by decide : (146097 : ℤ) ≠ 0)
  have hhigh := Int.emod_lt_of_pos (day + 719468) (by decide : (0 : ℤ) < 146097)
  have hbegun := yearOfEra_le hlow hhigh rfl
  have hnext := lt_yearOfEra_succ hlow hhigh rfl
  unfold civilDate
  dsimp only
  generalize (day + 719468) % 146097 = dayOfEra at *
  generalize (day + 719468) / 146097 = era at *
  generalize (dayOfEra - dayOfEra / 1460 + dayOfEra / 36524 - dayOfEra / 146096) / 365 =
    yearOfEra at *
  obtain ⟨hnonneg, hle, hbegun⟩ := hbegun
  have hyear := newYearsDay_era yearOfEra era
  have hfirst : yearOfEra / 400 = 0 := by omega
  have hday : newYearsDay (yearOfEra + era * 400 + 1) - 306 +
      (dayOfEra - (365 * yearOfEra + yearOfEra / 4 - yearOfEra / 100)) = day := by
    omega
  refine ⟨yearOfEra + era * 400, dayOfEra - (365 * yearOfEra + yearOfEra / 4 - yearOfEra / 100),
    by omega, ?_, hday, rfl⟩
  have hsucc := newYearsDay_add_one (yearOfEra + era * 400 + 1)
  have hfollowing := newYearsDay_era (yearOfEra + 1) era
  rw [show yearOfEra + 1 + era * 400 + 1 = yearOfEra + era * 400 + 1 + 1 by omega] at hfollowing
  omega

theorem civilDate_valid (day : ℤ) : (civilDate day).Valid := by
  obtain ⟨year, dayOfYear, hnonneg, hle, -, hdate⟩ := exists_marchDate day
  rw [hdate]
  exact marchDate_valid hnonneg hle

/-- The day of its date. -/
theorem dayNumber_civilDate (day : ℤ) : (civilDate day).dayNumber = day := by
  obtain ⟨year, dayOfYear, hnonneg, hle, hday, hdate⟩ := exists_marchDate day
  have hleap := leapDays_le_one (year + 1)
  have hdays : dayOfYear ≤ 365 := by omega
  rw [hdate, dayNumber_marchDate hnonneg hdays, hday]

/-- The date of its day. -/
theorem civilDate_dayNumber (hdate : date.Valid) : civilDate date.dayNumber = date :=
  Date.eq_of_dayNumber_eq (civilDate_valid _) hdate (dayNumber_civilDate _)

theorem civilDate_before {day later : ℤ} (hlt : day < later) :
    (civilDate day).Before (civilDate later) := by
  have hday := dayNumber_civilDate day
  have hlater := dayNumber_civilDate later
  rcases Date.before_trichotomy (civilDate day) (civilDate later) with h | h | h
  · exact h
  · rw [h] at hday
    omega
  · have := h.dayNumber_lt (civilDate_valid later) (civilDate_valid day)
    omega

theorem dayOfYear_nonneg (day : ℤ) : 0 ≤ dayOfYear day := by
  have hyear := year_lt_iff (civilDate day).year (civilDate_valid day)
  rw [dayNumber_civilDate] at hyear
  unfold dayOfYear
  omega

end OroEdge.Lib
