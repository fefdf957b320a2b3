import OroEdge.Lib.Gregorian

/-!
# What happens every so many months

`EveryMonths step due happens`: from the date `due` on, `happens` holds on exactly
one day of every month whose distance from the month of `due` is a multiple of
`step`, and on no day of another month.  What happens on the days that have the day
number of `due`, in these months, does so exactly when each of the months has such a
day (`everyMonths_iff`).

There are two ways in which a program says that something is done every few months: by counting
months, or by comparing the parts of a date.  The second one is `OnDayOf`, and `everyMonths_iff`
says when it does what the first one means: every month in question has to have the day.  For a
due date on the 31st it has not.

Which months are in question depends on the due date and on the step alone, so the condition can
be turned into one on the day.  With a step of one month it is that the day is at most 28
(`everyMonths_one_iff`, with February of a common year as the case that decides), and with a
step of three months it depends on the month of the due date, too (`everyMonths_three_iff`).
-/

namespace OroEdge.Lib

/-- The day lies in the month. -/
def InMonth (year month day : ℤ) : Prop :=
  (civilDate day).year = year ∧ (civilDate day).month = month

/-- The months from the month of a date to another one. -/
def Date.monthsTo (date : Date) (year month : ℤ) : ℤ :=
  12 * (year - date.year) + (month - date.month)

/-- It happens once in every `step`-th month from the month of the due date on, and in no other
month. -/
def EveryMonths (step : ℤ) (due : Date) (happens : ℤ → Prop) : Prop :=
  ∀ year month, 1 ≤ month → month ≤ 12 → 0 ≤ due.monthsTo year month →
    (step ∣ due.monthsTo year month →
      ∃! day, InMonth year month day ∧ due.dayNumber ≤ day ∧ happens day) ∧
    (¬ step ∣ due.monthsTo year month →
      ∀ day, InMonth year month day → due.dayNumber ≤ day → ¬ happens day)

/-- It happens on the days that have the day number of `due`, in the months that have its
month number up to a multiple of `step`. -/
def OnDayOf (step : ℤ) (due : Date) (happens : ℤ → Prop) : Prop :=
  ∀ day, happens day ↔
    (civilDate day).day = due.day ∧ step ∣ (civilDate day).month - due.month

variable {step year month : ℤ} {due : Date} {happens : ℤ → Prop}

theorem dvd_monthsTo_iff (hstep : step ∣ 12) :
    step ∣ due.monthsTo year month ↔ step ∣ month - due.month :=
  Int.dvd_add_right (Int.dvd_trans hstep (Int.dvd_mul_right 12 _))

/-- The day of a later month that has the day number of `due` is not before `due`. -/
theorem dayNumber_le_of_monthsTo (hdue : due.Valid) (hpos : 1 ≤ month) (hle : month ≤ 12)
    (hlater : 0 ≤ due.monthsTo year month) (hday : due.day ≤ monthLength year month) :
    due.dayNumber ≤ Date.dayNumber ⟨year, month, due.day⟩ := by
  have hvalid : Date.Valid ⟨year, month, due.day⟩ := ⟨hpos, hle, hdue.day_pos, hday⟩
  have hmonth := hdue.month_pos
  have hmonth' := hdue.month_le
  unfold Date.monthsTo at hlater
  by_contra hlt
  rcases Date.before_trichotomy due ⟨year, month, due.day⟩ with h | h | h
  · exact hlt (h.dayNumber_lt hdue hvalid).le
  · exact hlt (congrArg Date.dayNumber h).le
  · unfold Date.Before at h
    dsimp only at h
    omega

theorem everyMonths_iff (hdue : due.Valid) (hstep : step ∣ 12)
    (hhappens : OnDayOf step due happens) :
    EveryMonths step due happens ↔
      ∀ year month, 1 ≤ month → month ≤ 12 → 0 ≤ due.monthsTo year month →
        step ∣ month - due.month → due.day ≤ monthLength year month := by
  constructor
  · intro hevery year month hpos hle hlater hdvd
    obtain ⟨day, ⟨⟨hyear, hmonth⟩, -, hday⟩, -⟩ :=
      (hevery year month hpos hle hlater).1 ((dvd_monthsTo_iff hstep).mpr hdvd)
    rw [← ((hhappens day).mp hday).1, ← hyear, ← hmonth]
    exact (civilDate_valid day).day_le
  · intro hfits year month hpos hle hlater
    rw [dvd_monthsTo_iff hstep]
    constructor
    · intro hdvd
      have hday := hfits year month hpos hle hlater hdvd
      have hdate : civilDate (Date.dayNumber ⟨year, month, due.day⟩) = ⟨year, month, due.day⟩ :=
        civilDate_dayNumber ⟨hpos, hle, hdue.day_pos, hday⟩
      refine ⟨Date.dayNumber ⟨year, month, due.day⟩, ⟨?_, ?_, ?_⟩, ?_⟩
      · exact ⟨congrArg Date.year hdate, congrArg Date.month hdate⟩
      · exact dayNumber_le_of_monthsTo hdue hpos hle hlater hday
      · rw [hhappens, hdate]
        exact ⟨rfl, hdvd⟩
      · -- the date of the day is fixed, and so is the day
        rintro other ⟨⟨hyear, hmonth⟩, -, hother⟩
        rw [← dayNumber_civilDate other, ← hyear, ← hmonth, ← ((hhappens other).mp hother).1]
    · intro hdvd day hmonth _ hday
      have := ((hhappens day).mp hday).2
      rw [hmonth.2] at this
      exact hdvd this

/-! ## Every month, and every third one -/

theorem exists_common_year (year : ℤ) : ∃ later, year < later ∧ ¬ LeapYear later := by
  by_cases hleap : LeapYear (year + 1)
  · refine ⟨year + 2, by omega, ?_⟩
    unfold LeapYear at *
    omega
  · exact ⟨year + 1, by omega, hleap⟩

theorem everyMonths_one_iff (hdue : due.Valid) (hhappens : OnDayOf 1 due happens) :
    EveryMonths 1 due happens ↔ due.day ≤ 28 := by
  have hmonth := hdue.month_le
  rw [everyMonths_iff hdue (one_dvd 12) hhappens]
  constructor
  · intro hfits
    obtain ⟨later, hlater, hleap⟩ := exists_common_year due.year
    have hfebruary := hfits later 2 (by decide) (by decide)
      (by unfold Date.monthsTo; omega) (one_dvd _)
    rwa [monthLength, if_pos rfl, if_neg hleap] at hfebruary
  · intro hday year month _ _ _ _
    exact hday.trans (monthLength_ge year month)

theorem monthLength_ge_of_ne_two (hne : month ≠ 2) : 30 ≤ monthLength year month := by
  unfold monthLength
  rw [if_neg hne]
  split_ifs <;> omega

theorem everyMonths_three_iff (hdue : due.Valid) (hhappens : OnDayOf 3 due happens) :
    EveryMonths 3 due happens ↔ due.day ≤ 28 ∨ due.month % 3 ≠ 2 ∧ due.day ≤ 30 := by
  have hmonth := hdue.month_le
  rw [everyMonths_iff hdue (by decide) hhappens]
  constructor
  · intro hfits
    obtain ⟨later, hlater, hleap⟩ := exists_common_year due.year
    -- February, April or June of a common year
    rcases (show due.month % 3 = 2 ∨ due.month % 3 = 1 ∨ due.month % 3 = 0 by omega) with
      h | h | h
    · have hshort := hfits later 2 (by decide) (by decide)
        (by unfold Date.monthsTo; omega) (by omega)
      rw [monthLength, if_pos rfl, if_neg hleap] at hshort
      exact Or.inl hshort
    · have hshort := hfits later 4 (by decide) (by decide)
        (by unfold Date.monthsTo; omega) (by omega)
      exact Or.inr ⟨by omega, hshort⟩
    · have hshort := hfits later 6 (by decide) (by decide)
        (by unfold Date.monthsTo; omega) (by omega)
      exact Or.inr ⟨by omega, hshort⟩
  · rintro (hday | ⟨hne, hday⟩) year month _ _ _ hdvd
    · exact hday.trans (monthLength_ge year month)
    · exact hday.trans (monthLength_ge_of_ne_two (by omega))

end OroEdge.Lib
