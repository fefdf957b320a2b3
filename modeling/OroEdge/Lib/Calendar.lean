import Mathlib.Tactic.Common
import Mathlib.Algebra.Order.Ring.Int

/-!
# Days and times of day

A point of a time line without zone is a number of microseconds since the start
of 1970-01-01; a day is its number since then.  `civilDate` gives the proleptic
Gregorian date of a day.

The functions here are those that programs compute with, so they are written as programs write
them: `civilDate` goes from eras of 400 years down to days, with years that begin in March, so
that the leap day is the last of its year and the lengths of the other months follow one
formula.  That this gives the Gregorian calendar is not seen from the formula;
`OroEdge.Lib.Gregorian` proves it against the usual rules.

The texts of dates and times are built from `padded`, which fills a number with zeros up to a
width and, like the formats of the C library, does not cut a number that is too wide.
-/

namespace OroEdge.Lib

def secondMicros : ℤ := 1000000

def minuteMicros : ℤ := 60000000

def hourMicros : ℤ := 3600000000

def dayMicros : ℤ := 86400000000

/-- The day of a time-line point. -/
def dayOf (micros : ℤ) : ℤ := micros / dayMicros

/-- The microseconds since the start of the day. -/
def timeOfDay (micros : ℤ) : ℤ := micros % dayMicros

/-- The weekday of a day, Sunday being `0`. -/
def weekday (day : ℤ) : ℤ := (day + 4) % 7

/-- The name of the weekday of a day, in lower case. -/
def weekdayName (day : ℤ) : String :=
  ["sunday", "monday", "tuesday", "wednesday", "thursday", "friday", "saturday"].getD
    (weekday day).toNat ""

/-- A date of the civil calendar.  Months and days begin with 1. -/
structure Date where
  year : ℤ
  month : ℤ
  day : ℤ
  deriving DecidableEq, Repr

/-- The date of a day, counted in 400-year eras that start on the first of March. -/
def civilDate (day : ℤ) : Date :=
  let shifted := day + 719468
  let era := shifted / 146097
  let dayOfEra := shifted % 146097
  let yearOfEra :=
    (dayOfEra - dayOfEra / 1460 + dayOfEra / 36524 - dayOfEra / 146096) / 365
  let dayOfYear := dayOfEra - (365 * yearOfEra + yearOfEra / 4 - yearOfEra / 100)
  let shiftedMonth := (5 * dayOfYear + 2) / 153
  let month := if shiftedMonth < 10 then shiftedMonth + 3 else shiftedMonth - 9
  { year := yearOfEra + era * 400 + if month ≤ 2 then 1 else 0
    month := month
    day := dayOfYear - (153 * shiftedMonth + 2) / 5 + 1 }

example : civilDate 0 = ⟨1970, 1, 1⟩ ∧ civilDate 11016 = ⟨2000, 2, 29⟩ ∧
    civilDate (-1) = ⟨1969, 12, 31⟩ := by decide

/-- The number of the first of January of a year. -/
def newYearsDay (year : ℤ) : ℤ :=
  365 * (year - 1) + (year - 1) / 4 - (year - 1) / 100 + (year - 1) / 400 - 719162

/-- The days since the first of January: `tm_yday`. -/
def dayOfYear (day : ℤ) : ℤ := day - newYearsDay (civilDate day).year

example : dayOfYear 0 = 0 ∧ dayOfYear 59 = 59 ∧ dayOfYear 11016 = 59 ∧
    dayOfYear 11322 = 365 := by decide

/-- A number with leading zeros up to `width` digits. -/
def padded (width : ℕ) (n : ℤ) : String :=
  let digits := toString n.natAbs
  String.ofList (List.replicate (width - digits.length) '0') ++ digits

/-- Two digits. -/
theorem padded_two : ∀ n : Fin 100, (padded 2 (n : ℕ)).toList =
    [Nat.digitChar (n / 10), Nat.digitChar (n % 10)] := by
  decide +kernel

theorem toList_padded_two {x : ℤ} (hnonneg : 0 ≤ x) (hlt : x < 100) :
    (padded 2 x).toList = [Nat.digitChar (x.toNat / 10), Nat.digitChar (x.toNat % 10)] := by
  have htwo := padded_two ⟨x.toNat, by omega⟩
  rw [← htwo]
  simp only [Int.toNat_of_nonneg hnonneg]

/-- `%Y-%m-%d`. -/
def Date.iso (date : Date) : String :=
  padded 4 date.year ++ "-" ++ padded 2 date.month ++ "-" ++ padded 2 date.day

/-- `%Y%m%d`. -/
def Date.compact (date : Date) : String :=
  padded 4 date.year ++ padded 2 date.month ++ padded 2 date.day

end OroEdge.Lib
