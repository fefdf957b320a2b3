import OroEdge.Lib.Gregorian
import OroEdge.Lib.Layout

/-!
# Keys that end with a date

A text that ends with `%Y%m%d` determines the date, whatever stands before it, as long as the year
has four digits: the date is then the last eight characters (`day_eq_of_datedKey_eq`).

Keys of this kind are made where something is to happen once a day for each of several things:
the stem says what, and the date says when.  Such a key does what it is meant for only if two
days never give one key for the same stem.  Since `%Y` writes as many digits as the year has,
the date can be cut off the end of a text only if all dates have one length, so the years from 0
to 9999 are asked for (`FourDigits`, `fourDigits_iff`).

The layout is printed and read by `OroEdge.Lib.Layout`, and the date gives back its day by
`OroEdge.Lib.Gregorian`; what is left here is to cut both texts at the same place.
-/

namespace OroEdge.Lib

def compactLayout : List Piece := [.digits 4, .digits 2, .digits 2]

/-- The numbers of a date, in the order of the layout. -/
def compactFields (date : Date) : List ℕ := [date.year.toNat, date.month.toNat, date.day.toNat]

/-- A year that `%Y` writes with four digits. -/
def FourDigits (day : ℤ) : Prop := 0 ≤ (civilDate day).year ∧ (civilDate day).year < 10000

/-- The days from 0000-01-01 to 9999-12-31. -/
theorem fourDigits_iff (day : ℤ) : FourDigits day ↔ -719528 ≤ day ∧ day < 2932897 := by
  have hvalid := civilDate_valid day
  have hfirst := year_lt_iff 0 hvalid
  have hlast := year_lt_iff 10000 hvalid
  rw [dayNumber_civilDate] at hfirst hlast
  rw [show newYearsDay 0 = -719528 by decide] at hfirst
  rw [show newYearsDay 10000 = 2932897 by decide] at hlast
  unfold FourDigits
  omega

def datedKey (stem : String) (day : ℤ) : String := stem ++ (civilDate day).compact

section

variable {day day' : ℤ}

theorem toList_compact (hday : FourDigits day) :
    (civilDate day).compact.toList = Piece.print compactLayout (compactFields (civilDate day)) := by
  have hvalid := civilDate_valid day
  have hmonth := hvalid.month_le
  have hmonthPos := hvalid.month_pos
  have hdays := hvalid.day_le.trans (monthLength_le _ _)
  have hdayPos := hvalid.day_pos
  obtain ⟨hnonneg, hlt⟩ := hday
  simp only [Date.compact, compactLayout, compactFields, Piece.print, String.toList_append]
  rw [toList_padded_toNat (by decide) hnonneg (by omega),
    toList_padded_toNat (by decide) (by omega) (by omega),
    toList_padded_toNat (by decide) (by omega) (by omega)]
  simp

theorem fits_compactFields (hday : FourDigits day) :
    Piece.Fits compactLayout (compactFields (civilDate day)) := by
  have hvalid := civilDate_valid day
  have hmonth := hvalid.month_le
  have hdays := hvalid.day_le.trans (monthLength_le _ _)
  obtain ⟨hnonneg, hlt⟩ := hday
  simp only [compactLayout, compactFields, Piece.Fits]
  norm_num
  omega

theorem length_compact (hday : FourDigits day) : (civilDate day).compact.toList.length = 8 := by
  rw [toList_compact hday]
  simp [compactLayout, compactFields, Piece.print]

theorem day_eq_of_compact_eq (hday : FourDigits day) (hday' : FourDigits day')
    (hsame : (civilDate day).compact.toList = (civilDate day').compact.toList) : day = day' := by
  rw [toList_compact hday, toList_compact hday'] at hsame
  have hread := Piece.read_print (fits_compactFields hday)
  rw [hsame, Piece.read_print (fits_compactFields hday')] at hread
  have hfields := Option.some.inj hread
  simp only [compactFields, List.cons.injEq, and_true] at hfields
  obtain ⟨hyear, hmonth, hdate⟩ := hfields
  have hvalid := civilDate_valid day
  have hvalid' := civilDate_valid day'
  have hmonthPos := hvalid.month_pos
  have hmonthPos' := hvalid'.month_pos
  have hdayPos := hvalid.day_pos
  have hdayPos' := hvalid'.day_pos
  obtain ⟨hnonneg, -⟩ := hday
  obtain ⟨hnonneg', -⟩ := hday'
  have hdates : civilDate day = civilDate day' := by
    cases hfirst : civilDate day
    cases hsecond : civilDate day'
    simp only [hfirst, hsecond] at *
    rw [Date.mk.injEq]
    omega
  calc day = (civilDate day).dayNumber := (dayNumber_civilDate day).symm
    _ = (civilDate day').dayNumber := by rw [hdates]
    _ = day' := dayNumber_civilDate day'

/-- Equal keys are of one day. -/
theorem day_eq_of_datedKey_eq (hday : FourDigits day) (hday' : FourDigits day')
    {stem stem' : String} (hsame : datedKey stem day = datedKey stem' day') : day = day' := by
  have hchars := congrArg String.toList hsame
  unfold datedKey at hchars
  rw [String.toList_append, String.toList_append] at hchars
  have hlength : (civilDate day).compact.toList.length = (civilDate day').compact.toList.length :=
    (length_compact hday).trans (length_compact hday').symm
  exact day_eq_of_compact_eq hday hday' (List.append_inj' hchars hlength).2

end

end OroEdge.Lib
