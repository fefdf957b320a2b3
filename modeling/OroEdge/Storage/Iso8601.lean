import OroEdge.Lib.Gregorian
import OroEdge.Lib.Layout
import OroEdge.Storage.Timestamp

/-!
# Reading a stamp back

`readIso8601` gives the UTC instant, in milliseconds since the epoch, that a text
`YYYY-MM-DDThh:mm:ss.mmmZ` denotes.  Whatever milliseconds a stamp is made from,
it is such a text; it denotes the seconds of the wrapped time point together with
the milliseconds of the argument (`readIso8601_unixMsToIso8601`), and of two
stamps the one that denotes the earlier instant is the smaller text
(`unixMsToIso8601_lt`).

A stamp has two halves that do not come from the same number.  The seconds are those of a time
point of the system clock, a count of nanoseconds in 64 bits, so they wrap for large arguments;
the milliseconds are taken from the argument itself.  As long as nothing wraps, the text denotes
the argument, and otherwise it denotes another instant, but a well-defined one (`writtenMs`).

Both statements go through the layout of `OroEdge.Lib.Layout`: the numbers that are printed fit
their fields because the date exists and the time of day is one, and the texts are of one
length, so their order as texts is the order of the numbers from year to milliseconds.  The
calendar turns that into the order of instants.
-/

namespace OroEdge.Storage

open OroEdge.Lib

/-- `%Y-%m-%dT%H:%M:%S`, and the milliseconds. -/
def isoLayout : List Piece :=
  [.digits 4, .literal '-', .digits 2, .literal '-', .digits 2, .literal 'T', .digits 2,
    .literal ':', .digits 2, .literal ':', .digits 2, .literal '.', .digits 3, .literal 'Z']

/-- The instant of a date and a time of day that exist. -/
def instantOf : List ℕ → Option ℤ
  | [year, month, day, hour, minute, second, milli] =>
      let date : Date := ⟨year, month, day⟩
      if date.Valid ∧ hour < 24 ∧ minute < 60 ∧ second < 60 then
        some (date.dayNumber * 86400000 + hour * 3600000 + minute * 60000 + second * 1000 + milli)
      else none
  | _ => none

/-- The instant that a text of the layout stands for. -/
def readIso8601 (s : String) : Option ℤ := (Piece.read isoLayout s.toList).bind instantOf

example : readIso8601 "1970-01-02T00:00:01.005Z" = some 86401005 ∧
    readIso8601 "2026-02-29T00:00:00.000Z" = none := by decide +kernel

/-- The instant of the seconds of the time point and the milliseconds of the argument. -/
def writtenMs (unixMs : ℕ) : ℤ := unixMsToTimeT unixMs * 1000 + (unixMs % 1000 : ℕ)

/-- The numbers of a stamp. -/
def isoFields (time : ℤ) (milli : ℕ) : List ℕ :=
  let date := civilDate (time / 86400)
  let secondOfDay := time % 86400
  [date.year.toNat, date.month.toNat, date.day.toNat, (secondOfDay / 3600).toNat,
    (secondOfDay / 60 % 60).toNat, (secondOfDay % 60).toNat, milli]

/-- The seconds of a time that has a year of four digits. -/
def FourDigitYear (time : ℤ) : Prop :=
  0 ≤ (civilDate (time / 86400)).year ∧ (civilDate (time / 86400)).year < 10000

/-! ## The fields of a stamp -/

variable {time time' : ℤ} {milli milli' : ℕ}

theorem fourDigitYear_iff (time : ℤ) :
    FourDigitYear time ↔ -62167219200 ≤ time ∧ time < 253402300800 := by
  have hvalid := civilDate_valid (time / 86400)
  have hfirst := year_lt_iff 0 hvalid
  have hlast := year_lt_iff 10000 hvalid
  rw [dayNumber_civilDate] at hfirst hlast
  rw [show newYearsDay 0 = -719528 by decide] at hfirst
  rw [show newYearsDay 10000 = 2932897 by decide] at hlast
  unfold FourDigitYear
  omega

/-- The seconds of a time point, of which the fraction is dropped. -/
theorem tdiv_billion (nanos : ℤ) :
    (0 ≤ nanos → nanos.tdiv 1000000000 = nanos / 1000000000) ∧
      (nanos < 0 → nanos.tdiv 1000000000 = -(-nanos / 1000000000)) := by
  constructor
  · intro hnonneg
    exact Int.tdiv_eq_ediv_of_nonneg hnonneg
  · intro hneg
    rw [← Int.tdiv_eq_ediv_of_nonneg (by omega), Int.neg_tdiv, neg_neg]

theorem unixMsToTimeT_bounds (unixMs : ℕ) :
    -9223372036 ≤ unixMsToTimeT unixMs ∧ unixMsToTimeT unixMs ≤ 9223372036 := by
  unfold unixMsToTimeT
  obtain ⟨hlow, hhigh⟩ := wrap64_bounds (wrap64 unixMs * 1000000)
  obtain ⟨hpos, hneg⟩ := tdiv_billion (wrap64 (wrap64 unixMs * 1000000))
  unfold int64Min at hlow hhigh
  omega

theorem unixMsToTimeT_fourDigitYear (unixMs : ℕ) : FourDigitYear (unixMsToTimeT unixMs) := by
  have hbounds := unixMsToTimeT_bounds unixMs
  rw [fourDigitYear_iff]
  omega

theorem fits_isoFields (hyear : FourDigitYear time) (hmilli : milli < 1000) :
    Piece.Fits isoLayout (isoFields time milli) := by
  have hvalid := civilDate_valid (time / 86400)
  have hmonth := hvalid.month_le
  have hday := hvalid.day_le.trans (monthLength_le _ _)
  obtain ⟨hnonneg, hlt⟩ := hyear
  simp only [isoLayout, isoFields, Piece.Fits]
  norm_num
  omega

theorem toList_unixMsToIso8601 (unixMs : ℕ) :
    (unixMsToIso8601 unixMs).toList =
      Piece.print isoLayout (isoFields (unixMsToTimeT unixMs) (unixMs % 1000)) := by
  have hvalid := civilDate_valid (unixMsToTimeT unixMs / 86400)
  have hmonth := hvalid.month_le
  have hmonthPos := hvalid.month_pos
  have hday := hvalid.day_le.trans (monthLength_le _ _)
  have hdayPos := hvalid.day_pos
  obtain ⟨hnonneg, hlt⟩ := unixMsToTimeT_fourDigitYear unixMs
  simp only [unixMsToIso8601, Date.iso, clockText, isoLayout, isoFields, Piece.print,
    String.toList_append]
  rw [toList_padded_toNat (by decide) hnonneg (by omega),
    toList_padded_toNat (by decide) (by omega) (by omega),
    toList_padded_toNat (by decide) (by omega) (by omega),
    toList_padded_toNat (by decide) (by omega) (by omega),
    toList_padded_toNat (by decide) (by omega) (by omega),
    toList_padded_toNat (by decide) (by omega) (by omega),
    toList_padded (by decide) (by omega)]
  simp

theorem instantOf_isoFields (hyear : FourDigitYear time) (milli : ℕ) :
    instantOf (isoFields time milli) = some (time * 1000 + milli) := by
  have hvalid := civilDate_valid (time / 86400)
  have hday := dayNumber_civilDate (time / 86400)
  have hmonthPos := hvalid.month_pos
  have hdayPos := hvalid.day_pos
  have hdate : (⟨((civilDate (time / 86400)).year.toNat : ℕ),
      ((civilDate (time / 86400)).month.toNat : ℕ),
      ((civilDate (time / 86400)).day.toNat : ℕ)⟩ : Date) = civilDate (time / 86400) := by
    rw [Int.toNat_of_nonneg hyear.1, Int.toNat_of_nonneg (by omega),
      Int.toNat_of_nonneg (by omega)]
  simp only [instantOf, isoFields, hdate, hday]
  rw [if_pos ⟨hvalid, by omega, by omega, by omega⟩]
  congr 1
  omega

/-- **A stamp denotes the seconds of the time point and the milliseconds of the
argument.** -/
theorem readIso8601_unixMsToIso8601 (unixMs : ℕ) :
    readIso8601 (unixMsToIso8601 unixMs) = some (writtenMs unixMs) := by
  have hyear := unixMsToTimeT_fourDigitYear unixMs
  have hmilli : unixMs % 1000 < 1000 := Nat.mod_lt _ (by decide)
  unfold readIso8601
  rw [toList_unixMsToIso8601, Piece.read_print (fits_isoFields hyear hmilli), Option.bind_some,
    instantOf_isoFields hyear, writtenMs]

/-! ## The order of the stamps -/

theorem isoFields_lt (hyear : FourDigitYear time) (hyear' : FourDigitYear time')
    (hmilli : milli < 1000) (hmilli' : milli' < 1000)
    (hlt : time * 1000 + milli < time' * 1000 + milli') :
    isoFields time milli < isoFields time' milli' := by
  have hmonth := (civilDate_valid (time / 86400)).month_pos
  have hday := (civilDate_valid (time / 86400)).day_pos
  have hnonneg := hyear.1
  have hnonneg' := hyear'.1
  simp only [isoFields, List.cons_lt_cons_iff]
  rcases (show time / 86400 ≤ time' / 86400 by omega).lt_or_eq with hdays | hdays
  · rcases civilDate_before hdays with h | ⟨h, h' | ⟨h', h''⟩⟩
    · exact Or.inl (by omega)
    · exact Or.inr ⟨by omega, Or.inl (by omega)⟩
    · exact Or.inr ⟨by omega, Or.inr ⟨by omega, Or.inl (by omega)⟩⟩
  · rw [hdays]
    refine Or.inr ⟨rfl, Or.inr ⟨rfl, Or.inr ⟨rfl, ?_⟩⟩⟩
    -- on one day the seconds decide, and then the milliseconds
    rcases (show time % 86400 ≤ time' % 86400 by omega).lt_or_eq with hseconds | hseconds
    · rcases (show time % 86400 / 60 ≤ time' % 86400 / 60 by omega).lt_or_eq with h | h
      · rcases (show time % 86400 / 3600 ≤ time' % 86400 / 3600 by omega).lt_or_eq with h' | h'
        · exact Or.inl (by omega)
        · exact Or.inr ⟨by omega, Or.inl (by omega)⟩
      · exact Or.inr ⟨by omega, Or.inr ⟨by omega, Or.inl (by omega)⟩⟩
    · rw [hseconds]
      exact Or.inr ⟨rfl, Or.inr ⟨rfl, Or.inr ⟨rfl, Or.inl (by omega)⟩⟩⟩

/-- **The stamp of the earlier instant is the smaller text.** -/
theorem unixMsToIso8601_lt {unixMs unixMs' : ℕ} (hlt : writtenMs unixMs < writtenMs unixMs') :
    unixMsToIso8601 unixMs < unixMsToIso8601 unixMs' := by
  have hyear := unixMsToTimeT_fourDigitYear unixMs
  have hyear' := unixMsToTimeT_fourDigitYear unixMs'
  have hmilli : unixMs % 1000 < 1000 := Nat.mod_lt _ (by decide)
  have hmilli' : unixMs' % 1000 < 1000 := Nat.mod_lt _ (by decide)
  have hlist : (unixMsToIso8601 unixMs).toList < (unixMsToIso8601 unixMs').toList := by
    rw [toList_unixMsToIso8601, toList_unixMsToIso8601]
    exact Piece.print_lt_print (fits_isoFields hyear hmilli) (fits_isoFields hyear' hmilli')
      (isoFields_lt hyear hyear' hmilli hmilli' hlt)
  exact hlist

/-! ## The stamps that denote their argument -/

/-- A stamp denotes the instant it is made from when the nanoseconds of that instant
fit in 64 bits. -/
theorem writtenMs_eq_iff (unixMs : ℕ) : writtenMs unixMs = unixMs ↔ unixMs ≤ 9223372036854 := by
  have hinner : unixMs ≤ 9223372036999 → wrap64 (unixMs : ℤ) = unixMs := fun hle =>
    wrap64_eq_self (by unfold int64Min; omega) (by unfold int64Min; omega)
  unfold writtenMs
  constructor
  · intro heq
    obtain ⟨-, hhigh⟩ := unixMsToTimeT_bounds unixMs
    have hlast : unixMs ≤ 9223372036999 := by omega
    by_contra hgt
    -- the seconds would have to be the last ones of the clock, but the time point has wrapped
    have hwraps : wrap64 ((unixMs : ℤ) * 1000000) = unixMs * 1000000 + 2 * int64Min :=
      wrap64_of_ge (by unfold int64Min; omega) (by unfold int64Min; omega)
    obtain ⟨-, hneg⟩ := tdiv_billion (unixMs * 1000000 + 2 * int64Min)
    unfold unixMsToTimeT at heq
    rw [hinner hlast, hwraps] at heq
    unfold int64Min at heq hneg
    omega
  · intro hle
    have houter : wrap64 ((unixMs : ℤ) * 1000000) = unixMs * 1000000 :=
      wrap64_eq_self (by unfold int64Min; omega) (by unfold int64Min; omega)
    unfold unixMsToTimeT
    rw [hinner (by omega), houter, Int.tdiv_eq_ediv_of_nonneg (by omega)]
    omega

theorem readIso8601_eq_some_iff (unixMs : ℕ) :
    readIso8601 (unixMsToIso8601 unixMs) = some (unixMs : ℤ) ↔ unixMs ≤ 9223372036854 := by
  rw [readIso8601_unixMsToIso8601, Option.some.injEq]
  exact writtenMs_eq_iff unixMs

end OroEdge.Storage
