import OroEdge.Lib.Windows
import OroEdge.Wellbeing.Monitor
import Mathlib.Data.List.MinMax

/-!
# Occurrences of meals

With a fixed offset of local time from UTC, a meal occurs once on each local day: it
starts where clocks show its start time (`StartsAt`), and lasts until they next show
its end time.  `meals` are these windows of time.

`findNextMeal_spec` is the specification of the search: it finds the first of them
that starts after `now`.  The search looks at the local day of `now` and at the next
one, so that `now` must be a time at which both are in the range of an unsigned
millisecond count (`InRange`).

The search is a fold over the schedules, which keeps the earlier of two meals, and that is the
library's minimum of a list by a key (`foldl_earlierMeal_eq_argmin`).  So what has to be shown
of it is about sets of meals: that all meals of today start before those of tomorrow
(`today_le_tomorrow`), and that a meal after `now` is one of today or starts no earlier than the
one of tomorrow (`start_cases`).  With well-formed times in range the computed starts and ends
are those of the windows (`getOccurrenceMs_eq`, `nextEndMs_eq`).
-/

namespace OroEdge.Wellbeing

open OroEdge.Lib OroEdge.Storage DogWellbeingMonitor

/-! ## Times of day -/

/-- A text `HH:MM:SS`. -/
def IsClockText (text : String) : Prop := ∃ s : ℕ, s < 86400 ∧ text = clockText s

/-- The seconds since midnight that a text stands for. -/
def secondsOf (text : String) : ℤ := (scanHms text ⟨0, 0, 0⟩).seconds

theorem scanTriple_clockText {s : ℕ} (hs : s < 86400) : scanTriple ':' (clockText s) =
    [((s / 3600 : ℕ) : ℤ), ((s / 60 % 60 : ℕ) : ℤ), ((s % 60 : ℕ) : ℤ)] := by
  have hsep : ':'.isDigit = false := rfl
  have htext : (clockText s).toList = (padded 2 (s / 3600)).toList ++ ':' ::
      ((padded 2 (s / 60 % 60)).toList ++ ':' :: (padded 2 (s % 60)).toList) := by
    simp [clockText]
  rw [scanTriple, htext, Directive.scan_padded_literal (by omega) (by omega) hsep,
    Directive.scan_padded_literal (by omega) (by omega) hsep,
    Directive.scan_padded_end (by omega) (by omega)]
  push_cast
  rfl

/-- A whole time of day is read, so that nothing keeps its initial value. -/
theorem seconds_scanHms_clockText {s : ℕ} (hs : s < 86400) (initial : Hms) :
    (scanHms (clockText s) initial).seconds = s := by
  have hseconds : (scanHms (clockText s) initial).seconds =
      ((s / 3600 : ℕ) : ℤ) * 3600 + ((s / 60 % 60 : ℕ) : ℤ) * 60 + ((s % 60 : ℕ) : ℤ) := by
    unfold scanHms Hms.seconds
    rw [scanTriple_clockText hs]
    rfl
  rw [hseconds]
  omega

theorem secondsOf_clockText {s : ℕ} (hs : s < 86400) : secondsOf (clockText s) = s :=
  seconds_scanHms_clockText hs _

theorem seconds_scanHms {text : String} (htext : IsClockText text) (initial : Hms) :
    (scanHms text initial).seconds = secondsOf text ∧ 0 ≤ secondsOf text ∧
      secondsOf text < 86400 := by
  obtain ⟨s, hs, rfl⟩ := htext
  rw [seconds_scanHms_clockText hs, secondsOf_clockText hs]
  omega

/-! ## The meals -/

/-- The meal, its start and its end. -/
abbrev Meal := MealSchedule × ℕ × ℕ

def Meal.startMs (meal : Meal) : ℕ := meal.2.1

def Meal.endMs (meal : Meal) : ℕ := meal.2.2

namespace MealSchedule

variable (offset : ℤ) (sched : MealSchedule)

/-- The meal starts then, on some day. -/
def StartsAt (ms : ℕ) : Prop :=
  ms % 1000 = 0 ∧ (seconds ms + offset) % 86400 = secondsOf sched.startTime

instance (ms : ℕ) : Decidable (sched.StartsAt offset ms) := inferInstanceAs (Decidable (_ ∧ _))

/-- The time from the start to the next end. -/
def lengthMs : ℕ := ((secondsOf sched.endTime - secondsOf sched.startTime) % 86400).toNat * 1000

/-- No meal of the one overlaps a meal of the other; it may start when the other ends. -/
def Apart (sched' : MealSchedule) : Prop :=
  ∀ startMs startMs', sched.StartsAt offset startMs → sched'.StartsAt offset startMs' →
    startMs + sched.lengthMs ≤ startMs' ∨ startMs' + sched'.lengthMs ≤ startMs

instance : Std.Symm (Apart offset) where
  symm _ _ hapart startMs startMs' hfirst hsecond := (hapart startMs' startMs hsecond hfirst).symm

end MealSchedule

theorem lengthMs_cast (sched : MealSchedule) : (sched.lengthMs : ℤ) =
    (secondsOf sched.endTime - secondsOf sched.startTime) % 86400 * 1000 := by
  unfold MealSchedule.lengthMs
  omega

theorem lengthMs_lt (sched : MealSchedule) : sched.lengthMs < 86400000 := by
  unfold MealSchedule.lengthMs
  omega

/-- The meals of all days. -/
def meals (offset : ℤ) (schedules : List MealSchedule) : Set Meal :=
  {meal | meal.1 ∈ schedules ∧ meal.1.StartsAt offset meal.startMs ∧
    meal.endMs = meal.startMs + meal.1.lengthMs}

/-- All times are times of day. -/
def WellFormed (schedules : List MealSchedule) : Prop :=
  ∀ sched ∈ schedules, IsClockText sched.startTime ∧ IsClockText sched.endTime

/-- Schedules with well-formed times, whose meals last at least a second and do not
overlap. -/
structure Orderly (offset : ℤ) (schedules : List MealSchedule) : Prop where
  wellFormed : WellFormed schedules
  lasting : ∀ sched ∈ schedules, 0 < sched.lengthMs
  apart : schedules.Pairwise (MealSchedule.Apart offset)

/-- The local day of the time started after the epoch, and the next two end in range. -/
def InRange (offset : ℤ) (now : ℕ) : Prop :=
  offset ≤ (seconds now + offset) / 86400 * 86400 ∧ now + 259200000 ≤ 18446744073709551616

instance (offset : ℤ) (now : ℕ) : Decidable (InRange offset now) :=
  inferInstanceAs (Decidable (_ ∧ _))

section

variable {offset : ℤ} {schedules : List MealSchedule}

/-- Two meals of one schedule are a day apart. -/
theorem Orderly.disjointed (horderly : Orderly offset schedules) :
    Disjointed Meal.startMs Meal.endMs (meals offset schedules) := by
  constructor
  · rintro ⟨sched, startMs, endMs⟩ ⟨hmem, -, hend⟩
    have hlasting := horderly.lasting sched hmem
    show startMs < endMs
    have hend' : endMs = startMs + sched.lengthMs := hend
    omega
  · rintro ⟨sched, startMs, endMs⟩ ⟨hmem, hstart, hend⟩ ⟨sched', startMs', endMs'⟩
      ⟨hmem', hstart', hend'⟩ hne
    simp only [Meal.startMs, Meal.endMs] at hstart hend hstart' hend' ⊢
    by_cases hsame : sched = sched'
    · subst hsame
      have hlength := lengthMs_lt sched
      have hstarts : startMs ≠ startMs' := by
        rintro rfl
        exact hne (by rw [hend, hend'])
      obtain ⟨hwhole, htime⟩ := hstart
      obtain ⟨hwhole', htime'⟩ := hstart'
      unfold seconds at htime htime'
      omega
    · rw [hend, hend']
      exact horderly.apart.forall hmem hmem' hsame startMs startMs' hstart hstart'

/-! ### What is computed

Times are taken modulo 2^64; those of a time in range are not changed by that. -/

theorem setTime_fixed (offset t : ℤ) (hms : Hms) : (LocalClock.fixed offset).setTime t hms =
    (t + offset) / 86400 * 86400 + hms.seconds - offset := rfl

theorem milliseconds_emod (t : ℤ) : (milliseconds t : ℤ) = t * 1000 % 18446744073709551616 := by
  unfold milliseconds toUint64
  omega

theorem milliseconds_eq {t : ℤ} (hnonneg : 0 ≤ t) (hlt : t * 1000 < 18446744073709551616) :
    (milliseconds t : ℤ) = t * 1000 := by
  rw [milliseconds_emod, Int.emod_eq_of_lt (by omega) hlt]

variable {settings : Settings}

section

variable (hclock : settings.clock = .fixed offset)

include hclock

theorem getOccurrenceMs_emod (now : ℕ) (text : String) (nextDay : Bool) :
    (getOccurrenceMs settings now text nextDay : ℤ) =
      (((seconds now + offset) / 86400 + if nextDay then 1 else 0) * 86400 +
        secondsOf text - offset) * 1000 % 18446744073709551616 := by
  have hday : (seconds now + (if nextDay then 86400 else 0) + offset) / 86400 =
      (seconds now + offset) / 86400 + if nextDay then 1 else 0 := by
    cases nextDay <;> simp only [Bool.false_eq_true, if_false, if_true] <;> omega
  rw [getOccurrenceMs, milliseconds_emod, hclock, setTime_fixed, hday, secondsOf]

theorem nextEndMs_emod (sched : MealSchedule) (startMs : ℕ) :
    (nextEndMs settings sched startMs : ℤ) =
      ((seconds startMs + (if (scanHms sched.endTime settings.endLocals).seconds <
          (scanHms sched.startTime settings.startLocals).seconds then 86400 else 0) + offset) /
        86400 * 86400 + (scanHms sched.endTime settings.endLocals).seconds - offset) * 1000 %
          18446744073709551616 := by
  rw [nextEndMs, milliseconds_emod, hclock, setTime_fixed]

/-- The end of a meal whose times are complete. -/
theorem nextEndMs_eq_emod {sched : MealSchedule}
    (htimes : IsClockText sched.startTime ∧ IsClockText sched.endTime) {startMs : ℕ}
    (hstart : sched.StartsAt offset startMs) :
    (nextEndMs settings sched startMs : ℤ) =
      (startMs + sched.lengthMs) % 18446744073709551616 := by
  obtain ⟨hstarts, hstartNonneg, hstartLt⟩ := seconds_scanHms htimes.1 settings.startLocals
  obtain ⟨hends, hendNonneg, hendLt⟩ := seconds_scanHms htimes.2 settings.endLocals
  obtain ⟨hwhole, htime⟩ := hstart
  rw [nextEndMs_emod hclock, hstarts, hends, lengthMs_cast]
  congr 1
  unfold seconds at htime ⊢
  split <;> omega

/-- The start of a meal on the local day of `now`, or on the next. -/
theorem getOccurrenceMs_eq {now : ℕ} (hrange : InRange offset now) {text : String}
    (htext : IsClockText text) (nextDay : Bool) :
    (getOccurrenceMs settings now text nextDay : ℤ) =
      (((seconds now + offset) / 86400 + if nextDay then 1 else 0) * 86400 +
        secondsOf text - offset) * 1000 := by
  obtain ⟨hmidnight, hlate⟩ := hrange
  obtain ⟨-, hnonneg, hlt⟩ := seconds_scanHms htext ⟨0, 0, 0⟩
  have hnow : seconds now * 1000 ≤ now := by
    unfold seconds
    omega
  rw [getOccurrenceMs_emod hclock]
  apply Int.emod_eq_of_lt
  all_goals cases nextDay <;> simp only [Bool.false_eq_true, if_false, if_true] <;> omega

/-- The end of a meal that starts in range. -/
theorem nextEndMs_eq {sched : MealSchedule}
    (htimes : IsClockText sched.startTime ∧ IsClockText sched.endTime) {startMs : ℕ}
    (hstart : sched.StartsAt offset startMs)
    (hlate : startMs + 86400000 ≤ 18446744073709551616) :
    nextEndMs settings sched startMs = startMs + sched.lengthMs := by
  have hend := nextEndMs_eq_emod hclock htimes hstart
  have hlength := lengthMs_lt sched
  omega

end

/-! ### The search -/

/-- The search for the earliest meal. -/
theorem foldl_earlierMeal_eq_argmin (f : MealSchedule → ℕ) (schedules : List MealSchedule) :
    schedules.foldl (fun best sched => earlierMeal best sched (f sched)) none =
      (schedules.argmin f).map fun sched => (sched, f sched) := by
  induction schedules using List.reverseRecOn with
  | nil => rfl
  | append_singleton schedules sched ih =>
      rw [List.foldl_append, List.argmin_concat, ih]
      cases schedules.argmin f with
      | none => rfl
      | some best =>
          show (if f sched < f best then some (sched, f sched) else some (best, f best)) =
            Option.map _ (if f sched < f best then some sched else some best)
          split <;> rfl

/-- The meals that the search takes for meals of today that are still to come. -/
def ahead (settings : Settings) (now : ℕ) : List MealSchedule :=
  settings.mealSchedules.filter fun sched => decide (now <
    getOccurrenceMs settings now sched.startTime false)

theorem findToday_eq_argmin (now : ℕ) : findToday settings now =
    ((ahead settings now).argmin fun sched =>
      getOccurrenceMs settings now sched.startTime false).map fun sched =>
        (sched, getOccurrenceMs settings now sched.startTime false) := by
  rw [← foldl_earlierMeal_eq_argmin, ahead, List.foldl_filter]
  simp only [decide_eq_true_eq]
  rfl

theorem findTomorrow_eq_argmin (now : ℕ) : findTomorrow settings now =
    (settings.mealSchedules.argmin fun sched =>
      getOccurrenceMs settings now sched.startTime true).map fun sched =>
        (sched, getOccurrenceMs settings now sched.startTime true) :=
  foldl_earlierMeal_eq_argmin _ _

theorem findToday_eq_none_iff (now : ℕ) :
    findToday settings now = none ↔ ahead settings now = [] := by
  rw [findToday_eq_argmin, Option.map_eq_none_iff, List.argmin_eq_none]

theorem exists_findTomorrow (now : ℕ) (hnonempty : settings.mealSchedules ≠ []) :
    ∃ best, findTomorrow settings now = some best := by
  rw [← Option.isSome_iff_exists, Option.isSome_iff_ne_none, findTomorrow_eq_argmin, ne_eq,
    Option.map_eq_none_iff, List.argmin_eq_none]
  exact hnonempty

section Search

variable {now : ℕ} (hclock : settings.clock = .fixed offset)
  (hrange : InRange offset now)

include hclock hrange

theorem startsAt_getOccurrenceMs {sched : MealSchedule} (htext : IsClockText sched.startTime)
    (nextDay : Bool) : sched.StartsAt offset
      (getOccurrenceMs settings now sched.startTime nextDay) := by
  have hstart := getOccurrenceMs_eq hclock hrange htext nextDay
  obtain ⟨-, hnonneg, hlt⟩ := seconds_scanHms htext ⟨0, 0, 0⟩
  have hseconds : seconds (getOccurrenceMs settings now sched.startTime nextDay) =
      ((seconds now + offset) / 86400 + if nextDay then 1 else 0) * 86400 +
        secondsOf sched.startTime - offset := by
    show ((_ / 1000 : ℕ) : ℤ) = _
    omega
  constructor
  · omega
  · rw [hseconds]
    omega

/-- A meal after `now` is the one of today, or starts with the one of tomorrow or later. -/
theorem start_cases {sched : MealSchedule} (htext : IsClockText sched.startTime) {startMs : ℕ}
    (hstart : sched.StartsAt offset startMs) (hafter : now < startMs) :
    startMs = getOccurrenceMs settings now sched.startTime false ∨
      getOccurrenceMs settings now sched.startTime true ≤ startMs := by
  have htoday := getOccurrenceMs_eq hclock hrange htext false
  have htomorrow := getOccurrenceMs_eq hclock hrange htext true
  simp only [Bool.false_eq_true, if_false, if_true] at htoday htomorrow
  obtain ⟨-, hnonneg, hlt⟩ := seconds_scanHms htext ⟨0, 0, 0⟩
  obtain ⟨hwhole, htime⟩ := hstart
  unfold seconds at htime htoday htomorrow
  omega

/-- All meals of today start before those of tomorrow. -/
theorem today_le_tomorrow {sched sched' : MealSchedule} (htext : IsClockText sched.startTime)
    (htext' : IsClockText sched'.startTime) :
    getOccurrenceMs settings now sched.startTime false ≤
      getOccurrenceMs settings now sched'.startTime true := by
  have htoday := getOccurrenceMs_eq hclock hrange htext false
  have htomorrow := getOccurrenceMs_eq hclock hrange htext' true
  simp only [Bool.false_eq_true, if_false, if_true] at htoday htomorrow
  obtain ⟨-, hnonneg, hlt⟩ := seconds_scanHms htext ⟨0, 0, 0⟩
  obtain ⟨-, hnonneg', hlt'⟩ := seconds_scanHms htext' ⟨0, 0, 0⟩
  omega

theorem now_lt_tomorrow {sched : MealSchedule} (htext : IsClockText sched.startTime) :
    now < getOccurrenceMs settings now sched.startTime true := by
  have htomorrow := getOccurrenceMs_eq hclock hrange htext true
  simp only [if_true] at htomorrow
  obtain ⟨-, hnonneg, hlt⟩ := seconds_scanHms htext ⟨0, 0, 0⟩
  unfold seconds at htomorrow
  omega

/-- The meal that is found, with its end, is a meal. -/
theorem mem_meals_of_getOccurrenceMs (hwell : WellFormed settings.mealSchedules)
    {sched : MealSchedule} (hmem : sched ∈ settings.mealSchedules) (nextDay : Bool) :
    (sched, getOccurrenceMs settings now sched.startTime nextDay,
      nextEndMs settings sched
        (getOccurrenceMs settings now sched.startTime nextDay)) ∈
      meals offset settings.mealSchedules := by
  have htimes := hwell sched hmem
  have hstart := startsAt_getOccurrenceMs hclock hrange htimes.1 nextDay
  refine ⟨hmem, hstart, nextEndMs_eq hclock htimes hstart ?_⟩
  have heq := getOccurrenceMs_eq hclock hrange htimes.1 nextDay
  obtain ⟨-, hnonneg, hlt⟩ := seconds_scanHms htimes.1 ⟨0, 0, 0⟩
  obtain ⟨-, hlate⟩ := hrange
  unfold seconds at heq
  cases nextDay <;> simp only [Bool.false_eq_true, if_false, if_true] at heq <;> omega

/-- What is found for today is the first meal that starts after `now`. -/
theorem isNext_of_findToday (hwell : WellFormed settings.mealSchedules) {best : MealSchedule × ℕ}
    (hfound : findToday settings now = some best) :
    IsNext Meal.startMs (meals offset settings.mealSchedules) now
      (best.1, best.2, nextEndMs settings best.1 best.2) := by
  rw [findToday_eq_argmin] at hfound
  obtain ⟨found, hfirst, rfl⟩ := Option.map_eq_some_iff.mp hfound
  obtain ⟨hmem, hafter⟩ := List.mem_filter.mp (List.argmin_mem hfirst)
  refine ⟨mem_meals_of_getOccurrenceMs hclock hrange hwell hmem false,
    of_decide_eq_true hafter, ?_⟩
  rintro ⟨sched, startMs, endMs⟩ ⟨hsched, hstart, -⟩ hlater
  rcases start_cases hclock hrange (hwell sched hsched).1 hstart hlater with heq | hle
  · have hcandidate : sched ∈ ahead settings now := by
      apply List.mem_filter.mpr
      refine ⟨hsched, decide_eq_true ?_⟩
      rw [← heq]
      exact hlater
    have hmin := List.le_of_mem_argmin hcandidate hfirst
    rw [← heq] at hmin
    exact hmin
  · have hdays := today_le_tomorrow hclock hrange (hwell found hmem).1 (hwell sched hsched).1
    exact hdays.trans hle

/-- If all meals of today have started, the first of tomorrow is the next. -/
theorem isNext_of_findTomorrow (hwell : WellFormed settings.mealSchedules)
    (hnone : findToday settings now = none) {best : MealSchedule × ℕ}
    (hfound : findTomorrow settings now = some best) :
    IsNext Meal.startMs (meals offset settings.mealSchedules) now
      (best.1, best.2, nextEndMs settings best.1 best.2) := by
  rw [findToday_eq_none_iff] at hnone
  rw [findTomorrow_eq_argmin] at hfound
  obtain ⟨found, hfirst, rfl⟩ := Option.map_eq_some_iff.mp hfound
  have hmem := List.argmin_mem hfirst
  refine ⟨mem_meals_of_getOccurrenceMs hclock hrange hwell hmem true,
    now_lt_tomorrow hclock hrange (hwell found hmem).1, ?_⟩
  rintro ⟨sched, startMs, endMs⟩ ⟨hsched, hstart, -⟩ hlater
  rcases start_cases hclock hrange (hwell sched hsched).1 hstart hlater with heq | hle
  · have hcandidate := List.filter_eq_nil_iff.mp hnone sched hsched
    rw [← heq] at hcandidate
    exact absurd (decide_eq_true hlater) hcandidate
  · have hmin := List.le_of_mem_argmin hsched hfirst
    exact hmin.trans hle

/-- **The search.**  It returns the first meal that starts after `now`. -/
theorem findNextMeal_spec (hwell : WellFormed settings.mealSchedules)
    (hnonempty : settings.mealSchedules ≠ []) :
    ∃ meal, findNextMeal settings now = some meal ∧
      IsNext Meal.startMs (meals offset settings.mealSchedules) now meal := by
  rw [findNextMeal]
  cases htoday : findToday settings now with
  | some best => exact ⟨_, rfl, isNext_of_findToday hclock hrange hwell htoday⟩
  | none =>
      obtain ⟨best, htomorrow⟩ := exists_findTomorrow now hnonempty
      rw [htomorrow]
      exact ⟨_, rfl, isNext_of_findTomorrow hclock hrange hwell htoday htomorrow⟩

end Search

end

end OroEdge.Wellbeing
