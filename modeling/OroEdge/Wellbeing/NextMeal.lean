import OroEdge.Lib.Earliest
import OroEdge.Wellbeing.Occurrence
import Mathlib.Data.Int.ConditionallyCompleteOrder

/-!
# The next meal

`IsNextMeal` says what the next meal is, over all days and all schedules: the first
instant after `now` at which clocks show a start time of the list, with the first
instant from there on at which they show the end time.  Instants are integers here, so
that some lie before the epoch.

`firstStartMs` is the first start of one schedule after `now`: the one of the local day,
or the one of the next day.  The search agrees with it while its times are in range.
A time before the epoch, or from 2^64 on, wraps: it is then taken for a time that is far
in the future, or long past.

The search looks at the meals of today that are ahead, and only if there is none at those of
tomorrow; it compares unsigned times.  So three cases are told apart: a meal of today is found
(`findNextMeal_of_ahead`), none is and tomorrow is in range (`findNextMeal_of_tomorrow`), or one
of tomorrow wraps (`findNextMeal_of_wrap`).  In each the search selects the meal that starts
first among those it looks at, and the question is whether the meal that starts first of all is
among these and whether its times are the right ones (`isNextMeal_of_first_iff`).

The specification is about integers and knows no day but that of a start, so that it cannot
repeat the search's own cut at midnight.
-/

namespace OroEdge.Wellbeing

open OroEdge.Lib OroEdge.Storage DogWellbeingMonitor

/-! ## Instants -/

/-- Clocks show the time of day at this instant. -/
def Shows (offset : ℤ) (text : String) (ms : ℤ) : Prop :=
  ms % 1000 = 0 ∧ (ms / 1000 + offset) % 86400 = secondsOf text

/-- The next meal after `now`. -/
structure IsNextMeal (offset : ℤ) (schedules : List MealSchedule) (now : ℕ) (meal : Meal) :
    Prop where
  mem : meal.1 ∈ schedules
  starts : Shows offset meal.1.startTime meal.startMs
  after : now < meal.startMs
  first : ∀ sched ∈ schedules, ∀ ms : ℤ,
    Shows offset sched.startTime ms → now < ms → meal.startMs ≤ ms
  ends : Shows offset meal.1.endTime meal.endMs
  lasting : meal.startMs ≤ meal.endMs
  firstEnd : ∀ ms : ℤ, Shows offset meal.1.endTime ms → meal.startMs ≤ ms → meal.endMs ≤ ms
  short : meal.endMs < meal.startMs + 86400000

/-- The search returns the next meal. -/
def FindsNextMeal (offset : ℤ) (settings : Settings) (now : ℕ) : Prop :=
  ∃ meal, findNextMeal settings now = some meal ∧
    IsNextMeal offset settings.mealSchedules now meal

/-- The instant at which clocks show the time of day on the local day of `now`. -/
def todayMs (offset : ℤ) (now : ℕ) (text : String) : ℤ :=
  ((seconds now + offset) / 86400 * 86400 + secondsOf text - offset) * 1000

/-- The first start after `now`. -/
def firstStartMs (offset : ℤ) (now : ℕ) (sched : MealSchedule) : ℤ :=
  if now < todayMs offset now sched.startTime then todayMs offset now sched.startTime
  else todayMs offset now sched.startTime + 86400000

/-- A meal of the local day is still to come, or none of that day starts before the epoch
and none of the next day at 2^64 or later. -/
def StartInRange (offset : ℤ) (schedules : List MealSchedule) (now : ℕ) : Prop :=
  (∃ sched ∈ schedules, now < todayMs offset now sched.startTime) ∨
    ∀ sched ∈ schedules, 0 ≤ todayMs offset now sched.startTime ∧
      todayMs offset now sched.startTime + 86400000 < 18446744073709551616

/-- The meal that starts first ends below 2^64. -/
def EndInRange (offset : ℤ) (schedules : List MealSchedule) (now : ℕ) : Prop :=
  ∀ sched ∈ schedules.argmin (firstStartMs offset now),
    firstStartMs offset now sched + sched.lengthMs < 18446744073709551616

section

variable {offset : ℤ} {now : ℕ}

/-- The text stands for a time of day. -/
def IsTimeOfDay (text : String) : Prop := 0 ≤ secondsOf text ∧ secondsOf text < 86400

theorem IsClockText.isTimeOfDay {text : String} (htext : IsClockText text) : IsTimeOfDay text :=
  (seconds_scanHms htext ⟨0, 0, 0⟩).2

/-- Of an instant that is a count of milliseconds, it is what `StartsAt` says. -/
theorem shows_natCast_iff {sched : MealSchedule} {startMs : ℕ} :
    Shows offset sched.startTime startMs ↔ sched.StartsAt offset startMs := by
  unfold Shows MealSchedule.StartsAt seconds
  omega

/-! ### The first start -/

variable (offset now) in
theorem shows_todayMs {text : String} (htext : IsTimeOfDay text) :
    Shows offset text (todayMs offset now text) := by
  obtain ⟨hnonneg, hlt⟩ := htext
  unfold Shows todayMs
  omega

theorem Shows.next_day {text : String} {ms : ℤ} (hshows : Shows offset text ms) :
    Shows offset text (ms + 86400000) := by
  obtain ⟨hwhole, htime⟩ := hshows
  unfold Shows
  omega

/-- The instants at which clocks show one time of day are whole days apart. -/
theorem Shows.eq_or_apart {text : String} {ms ms' : ℤ} (hshows : Shows offset text ms)
    (hshows' : Shows offset text ms') :
    ms' = ms ∨ ms' + 86400000 ≤ ms ∨ ms + 86400000 ≤ ms' := by
  obtain ⟨hwhole, htime⟩ := hshows
  obtain ⟨hwhole', htime'⟩ := hshows'
  omega

variable (offset now) in
theorem todayMs_bounds {text : String} (htext : IsTimeOfDay text) :
    now - 86400000 < todayMs offset now text ∧ todayMs offset now text < now + 86400000 := by
  obtain ⟨hnonneg, hlt⟩ := htext
  unfold todayMs seconds
  omega

variable (offset now) in
/-- All times of a day come before those of the next. -/
theorem todayMs_lt_next_day {text text' : String} (htext : IsTimeOfDay text)
    (htext' : IsTimeOfDay text') :
    todayMs offset now text < todayMs offset now text' + 86400000 := by
  obtain ⟨hnonneg, hlt⟩ := htext
  obtain ⟨hnonneg', hlt'⟩ := htext'
  unfold todayMs
  omega

section

variable {sched : MealSchedule} (htext : IsTimeOfDay sched.startTime)

include htext

variable (offset now) in
theorem shows_firstStartMs : Shows offset sched.startTime (firstStartMs offset now sched) := by
  unfold firstStartMs
  split
  · exact shows_todayMs offset now htext
  · exact (shows_todayMs offset now htext).next_day

variable (offset now) in
theorem lt_firstStartMs : now < firstStartMs offset now sched := by
  have hbounds := todayMs_bounds offset now htext
  unfold firstStartMs
  split <;> omega

theorem firstStartMs_le {ms : ℤ} (hshows : Shows offset sched.startTime ms) (hafter : now < ms) :
    firstStartMs offset now sched ≤ ms := by
  have hbounds := todayMs_bounds offset now htext
  have hapart := (shows_todayMs offset now htext).eq_or_apart hshows
  unfold firstStartMs
  split <;> omega

end

/-! ### The end -/

section

variable {sched : MealSchedule} (hend : IsTimeOfDay sched.endTime)

include hend in
theorem shows_end {start : ℤ} (hshows : Shows offset sched.startTime start) :
    Shows offset sched.endTime (start + sched.lengthMs) := by
  obtain ⟨hnonneg, hlt⟩ := hend
  obtain ⟨hwhole, htime⟩ := hshows
  rw [lengthMs_cast]
  unfold Shows
  omega

include hend in
theorem end_le {start ms : ℤ} (hshows : Shows offset sched.startTime start)
    (hends : Shows offset sched.endTime ms) (hle : start ≤ ms) : start + sched.lengthMs ≤ ms := by
  have hlength := lengthMs_lt sched
  rcases (shows_end hend hshows).eq_or_apart hends with heq | hbefore | hafter
  · exact heq.ge
  · omega
  · omega

end

/-! ### The next meal -/

/-- The next meal, said with the first start and the length. -/
theorem isNextMeal_iff {schedules : List MealSchedule} (hwell : WellFormed schedules)
    {meal : Meal} (hmem : meal.1 ∈ schedules) :
    IsNextMeal offset schedules now meal ↔
      (∀ sched ∈ schedules, firstStartMs offset now meal.1 ≤ firstStartMs offset now sched) ∧
        meal.startMs = firstStartMs offset now meal.1 ∧
        meal.endMs = firstStartMs offset now meal.1 + meal.1.lengthMs := by
  have hstart := (hwell meal.1 hmem).1.isTimeOfDay
  have hend := (hwell meal.1 hmem).2.isTimeOfDay
  have hshows := shows_firstStartMs offset now hstart
  have hafter := lt_firstStartMs offset now hstart
  have hlength := lengthMs_lt meal.1
  constructor
  · intro hnext
    have hstartMs : (meal.startMs : ℤ) = firstStartMs offset now meal.1 :=
      le_antisymm (hnext.first meal.1 hmem _ hshows hafter)
        (firstStartMs_le hstart hnext.starts (by exact_mod_cast hnext.after))
    refine ⟨fun sched hsched => ?_, hstartMs, ?_⟩
    · have htext := (hwell sched hsched).1.isTimeOfDay
      rw [← hstartMs]
      exact hnext.first sched hsched _ (shows_firstStartMs offset now htext)
        (lt_firstStartMs offset now htext)
    · have hlasting : (meal.startMs : ℤ) ≤ meal.endMs := by exact_mod_cast hnext.lasting
      rw [← hstartMs] at hshows ⊢
      exact le_antisymm (hnext.firstEnd _ (shows_end hend hshows) (by omega))
        (end_le hend hshows hnext.ends hlasting)
  · rintro ⟨hleast, hstartMs, hendMs⟩
    refine ⟨hmem, ?_, ?_, ?_, ?_, ?_, ?_, ?_⟩
    · rw [hstartMs]
      exact hshows
    · omega
    · intro sched hsched ms hms hlater
      calc (meal.startMs : ℤ) = firstStartMs offset now meal.1 := hstartMs
        _ ≤ firstStartMs offset now sched := hleast sched hsched
        _ ≤ ms := firstStartMs_le (hwell sched hsched).1.isTimeOfDay hms hlater
    · rw [hendMs]
      exact shows_end hend hshows
    · omega
    · intro ms hms hlater
      rw [hendMs]
      rw [hstartMs] at hlater
      exact end_le hend hshows hms hlater
    · omega

/-! ### What is computed -/

variable {settings : Settings}

section

variable (hclock : settings.clock = .fixed offset)

include hclock

theorem getOccurrenceMs_today (now : ℕ) (text : String) :
    (getOccurrenceMs settings now text false : ℤ) =
      todayMs offset now text % 18446744073709551616 := by
  rw [getOccurrenceMs_emod hclock, todayMs]
  simp only [Bool.false_eq_true, if_false, add_zero]

theorem getOccurrenceMs_tomorrow (now : ℕ) (text : String) :
    (getOccurrenceMs settings now text true : ℤ) =
      (todayMs offset now text + 86400000) % 18446744073709551616 := by
  rw [getOccurrenceMs_emod hclock, todayMs]
  simp only [if_true]
  congr 1
  ring

end

/-! ### The search -/

section Search

variable (hclock : settings.clock = .fixed offset) (hwell : WellFormed settings.mealSchedules)
  (hnow : now < 18446744073709551616)

include hclock hwell hnow

/-- Besides the meals to come, those that start before the epoch are taken to be ahead. -/
theorem mem_ahead_iff {sched : MealSchedule} (hmem : sched ∈ settings.mealSchedules) :
    sched ∈ ahead settings now ↔ todayMs offset now sched.startTime < 0 ∨
      (now < todayMs offset now sched.startTime ∧
        todayMs offset now sched.startTime < 18446744073709551616) := by
  have hvalue := getOccurrenceMs_today hclock now sched.startTime
  have hbounds := todayMs_bounds offset now (hwell sched hmem).1.isTimeOfDay
  rw [ahead, List.mem_filter, decide_eq_true_eq, and_iff_right hmem]
  omega

/-- Among these the search keeps the order of the first starts. -/
theorem firstStartMs_lt_iff {sched other : MealSchedule} (hsched : sched ∈ ahead settings now)
    (hother : other ∈ ahead settings now) :
    firstStartMs offset now sched < firstStartMs offset now other ↔
      getOccurrenceMs settings now sched.startTime false <
        getOccurrenceMs settings now other.startTime false := by
  have hmem := List.mem_of_mem_filter hsched
  have hmem' := List.mem_of_mem_filter hother
  have htext := (hwell sched hmem).1.isTimeOfDay
  have htext' := (hwell other hmem').1.isTimeOfDay
  have hplace := (mem_ahead_iff hclock hwell hnow hmem).mp hsched
  have hplace' := (mem_ahead_iff hclock hwell hnow hmem').mp hother
  have hvalue := getOccurrenceMs_today hclock now sched.startTime
  have hvalue' := getOccurrenceMs_today hclock now other.startTime
  have hbounds := todayMs_bounds offset now htext
  have hbounds' := todayMs_bounds offset now htext'
  have hday := todayMs_lt_next_day offset now htext htext'
  have hday' := todayMs_lt_next_day offset now htext' htext
  unfold firstStartMs
  split <;> split <;> omega

/-- What the search passes over starts later than what it looks at. -/
theorem firstStartMs_lt_of_not_mem {sched other : MealSchedule}
    (hsched : sched ∈ ahead settings now) (hmem' : other ∈ settings.mealSchedules)
    (hother : other ∉ ahead settings now) :
    firstStartMs offset now sched < firstStartMs offset now other := by
  have hmem := List.mem_of_mem_filter hsched
  have htext := (hwell sched hmem).1.isTimeOfDay
  have htext' := (hwell other hmem').1.isTimeOfDay
  have hplace := (mem_ahead_iff hclock hwell hnow hmem).mp hsched
  rw [mem_ahead_iff hclock hwell hnow hmem'] at hother
  have hbounds := todayMs_bounds offset now htext
  have hbounds' := todayMs_bounds offset now htext'
  have hday := todayMs_lt_next_day offset now htext htext'
  unfold firstStartMs
  split <;> split <;> omega

/-- The search selects the meal that starts first. -/
theorem argmin_ahead (hahead : ahead settings now ≠ []) :
    ((ahead settings now).argmin fun sched =>
      getOccurrenceMs settings now sched.startTime false) =
        settings.mealSchedules.argmin (firstStartMs offset now) := by
  have hsame : ((ahead settings now).argmin fun sched =>
      getOccurrenceMs settings now sched.startTime false) =
        (ahead settings now).argmin (firstStartMs offset now) := by
    apply argmin_congr
    intro sched hsched other hother
    exact (firstStartMs_lt_iff hclock hwell hnow hsched hother).symm
  have hpassed : (ahead settings now).argmin (firstStartMs offset now) =
      settings.mealSchedules.argmin (firstStartMs offset now) := by
    apply argmin_filter
    · intro sched hmem hpass other hmem' hpass'
      have hsched : sched ∈ ahead settings now := List.mem_filter.mpr ⟨hmem, hpass⟩
      apply firstStartMs_lt_of_not_mem hclock hwell hnow hsched hmem'
      intro hother
      have htrue := (List.mem_filter.mp hother).2
      rw [hpass'] at htrue
      exact Bool.false_ne_true htrue
    · exact hahead
  exact hsame.trans hpassed

/-- If no meal is ahead, all meals of today have passed, or lie at 2^64 or later. -/
theorem passed_of_ahead_eq_nil (hempty : ahead settings now = []) {sched : MealSchedule}
    (hmem : sched ∈ settings.mealSchedules) : 0 ≤ todayMs offset now sched.startTime ∧
      (todayMs offset now sched.startTime ≤ now ∨
        18446744073709551616 ≤ todayMs offset now sched.startTime) := by
  have hplace := mt (mem_ahead_iff hclock hwell hnow hmem).mpr
  rw [hempty] at hplace
  have hpassed := hplace List.not_mem_nil
  omega

/-- A meal of today is found: it is the one that starts first. -/
theorem findNextMeal_of_ahead (hahead : ahead settings now ≠ []) {sched : MealSchedule}
    (hfirst : sched ∈ settings.mealSchedules.argmin (firstStartMs offset now)) :
    findNextMeal settings now = some (sched,
      getOccurrenceMs settings now sched.startTime false,
      nextEndMs settings sched (getOccurrenceMs settings now sched.startTime false)) := by
  rw [findNextMeal, findToday_eq_argmin, argmin_ahead hclock hwell hnow hahead,
    Option.mem_def.mp hfirst]
  rfl

/-- No meal of today is ahead, and those of tomorrow are below 2^64. -/
theorem findNextMeal_of_tomorrow (hempty : ahead settings now = [])
    (hlate : ∀ sched ∈ settings.mealSchedules,
      todayMs offset now sched.startTime + 86400000 < 18446744073709551616)
    {sched : MealSchedule}
    (hfirst : sched ∈ settings.mealSchedules.argmin (firstStartMs offset now)) :
    ∃ startMs : ℕ, (startMs : ℤ) = firstStartMs offset now sched ∧
      findNextMeal settings now = some (sched, startMs, nextEndMs settings sched startMs) := by
  have hvalue : ∀ other ∈ settings.mealSchedules,
      (getOccurrenceMs settings now other.startTime true : ℤ) =
        firstStartMs offset now other := by
    intro other hother
    have hpassed := passed_of_ahead_eq_nil hclock hwell hnow hempty hother
    have hbelow := hlate other hother
    rw [getOccurrenceMs_tomorrow hclock, firstStartMs]
    split <;> omega
  have hsame : (settings.mealSchedules.argmin fun other =>
      getOccurrenceMs settings now other.startTime true) =
        settings.mealSchedules.argmin (firstStartMs offset now) := by
    apply argmin_congr
    intro a ha b hb
    rw [← hvalue a ha, ← hvalue b hb, Int.ofNat_lt]
  refine ⟨_, hvalue sched (List.argmin_mem hfirst), ?_⟩
  rw [findNextMeal, (findToday_eq_none_iff now).mpr hempty, findTomorrow_eq_argmin, hsame,
    Option.mem_def.mp hfirst]
  rfl

/-- No meal of today is ahead, and one of tomorrow wraps: a meal that is long past is found. -/
theorem findNextMeal_of_wrap (hempty : ahead settings now = []) {sched : MealSchedule}
    (hmem : sched ∈ settings.mealSchedules)
    (hlate : 18446744073709551616 ≤ todayMs offset now sched.startTime + 86400000) :
    ∃ meal : Meal, findNextMeal settings now = some meal ∧ meal.startMs < now := by
  have hbounds := todayMs_bounds offset now (hwell sched hmem).1.isTimeOfDay
  have hvalue := getOccurrenceMs_tomorrow hclock now sched.startTime
  cases hbest : settings.mealSchedules.argmin fun other =>
      getOccurrenceMs settings now other.startTime true with
  | none =>
      rw [List.argmin_eq_none.mp hbest] at hmem
      exact absurd hmem List.not_mem_nil
  | some best =>
      have hleast : getOccurrenceMs settings now best.startTime true ≤
          getOccurrenceMs settings now sched.startTime true :=
        List.le_of_mem_argmin (f := fun other : MealSchedule =>
          getOccurrenceMs settings now other.startTime true) hmem hbest
      have hfound : findNextMeal settings now = some (best,
          getOccurrenceMs settings now best.startTime true,
          nextEndMs settings best (getOccurrenceMs settings now best.startTime true)) := by
        rw [findNextMeal, (findToday_eq_none_iff now).mpr hempty, findTomorrow_eq_argmin, hbest]
        rfl
      refine ⟨_, hfound, ?_⟩
      show getOccurrenceMs settings now best.startTime true < now
      omega

/-- What is found with the meal that starts first is the next meal, if neither its start
nor its end wraps. -/
theorem isNextMeal_of_first_iff {sched : MealSchedule}
    (hfirst : sched ∈ settings.mealSchedules.argmin (firstStartMs offset now)) (startMs : ℕ) :
    IsNextMeal offset settings.mealSchedules now
        (sched, startMs, nextEndMs settings sched startMs) ↔
      (startMs : ℤ) = firstStartMs offset now sched ∧
        firstStartMs offset now sched + sched.lengthMs < 18446744073709551616 := by
  have hmem := List.argmin_mem hfirst
  obtain ⟨hstart, hend⟩ := hwell sched hmem
  have hshows := shows_firstStartMs offset now hstart.isTimeOfDay
  have hafter := lt_firstStartMs offset now hstart.isTimeOfDay
  rw [isNextMeal_iff hwell hmem]
  constructor
  · rintro ⟨-, hstarts, hendMs⟩
    have hstartMs : (startMs : ℤ) = firstStartMs offset now sched := hstarts
    refine ⟨hstartMs, ?_⟩
    rw [← hstartMs] at hshows
    have hvalue := nextEndMs_eq_emod hclock ⟨hstart, hend⟩ (shows_natCast_iff.mp hshows)
    have hendMs' : (nextEndMs settings sched startMs : ℤ) =
      firstStartMs offset now sched + sched.lengthMs := hendMs
    omega
  · rintro ⟨hstartMs, hbelow⟩
    refine ⟨fun other hother => List.le_of_mem_argmin hother hfirst, hstartMs, ?_⟩
    rw [← hstartMs] at hshows
    have hvalue := nextEndMs_eq_emod hclock ⟨hstart, hend⟩ (shows_natCast_iff.mp hshows)
    show (nextEndMs settings sched startMs : ℤ) = firstStartMs offset now sched + sched.lengthMs
    omega

/-- If the search finds a meal of today, its start is the right one unless it lies before
the epoch. -/
theorem todayStart_iff (hahead : ahead settings now ≠ []) {sched : MealSchedule}
    (hfirst : sched ∈ settings.mealSchedules.argmin (firstStartMs offset now)) :
    (getOccurrenceMs settings now sched.startTime false : ℤ) = firstStartMs offset now sched ↔
      StartInRange offset settings.mealSchedules now := by
  have hmem := List.argmin_mem hfirst
  have htext := (hwell sched hmem).1.isTimeOfDay
  have hlooked : sched ∈ ahead settings now := by
    rw [← argmin_ahead hclock hwell hnow hahead] at hfirst
    exact List.argmin_mem hfirst
  have hplace := (mem_ahead_iff hclock hwell hnow hmem).mp hlooked
  have hvalue := getOccurrenceMs_today hclock now sched.startTime
  have hbounds := todayMs_bounds offset now htext
  constructor
  · intro hstartMs
    refine Or.inl ⟨sched, hmem, ?_⟩
    unfold firstStartMs at hstartMs
    split at hstartMs <;> omega
  · rintro (⟨other, hother, hlater⟩ | hall)
    · have hleast := List.le_of_mem_argmin hother hfirst
      have hday := todayMs_lt_next_day offset now
        (hwell other hother).1.isTimeOfDay htext
      rw [firstStartMs, firstStartMs, if_pos hlater] at hleast
      rw [firstStartMs]
      split at hleast <;> omega
    · have hrange := hall sched hmem
      rw [firstStartMs, if_pos (by omega)]
      omega

/-- No meal of today is ahead, and one of tomorrow wraps: that is out of range. -/
theorem not_inRange_of_wrap (hempty : ahead settings now = []) {sched : MealSchedule}
    (hmem : sched ∈ settings.mealSchedules)
    (hlate : 18446744073709551616 ≤ todayMs offset now sched.startTime + 86400000)
    {first : MealSchedule}
    (hfirst : first ∈ settings.mealSchedules.argmin (firstStartMs offset now)) :
    ¬ (StartInRange offset settings.mealSchedules now ∧
      EndInRange offset settings.mealSchedules now) := by
  rintro ⟨⟨other, hother, hlater⟩ | hall, hend⟩
  · -- all that is still to come of today starts at 2^64 or later
    have hmem' := List.argmin_mem hfirst
    have hpassed := passed_of_ahead_eq_nil hclock hwell hnow hempty hother
    have hpassed' := passed_of_ahead_eq_nil hclock hwell hnow hempty hmem'
    have hbelow := hend first hfirst
    have hday := todayMs_lt_next_day offset now
      (hwell other hother).1.isTimeOfDay (hwell first hmem').1.isTimeOfDay
    unfold firstStartMs at hbelow
    split at hbelow <;> omega
  · have hrange := hall sched hmem
    omega

omit hclock hwell hnow in
theorem findsNextMeal_iff_of_found {meal : Meal} (hfound : findNextMeal settings now = some meal) :
    FindsNextMeal offset settings now ↔ IsNextMeal offset settings.mealSchedules now meal := by
  constructor
  · rintro ⟨other, hother, hnext⟩
    rw [hfound] at hother
    obtain rfl := Option.some.inj hother
    exact hnext
  · exact fun hnext => ⟨meal, hfound, hnext⟩

/-- **The next meal is found** exactly when the times that the search goes by are in range. -/
theorem findsNextMeal_iff_inRange (hnonempty : settings.mealSchedules ≠ []) :
    FindsNextMeal offset settings now ↔ StartInRange offset settings.mealSchedules now ∧
      EndInRange offset settings.mealSchedules now := by
  cases hargmin : settings.mealSchedules.argmin (firstStartMs offset now) with
  | none => exact absurd (List.argmin_eq_none.mp hargmin) hnonempty
  | some sched =>
      have hright := isNextMeal_of_first_iff hclock hwell hnow hargmin
      have hend : EndInRange offset settings.mealSchedules now ↔
          firstStartMs offset now sched + sched.lengthMs < 18446744073709551616 := by
        constructor
        · exact fun hall => hall sched hargmin
        · intro hbelow other hother
          rw [hargmin] at hother
          obtain rfl := Option.some.inj hother
          exact hbelow
      by_cases hahead : ahead settings now = []
      · by_cases hlate : ∀ other ∈ settings.mealSchedules,
            todayMs offset now other.startTime + 86400000 < 18446744073709551616
        · -- the first meal of tomorrow, at the right time
          obtain ⟨startMs, hstartMs, hfound⟩ :=
            findNextMeal_of_tomorrow hclock hwell hnow hahead hlate hargmin
          have hstart : StartInRange offset settings.mealSchedules now := by
            refine Or.inr fun other hother => ⟨?_, hlate other hother⟩
            exact (passed_of_ahead_eq_nil hclock hwell hnow hahead hother).1
          rw [findsNextMeal_iff_of_found hfound, hright, hend, and_iff_right hstartMs,
            and_iff_right hstart]
        · -- a meal of tomorrow that wraps
          push Not at hlate
          obtain ⟨other, hother, hwrap⟩ := hlate
          obtain ⟨meal, hfound, hbefore⟩ :=
            findNextMeal_of_wrap hclock hwell hnow hahead hother hwrap
          rw [findsNextMeal_iff_of_found hfound]
          refine iff_of_false (fun hnext => ?_)
            (not_inRange_of_wrap hclock hwell hnow hahead hother hwrap hargmin)
          exact absurd hnext.after hbefore.le.not_gt
      · -- the first meal of today, or one before the epoch
        have hfound := findNextMeal_of_ahead hclock hwell hnow hahead hargmin
        rw [findsNextMeal_iff_of_found hfound, hright, hend,
          todayStart_iff hclock hwell hnow hahead hargmin]

end Search

end

/-! ### Two meals, one of them past midnight -/

def breakfast : MealSchedule := ⟨"08:00:00", "09:00:00", "M1", "bowl_1"⟩

/-- A meal over midnight. -/
def lateSupper : MealSchedule := ⟨"18:30:00", "00:15:00", "M2", "bowl_1"⟩

def twoMealsAt (offset : ℤ) : Settings :=
  ⟨"base", "dog", [lateSupper, breakfast], "24h", .fixed offset, ⟨0, 0, 0⟩, ⟨0, 0, 0⟩⟩

theorem wellFormed_twoMealsAt (offset : ℤ) : WellFormed (twoMealsAt offset).mealSchedules := by
  intro sched hsched
  rcases List.mem_pair.mp hsched with rfl | rfl
  · exact ⟨⟨66600, by decide, by decide +kernel⟩, ⟨900, by decide, by decide +kernel⟩⟩
  · exact ⟨⟨28800, by decide, by decide +kernel⟩, ⟨32400, by decide, by decide +kernel⟩⟩

/-- In the evening of a day in June 2026, the next meal is the breakfast of the next day. -/
theorem findsNextMeal_evening : FindsNextMeal 19800 (twoMealsAt 19800) 1780925400000 := by
  refine (findsNextMeal_iff_inRange rfl (wellFormed_twoMealsAt 19800) (by decide)
    (by decide)).mpr ⟨Or.inr ?_, ?_⟩
  · intro sched hsched
    rcases List.mem_pair.mp hsched with rfl | rfl
    · decide +kernel
    · decide +kernel
  · intro sched hfirst
    obtain rfl : breakfast = sched := Option.some.inj hfirst
    decide +kernel

/-- Ten seconds after the epoch, west of Greenwich: the breakfast of the local day, which
was before the epoch, is taken for one that is still to come. -/
theorem not_findsNextMeal_epoch : WellFormed (twoMealsAt (-18000)).mealSchedules ∧
    ¬ FindsNextMeal (-18000) (twoMealsAt (-18000)) 10000 := by
  refine ⟨wellFormed_twoMealsAt _, ?_⟩
  have hfound : findNextMeal (twoMealsAt (-18000)) 10000 =
      some (breakfast, 18446744073669951616, 18446744073621600000) := by
    decide +kernel
  rw [findsNextMeal_iff_of_found hfound]
  intro hnext
  have hshows : Shows (-18000) breakfast.startTime 46800000 := by
    unfold Shows
    decide +kernel
  have hle := hnext.first breakfast (by simp [twoMealsAt]) 46800000 hshows (by decide)
  exact absurd hle (by decide)

end OroEdge.Wellbeing
