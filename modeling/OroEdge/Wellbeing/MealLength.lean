import OroEdge.Wellbeing.NextMeal

/-!
# The length of a meal

A start and an end time may be written `HH:MM` or `HH:MM:SS`.  Three functions scan them:
`get_occurrence_ms` and `get_tolerance_window_minutes` into variables that are zero, and
the end of a meal in `find_next_meal` into variables that are not set.  What a text
without seconds leaves in these decides when the meal ends (`nextEndMs_emod`).

`ConsistentLength` says that these variables do not matter, and that the tolerance window
is the time from the start to the end.

The contents of a variable that is not set are a field of the settings, and to say that they do
not matter is to say that any other contents give the same meal (`Settings.withLocals`).  A text
without seconds lets two contents give two ends, at different seconds of the day
(`ConsistentLength.isClockText_endTime`), or on different days
(`ConsistentLength.isClockText_startTime`), so that consistency forces complete times.

With complete times the only other source of a difference is the wrap of a time, and modulo a
day a wrapped time is shifted by a fixed number of seconds (`length_of_shifted_ne`); that is
more than a minute off, which is what the tolerance window would notice.
-/

namespace OroEdge.Wellbeing

open OroEdge.Lib OroEdge.Storage DogWellbeingMonitor

/-! ## Texts without seconds -/

/-- `HH:MM`. -/
def shortClockText (minuteOfDay : ℤ) : String :=
  padded 2 (minuteOfDay / 60) ++ ":" ++ padded 2 (minuteOfDay % 60)

/-- A text `HH:MM`. -/
def IsShortText (text : String) : Prop := ∃ m : ℕ, m < 1440 ∧ text = shortClockText m

/-- A text `HH:MM` or `HH:MM:SS`. -/
def IsTimeText (text : String) : Prop := IsShortText text ∨ IsClockText text

theorem scanTriple_shortClockText {m : ℕ} (hm : m < 1440) :
    scanTriple ':' (shortClockText m) = [((m / 60 : ℕ) : ℤ), ((m % 60 : ℕ) : ℤ)] := by
  have htext : (shortClockText m).toList =
      (padded 2 (m / 60)).toList ++ ':' :: (padded 2 (m % 60)).toList := by
    simp [shortClockText]
  rw [scanTriple, htext, Directive.scan_padded_literal (by omega) (by omega) rfl,
    Directive.scan_padded_end (by omega) (by omega)]
  push_cast
  rfl

/-- The seconds keep their initial value. -/
theorem seconds_scanHms_short {m : ℕ} (hm : m < 1440) (initial : Hms) :
    (scanHms (shortClockText m) initial).seconds = m * 60 + initial.second := by
  have hseconds : (scanHms (shortClockText m) initial).seconds =
      ((m / 60 : ℕ) : ℤ) * 3600 + ((m % 60 : ℕ) : ℤ) * 60 + initial.second := by
    unfold scanHms Hms.seconds
    rw [scanTriple_shortClockText hm]
    rfl
  rw [hseconds]
  omega

theorem secondsOf_shortClockText {m : ℕ} (hm : m < 1440) :
    secondsOf (shortClockText m) = m * 60 := by
  rw [secondsOf, seconds_scanHms_short hm, add_zero]

/-! ## The tolerance window -/

theorem getToleranceWindowMinutes_eq {startText endText : String} (hstart : IsTimeOfDay startText)
    (hend : IsTimeOfDay endText) : getToleranceWindowMinutes startText endText =
      (secondsOf endText - secondsOf startText) % 86400 / 60 := by
  obtain ⟨hstartNonneg, hstartLt⟩ := hstart
  obtain ⟨hendNonneg, hendLt⟩ := hend
  have hwrap : (if secondsOf endText < secondsOf startText then secondsOf endText + 86400
      else secondsOf endText) - secondsOf startText =
        (secondsOf endText - secondsOf startText) % 86400 := by
    split <;> omega
  have hnonneg : 0 ≤ (secondsOf endText - secondsOf startText) % 86400 := by omega
  calc getToleranceWindowMinutes startText endText
      = ((if secondsOf endText < secondsOf startText then secondsOf endText + 86400
          else secondsOf endText) - secondsOf startText).tdiv 60 := rfl
    _ = ((secondsOf endText - secondsOf startText) % 86400).tdiv 60 := by rw [hwrap]
    _ = (secondsOf endText - secondsOf startText) % 86400 / 60 :=
        Int.tdiv_eq_ediv_of_nonneg hnonneg

/-! ## A time that has wrapped

As 2^64 milliseconds are not a whole number of days, clocks show another time of day at an
instant that has wrapped. -/

theorem emod_sub_cases {x : ℤ} (hx : 0 ≤ x ∧ x < 18446744073709551616) (y : ℤ)
    (hnear : x - 18446744073709551616 ≤ y ∧ y < x + 18446744073709551616) :
    y % 18446744073709551616 - x = y - x ∨
      y % 18446744073709551616 - x = y - x + 18446744073709551616 ∨
      y % 18446744073709551616 - x = y - x - 18446744073709551616 := by
  omega

/-- Minutes of a length, and of one that differs from it by more than a minute. -/
theorem minutes_ne {length shift rest d : ℤ} (hlength : 0 ≤ length ∧ length < 86400)
    (hshift : (100 ≤ shift ∧ shift ≤ 86400) ∨ (-86400 ≤ shift ∧ shift ≤ -100))
    (hrest : 0 ≤ rest ∧ rest < 1000)
    (hd : d = (length + shift) * 1000 - rest ∨
      d = (length + shift) * 1000 - rest + 18446744073709551616 ∨
      d = (length + shift) * 1000 - rest - 18446744073709551616) :
    length / 60 ≠ d / 60000 := by
  have hwhole : length / 60 < 1440 ∧ 0 ≤ length / 60 := by omega
  rcases hshift with hsign | hsign <;> rcases hd with rfl | rfl | rfl <;> omega

/-- A meal from a start that is `shift` seconds off the time of day `s`, to the next `e`. -/
theorem length_of_shifted_ne {start t offset day s e : ℤ} (days shift rest : ℤ)
    (hstart : start = (t + 86400 * days + shift) * 1000 + rest) (hrest : 0 ≤ rest ∧ rest < 1000)
    (ht : t + offset = 86400 * day + s) (hs : 0 ≤ s ∧ s < 86400) (he : 0 ≤ e ∧ e < 86400)
    (hshift : 100 ≤ shift ∧ shift ≤ 86300) (hrange : 0 ≤ start ∧ start < 18446744073709551616) :
    (e - s) % 86400 / 60 ≠
      (((start / 1000 + (if e < s then 86400 else 0) + offset) / 86400 * 86400 + e - offset) *
        1000 % 18446744073709551616 - start) / 60000 := by
  have hseconds : start / 1000 = t + 86400 * days + shift := by omega
  have hlength : (e - s) % 86400 = e - s + if e < s then 86400 else 0 := by
    split <;> omega
  have hend : (start / 1000 + (if e < s then 86400 else 0) + offset) / 86400 * 86400 + e -
      offset = t + 86400 * days + (e - s) % 86400 + if 86400 ≤ s + shift then 86400 else 0 := by
    rw [hseconds, hlength]
    split <;> split <;> omega
  have hbounds : 0 ≤ (e - s) % 86400 ∧ (e - s) % 86400 < 86400 := by omega
  rw [hend]
  generalize (e - s) % 86400 = length at hbounds ⊢
  split
  · have hnear := emod_sub_cases hrange ((t + 86400 * days + length + 86400) * 1000) (by omega)
    have hgap : (100 ≤ 86400 - shift ∧ 86400 - shift ≤ 86400) ∨
        (-86400 ≤ 86400 - shift ∧ 86400 - shift ≤ -100) := by omega
    exact minutes_ne hbounds hgap hrest (by omega)
  · have hnear := emod_sub_cases hrange ((t + 86400 * days + length + 0) * 1000) (by omega)
    have hgap : (100 ≤ -shift ∧ -shift ≤ 86400) ∨ (-86400 ≤ -shift ∧ -shift ≤ -100) := by omega
    exact minutes_ne hbounds hgap hrest (by omega)

/-! ## Variables that are not set -/

/-- What variables of type `int` may hold. -/
def Hms.IsInt (hms : Hms) : Prop :=
  ∀ x ∈ [hms.hour, hms.minute, hms.second], -2147483648 ≤ x ∧ x < 2147483648

/-- The local variables of the scans have other contents. -/
def Settings.withLocals (settings : Settings) (startLocals endLocals : Hms) : Settings :=
  { settings with startLocals := startLocals, endLocals := endLocals }

@[simp] theorem Settings.withLocals_startLocals (settings : Settings)
    (startLocals endLocals : Hms) :
    (settings.withLocals startLocals endLocals).startLocals = startLocals := rfl

@[simp] theorem Settings.withLocals_endLocals (settings : Settings) (startLocals endLocals : Hms) :
    (settings.withLocals startLocals endLocals).endLocals = endLocals := rfl

/-- The schedule is selected. -/
def Selects (settings : Settings) (now : ℕ) (sched : MealSchedule) : Prop :=
  ∃ startMs endMs, findNextMeal settings now = some (sched, startMs, endMs)

/-- Whatever the variables hold, the same start and end are found, and the tolerance window
is the time between them in minutes. -/
def ConsistentLength (settings : Settings) (now : ℕ) (sched : MealSchedule) : Prop :=
  ∃ startMs endMs : ℕ,
    (∀ startLocals endLocals : Hms, startLocals.IsInt → endLocals.IsInt →
      findNextMeal (settings.withLocals startLocals endLocals) now =
        some (sched, startMs, endMs)) ∧
    getToleranceWindowMinutes sched.startTime sched.endTime = ((endMs : ℤ) - startMs) / 60000

/-- Neither the start on the local day of `now` nor the first meal after `now` leaves the range
of the times. -/
def MealInRange (offset : ℤ) (now : ℕ) (sched : MealSchedule) : Prop :=
  0 ≤ todayMs offset now sched.startTime ∧
    firstStartMs offset now sched + sched.lengthMs < 18446744073709551616

section

variable {offset : ℤ} {settings : Settings} {now : ℕ} {sched : MealSchedule}

/-- The start is found without these variables. -/
theorem findNextMeal_withLocals {startMs endMs : ℕ}
    (hfound : findNextMeal settings now = some (sched, startMs, endMs))
    (startLocals endLocals : Hms) :
    findNextMeal (settings.withLocals startLocals endLocals) now = some (sched, startMs,
      nextEndMs (settings.withLocals startLocals endLocals) sched startMs) := by
  obtain ⟨best, hbest, hmeal⟩ := Option.map_eq_some_iff.mp hfound
  obtain ⟨rfl, rfl, -⟩ := hmeal
  show Option.map _ ((findToday settings now).or (findTomorrow settings now)) = _
  rw [hbest]
  rfl

theorem end_of_findNextMeal {startMs endMs : ℕ}
    (hfound : findNextMeal settings now = some (sched, startMs, endMs)) :
    endMs = nextEndMs settings sched startMs := by
  obtain ⟨best, -, hmeal⟩ := Option.map_eq_some_iff.mp hfound
  obtain ⟨rfl, rfl, rfl⟩ := hmeal
  rfl

/-- How a meal is selected: as one of today, or as one of tomorrow that is not ahead. -/
theorem start_of_findNextMeal {startMs endMs : ℕ}
    (hfound : findNextMeal settings now = some (sched, startMs, endMs)) :
    (startMs = getOccurrenceMs settings now sched.startTime false ∧ now < startMs) ∨
      (startMs = getOccurrenceMs settings now sched.startTime true ∧
        getOccurrenceMs settings now sched.startTime false ≤ now) := by
  obtain ⟨best, hbest, hmeal⟩ := Option.map_eq_some_iff.mp hfound
  obtain ⟨rfl, rfl, -⟩ := hmeal
  rw [findToday_eq_argmin, findTomorrow_eq_argmin] at hbest
  cases htoday : (ahead settings now).argmin fun sched =>
      getOccurrenceMs settings now sched.startTime false with
  | some first =>
      rw [htoday] at hbest
      obtain rfl := Option.some.inj hbest
      have hahead := (List.mem_filter.mp (List.argmin_mem htoday)).2
      exact Or.inl ⟨rfl, of_decide_eq_true hahead⟩
  | none =>
      rw [htoday] at hbest
      obtain ⟨first, hfirst, rfl⟩ := Option.map_eq_some_iff.mp hbest
      have hnone := List.filter_eq_nil_iff.mp (List.argmin_eq_none.mp htoday) first
        (List.argmin_mem hfirst)
      exact Or.inr ⟨rfl, not_lt.mp fun hlt => hnone (decide_eq_true hlt)⟩

theorem start_lt_of_findNextMeal (hclock : settings.clock = .fixed offset) {startMs endMs : ℕ}
    (hfound : findNextMeal settings now = some (sched, startMs, endMs)) :
    startMs < 18446744073709551616 := by
  have htoday := getOccurrenceMs_today hclock now sched.startTime
  have htomorrow := getOccurrenceMs_tomorrow hclock now sched.startTime
  rcases start_of_findNextMeal hfound with ⟨hvalue, -⟩ | ⟨hvalue, -⟩ <;> omega

/-- The time of the selected start: the first start, or one that has wrapped. -/
theorem start_cases_of_findNextMeal (hclock : settings.clock = .fixed offset)
    (hnow : now < 18446744073709551616) (hstart : IsTimeOfDay sched.startTime)
    {startMs endMs : ℕ} (hfound : findNextMeal settings now = some (sched, startMs, endMs)) :
    (0 ≤ todayMs offset now sched.startTime ∧ (startMs : ℤ) = firstStartMs offset now sched) ∨
      (todayMs offset now sched.startTime < 0 ∧
        (startMs : ℤ) = todayMs offset now sched.startTime + 18446744073709551616) ∨
      (18446744073709551616 ≤ firstStartMs offset now sched ∧
        (startMs : ℤ) = todayMs offset now sched.startTime + 86400000 -
          18446744073709551616) := by
  have htoday := getOccurrenceMs_today hclock now sched.startTime
  have htomorrow := getOccurrenceMs_tomorrow hclock now sched.startTime
  have hbounds := todayMs_bounds offset now hstart
  unfold firstStartMs
  rcases start_of_findNextMeal hfound with ⟨hvalue, hafter⟩ | ⟨hvalue, hpassed⟩
  · split <;> omega
  · split <;> omega

/-- Where the variables matter, two values of them give two ends. -/
theorem ConsistentLength.nextEndMs_eq (hconsistent : ConsistentLength settings now sched)
    {startMs endMs : ℕ} (hfound : findNextMeal settings now = some (sched, startMs, endMs))
    {startLocals endLocals startLocals' endLocals' : Hms} (hstart : startLocals.IsInt)
    (hend : endLocals.IsInt) (hstart' : startLocals'.IsInt) (hend' : endLocals'.IsInt) :
    nextEndMs (settings.withLocals startLocals endLocals) sched startMs =
      nextEndMs (settings.withLocals startLocals' endLocals') sched startMs := by
  obtain ⟨start, stop, hsame, -⟩ := hconsistent
  have hfirst := hsame startLocals endLocals hstart hend
  have hsecond := hsame startLocals' endLocals' hstart' hend'
  rw [findNextMeal_withLocals hfound] at hfirst hsecond
  have hmeal := hfirst.trans hsecond.symm
  simpa only [Option.some.injEq, Prod.mk.injEq, true_and] using hmeal

theorem nextEndMs_withLocals (hclock : settings.clock = .fixed offset) {startLocals endLocals : Hms}
    {starts ends : ℤ} (hstarts : (scanHms sched.startTime startLocals).seconds = starts)
    (hends : (scanHms sched.endTime endLocals).seconds = ends) (startMs : ℕ) :
    (nextEndMs (settings.withLocals startLocals endLocals) sched startMs : ℤ) =
      ((seconds startMs + (if ends < starts then 86400 else 0) + offset) / 86400 * 86400 + ends -
        offset) * 1000 % 18446744073709551616 := by
  have hclock' : (settings.withLocals startLocals endLocals).clock = .fixed offset := hclock
  rw [nextEndMs_emod hclock', Settings.withLocals_startLocals, Settings.withLocals_endLocals,
    hstarts, hends]

/-- The same time on the next day is another instant. -/
theorem end_ne_next_day (x ends offset : ℤ) :
    (x / 86400 * 86400 + ends - offset) * 1000 % 18446744073709551616 ≠
      ((x + 86400) / 86400 * 86400 + ends - offset) * 1000 % 18446744073709551616 := by
  rw [Int.add_ediv_of_dvd_right (dvd_refl _), Int.ediv_self (by decide)]
  generalize x / 86400 = day
  omega

theorem isInt_zero : Hms.IsInt ⟨0, 0, 0⟩ := by
  intro x hx
  simp only [List.mem_cons, List.not_mem_nil, or_false, or_self] at hx
  omega

theorem isInt_second {second : ℤ} (hlow : -2147483648 ≤ second) (hhigh : second < 2147483648) :
    Hms.IsInt ⟨0, 0, second⟩ := by
  intro x hx
  simp only [List.mem_cons, List.not_mem_nil, or_false] at hx
  omega

section

variable (hclock : settings.clock = .fixed offset) (hselected : Selects settings now sched)
  (hconsistent : ConsistentLength settings now sched)

include hclock hselected hconsistent

/-- An end time without seconds ends at the second that the variable holds. -/
theorem ConsistentLength.isClockText_endTime (hend : IsTimeText sched.endTime) :
    IsClockText sched.endTime := by
  obtain ⟨startMs, endMs, hfound⟩ := hselected
  rcases hend with ⟨m, hm, htext⟩ | hcomplete
  · have hone : Hms.IsInt ⟨0, 0, 1⟩ := isInt_second (by decide) (by decide)
    have hsame := hconsistent.nextEndMs_eq hfound isInt_zero isInt_zero isInt_zero hone
    have hends : (scanHms sched.endTime ⟨0, 0, 0⟩).seconds = m * 60 := by
      rw [htext]
      exact secondsOf_shortClockText hm
    have hends' : (scanHms sched.endTime ⟨0, 0, 1⟩).seconds = m * 60 + 1 := by
      rw [htext, seconds_scanHms_short hm]
    have hstarts : (scanHms sched.startTime ⟨0, 0, 0⟩).seconds = secondsOf sched.startTime := rfl
    have hat := nextEndMs_withLocals hclock hstarts hends startMs
    have hat' := nextEndMs_withLocals hclock hstarts hends' startMs
    rw [hsame] at hat
    split at hat <;> split at hat' <;> omega
  · exact hcomplete

/-- A start time without seconds decides by the variable whether the meal ends on the next
day. -/
theorem ConsistentLength.isClockText_startTime (hstart : IsTimeText sched.startTime)
    (hend : IsClockText sched.endTime) : IsClockText sched.startTime := by
  obtain ⟨startMs, endMs, hfound⟩ := hselected
  rcases hstart with ⟨m, hm, htext⟩ | hcomplete
  · have hearly : Hms.IsInt ⟨0, 0, -100000⟩ := isInt_second (by decide) (by decide)
    have hlate : Hms.IsInt ⟨0, 0, 100000⟩ := isInt_second (by decide) (by decide)
    have hsame := hconsistent.nextEndMs_eq hfound hearly isInt_zero hlate isInt_zero
    obtain ⟨hends, hnonneg, hlt⟩ := seconds_scanHms hend ⟨0, 0, 0⟩
    have hstarts : (scanHms sched.startTime ⟨0, 0, -100000⟩).seconds = m * 60 + -100000 := by
      rw [htext, seconds_scanHms_short hm]
    have hstarts' : (scanHms sched.startTime ⟨0, 0, 100000⟩).seconds = m * 60 + 100000 := by
      rw [htext, seconds_scanHms_short hm]
    have hat := nextEndMs_withLocals hclock hstarts hends startMs
    have hat' := nextEndMs_withLocals hclock hstarts' hends startMs
    rw [hsame, if_neg (by omega), add_zero] at hat
    rw [if_pos (by omega), add_right_comm] at hat'
    exact absurd (hat.symm.trans hat') (end_ne_next_day _ _ _)
  · exact hcomplete

omit hselected in
/-- The length of a meal whose start or end has wrapped is not that of the window. -/
theorem ConsistentLength.mealInRange (hnow : now < 18446744073709551616)
    (hstart : IsClockText sched.startTime) (hend : IsClockText sched.endTime) :
    MealInRange offset now sched := by
  obtain ⟨start, stop, hsame, hlength⟩ := hconsistent
  have hfound := hsame ⟨0, 0, 0⟩ ⟨0, 0, 0⟩ isInt_zero isInt_zero
  have hclock' : (settings.withLocals ⟨0, 0, 0⟩ ⟨0, 0, 0⟩).clock = .fixed offset := hclock
  obtain ⟨hstarts, hstartNonneg, hstartLt⟩ := seconds_scanHms hstart ⟨0, 0, 0⟩
  obtain ⟨hends, hendNonneg, hendLt⟩ := seconds_scanHms hend ⟨0, 0, 0⟩
  have hstop := nextEndMs_withLocals hclock hstarts hends start
  rw [← end_of_findNextMeal hfound, seconds, Int.natCast_ediv] at hstop
  have hbelow := start_lt_of_findNextMeal hclock' hfound
  have htime : todayMs offset now sched.startTime =
      ((seconds now + offset) / 86400 * 86400 + secondsOf sched.startTime - offset) * 1000 := rfl
  have hday : (seconds now + offset) / 86400 * 86400 + secondsOf sched.startTime - offset + offset =
      86400 * ((seconds now + offset) / 86400) + secondsOf sched.startTime := by ring
  rw [getToleranceWindowMinutes_eq hstart.isTimeOfDay hend.isTimeOfDay] at hlength
  rcases start_cases_of_findNextMeal hclock' hnow hstart.isTimeOfDay hfound with
    ⟨hnonneg, hvalue⟩ | ⟨hneg, hvalue⟩ | ⟨hlate, hvalue⟩
  · refine ⟨hnonneg, ?_⟩
    have hshows := shows_firstStartMs offset now hstart.isTimeOfDay
    rw [← hvalue] at hshows ⊢
    have hend' := nextEndMs_eq_emod hclock' ⟨hstart, hend⟩ (shows_natCast_iff.mp hshows)
    rw [← end_of_findNextMeal hfound] at hend'
    have hshort := lengthMs_lt sched
    have hminutes : 0 ≤ ((stop : ℤ) - start) / 60000 := by
      rw [← hlength]
      omega
    clear hstop hlength
    have hle : (start : ℤ) ≤ stop := by omega
    omega
  · -- the start wraps to 616 milliseconds after a full second
    rw [hstop] at hlength
    refine absurd hlength (length_of_shifted_ne 213503982334 51951 616 ?_ (by decide) hday
      ⟨hstartNonneg, hstartLt⟩ ⟨hendNonneg, hendLt⟩ (by decide) (by omega))
    omega
  · -- and to 384 milliseconds after one
    rw [hstop] at hlength
    refine absurd hlength (length_of_shifted_ne (-213503982334) 34448 384 ?_ (by decide) hday
      ⟨hstartNonneg, hstartLt⟩ ⟨hendNonneg, hendLt⟩ (by decide) (by omega))
    omega

end

/-- A meal with complete times and in range: nothing is left to the variables. -/
theorem consistentLength_of_mealInRange (hclock : settings.clock = .fixed offset)
    (hnow : now < 18446744073709551616) (hselected : Selects settings now sched)
    (hstart : IsClockText sched.startTime) (hend : IsClockText sched.endTime)
    (hrange : MealInRange offset now sched) : ConsistentLength settings now sched := by
  obtain ⟨startMs, endMs, hfound⟩ := hselected
  obtain ⟨hnonneg, hbelow⟩ := hrange
  have hvalue : (startMs : ℤ) = firstStartMs offset now sched := by
    rcases start_cases_of_findNextMeal hclock hnow hstart.isTimeOfDay hfound with
      ⟨-, hvalue⟩ | ⟨hneg, -⟩ | ⟨hlate, -⟩
    · exact hvalue
    · omega
    · omega
  have hshows := shows_firstStartMs offset now hstart.isTimeOfDay
  rw [← hvalue] at hshows hbelow
  refine ⟨startMs, startMs + sched.lengthMs, fun startLocals endLocals _ _ => ?_, ?_⟩
  · have hclock' : (settings.withLocals startLocals endLocals).clock = .fixed offset := hclock
    have hend' := nextEndMs_eq_emod hclock' ⟨hstart, hend⟩ (shows_natCast_iff.mp hshows)
    have hstop : nextEndMs (settings.withLocals startLocals endLocals) sched startMs =
        startMs + sched.lengthMs := by omega
    rw [findNextMeal_withLocals hfound, hstop]
  · rw [getToleranceWindowMinutes_eq hstart.isTimeOfDay hend.isTimeOfDay]
    push_cast
    rw [add_sub_cancel_left, lengthMs_cast]
    omega

/-- **The length of the next meal** is that of its tolerance window, and does not depend on
the variables, exactly if both times have seconds and the meal is in range. -/
theorem consistentLength_iff_complete (hclock : settings.clock = .fixed offset)
    (hnow : now < 18446744073709551616) (hselected : Selects settings now sched)
    (hstart : IsTimeText sched.startTime) (hend : IsTimeText sched.endTime) :
    ConsistentLength settings now sched ↔
      (IsClockText sched.startTime ∧ IsClockText sched.endTime) ∧
        MealInRange offset now sched := by
  constructor
  · intro hconsistent
    have hend' := hconsistent.isClockText_endTime hclock hselected hend
    have hstart' := hconsistent.isClockText_startTime hclock hselected hstart hend'
    exact ⟨⟨hstart', hend'⟩, hconsistent.mealInRange hclock hnow hstart' hend'⟩
  · rintro ⟨⟨hstart', hend'⟩, hrange⟩
    exact consistentLength_of_mealInRange hclock hnow hselected hstart' hend' hrange

end

/-! ### With seconds, and without -/

theorem isClockText_lateSupper :
    IsClockText lateSupper.startTime ∧ IsClockText lateSupper.endTime :=
  wellFormed_twoMealsAt 0 lateSupper (by simp [twoMealsAt])

/-- A supper of a day in June 2026, from the evening to a quarter past midnight. -/
theorem consistentLength_lateSupper :
    ConsistentLength (twoMealsAt 19800) 1780921800000 lateSupper := by
  have hclock : (twoMealsAt 19800).clock = .fixed 19800 := rfl
  obtain ⟨hstart, hend⟩ := isClockText_lateSupper
  have hselected : Selects (twoMealsAt 19800) 1780921800000 lateSupper :=
    ⟨1780923600000, 1780944300000, by decide +kernel⟩
  have hrange : MealInRange 19800 1780921800000 lateSupper := by
    unfold MealInRange
    decide +kernel
  exact (consistentLength_iff_complete hclock (by decide) hselected (Or.inr hstart)
    (Or.inr hend)).mpr ⟨⟨hstart, hend⟩, hrange⟩

def snack : MealSchedule := ⟨"12:00", "12:30", "M3", "bowl_2"⟩

def snackAt (offset : ℤ) : Settings :=
  ⟨"base", "dog", [snack], "24h", .fixed offset, ⟨0, 0, 0⟩, ⟨0, 0, 0⟩⟩

/-- The end of a meal whose end time has no seconds depends on the variable for them. -/
theorem not_consistentLength_snack : (IsTimeText snack.startTime ∧ IsTimeText snack.endTime) ∧
    Selects (snackAt 19800) 1780880400000 snack ∧
    ¬ ConsistentLength (snackAt 19800) 1780880400000 snack := by
  refine ⟨⟨Or.inl ⟨720, by decide, by decide +kernel⟩, Or.inl ⟨750, by decide, by decide +kernel⟩⟩,
    ⟨1780900200000, 1780902000000, by decide +kernel⟩, ?_⟩
  rintro ⟨startMs, endMs, hsame, -⟩
  have hzero := hsame ⟨0, 0, 0⟩ ⟨0, 0, 0⟩ isInt_zero isInt_zero
  have hother := hsame ⟨0, 0, 0⟩ ⟨0, 0, 37⟩ isInt_zero (isInt_second (by decide) (by decide))
  exact absurd (hzero.trans hother.symm) (by decide +kernel)

end OroEdge.Wellbeing
