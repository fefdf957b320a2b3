import OroEdge.Jobs.ConfigReminders
import OroEdge.Lib.Layout
import OroEdge.Lib.Months

/-!
# Monthly and quarterly schedules

A schedule of the configuration with the recurrence `monthly` or `quarterly` is
dispatched on the days that have the day number of its `due_date`; for a quarterly
one, in the months whose distance from the month of the `due_date` is a multiple of
three (`dispatched_onDayOf`).  A month that is too short has no such day, and the
schedule is skipped in it.

The configuration has one schedule, so a run of mode 1 tries at most one reminder, and whether
it does is a question of the day and of the minute.  The day is decided by two rules of the
source, one for the recurrence and one for the exact `due_date`; the second adds nothing, since
the due date is one of the days of the first (`Recurring.dayMatches_eq`).  The minute comes once
a day (`exists_mem_ne_nil`).

The property asks for one day in every month or quarter from the due date on.  All months have a
day with a number of at most 28, and some month lacks any greater one.  The months of a
quarterly schedule are four, and those that do not fall on February may all have 30 days; so the
exact condition is one on the day number and, for a quarterly schedule, on the month
(`dispatched_everyMonths_iff`).
-/

namespace OroEdge.Jobs

open OroEdge.Lib OroEdge.Scheduler

/-- The calls of `stm_care_insert_notification` that mode 1 makes in a run. -/
def configInserts (config : Json) (clock : ReminderClock) : List Reminder :=
  match config.valueAt Json.asString ["global", "device_id"] "", reminderDefaults config with
  | some deviceId, some defaults =>
      if deviceId = "" then [] else (configReminders config deviceId defaults clock.process).1
  | _, _ => []

/-- In one of the runs a schedule of the configuration is due. -/
def Dispatched (config : Json) (clocks : List ReminderClock) : Prop :=
  ∃ clock ∈ clocks, configInserts config clock ≠ []

/-- The only schedule of the configuration is `s`; it recurs every `step` months, and its
`due_date` is read as the date `due`. -/
structure Recurring (config : Json) (s : ConfigSchedule) (step : ℤ) (due : Date) : Prop where
  alone : ∃ deviceId defaults schedule, ReminderReads config deviceId defaults ∧
    careSchedules config = [schedule] ∧ ConfigSchedule.read defaults schedule = some s
  wellFormed : s.WellFormed
  period : s.recurrence = "monthly" ∧ step = 1 ∨ s.recurrence = "quarterly" ∧ step = 3
  scanned : scanTriple '-' s.dueDate = [due.year, due.month, due.day]
  valid : due.Valid

variable {config : Json} {s : ConfigSchedule} {step day : ℤ} {due : Date}

/-! ## The text of a date -/

/-- Month and day are read back from the text of a date. -/
theorem scanTriple_iso {date : Date} (hdate : date.Valid) :
    ∃ year, scanTriple '-' date.iso = [year, date.month, date.day] := by
  have hmonthPos := hdate.month_pos
  have hmonthLe := hdate.month_le
  have hdayPos := hdate.day_pos
  have hdayLe := hdate.day_le.trans (monthLength_le _ _)
  have hiso : date.iso.toList = (padded 4 date.year).toList ++ '-' ::
      ((padded 2 date.month).toList ++ '-' :: (padded 2 date.day).toList) := by
    simp [Date.iso]
  have hsep : '-'.isDigit = false := rfl
  refine ⟨Directive.stored (Directive.digitsValue (padded 4 date.year).toList), ?_⟩
  -- the year may have more digits than an int holds
  rw [scanTriple, hiso, Directive.scan, Directive.scanInt_append (toList_padded_ne_nil 4 _)
    (fun c hc => isDigit_of_mem_padded hc) (Directive.isDigit_head_cons hsep _)]
  simp only [Directive.scan_literal]
  rw [Directive.scan_padded_literal (by omega) (by omega) hsep,
    Directive.scan_padded_end (by omega) (by omega), Directive.scan]

/-! ## The days on which the schedule is dispatched -/

theorem configInserts_of_reads {deviceId : String} {defaults : ReminderDefaults}
    (hreads : ReminderReads config deviceId defaults) (clock : ReminderClock) :
    configInserts config clock = (configReminders config deviceId defaults clock.process).1 := by
  simp only [configInserts, hreads.device, hreads.jobDefaults, if_neg hreads.nonempty]

/-- The branch on the recurrence. -/
theorem Recurring.recurs_iff (hs : Recurring config s step due) (schedule : Json) (day : ℤ) :
    s.recurs schedule day = some true ↔
      (civilDate day).day = due.day ∧ step ∣ (civilDate day).month - due.month := by
  have hdate : s.dueDate ≠ "" := by
    intro hempty
    have hscan := hs.scanned
    rw [hempty, show scanTriple '-' "" = [] by decide] at hscan
    cases hscan
  have hmeets : ∀ cond : Date → Bool, s.dueDateMeets cond = cond due := by
    intro cond
    unfold ConfigSchedule.dueDateMeets
    rw [hs.scanned]
    simp [hdate]
  unfold ConfigSchedule.recurs
  rcases hs.period with ⟨hmonthly, rfl⟩ | ⟨hquarterly, rfl⟩
  · rw [hmonthly, if_neg (by decide), if_neg (by decide), if_pos rfl, hmeets, Option.some.injEq,
      decide_eq_true_iff]
    exact (and_iff_left (one_dvd _)).symm
  · rw [hquarterly, if_neg (by decide), if_neg (by decide), if_neg (by decide), if_pos rfl, hmeets,
      Option.some.injEq, Bool.and_eq_true, decide_eq_true_iff, decide_eq_true_iff,
      Int.dvd_iff_emod_eq_zero]

/-- The rule for the exact due date adds no day. -/
theorem Recurring.dayMatches_eq (hs : Recurring config s step due) (schedule : Json) (day : ℤ) :
    s.dayMatches schedule day = s.recurs schedule day := by
  have hexact : s.dueDate = (civilDate day).iso → s.recurs schedule day = some true := by
    intro htext
    obtain ⟨year, hscan⟩ := scanTriple_iso (civilDate_valid day)
    rw [← htext, hs.scanned] at hscan
    rw [hs.recurs_iff]
    simp only [List.cons.injEq, and_true] at hscan
    rw [hscan.2.1, hscan.2.2]
    simp
  unfold ConfigSchedule.dayMatches
  by_cases htext : s.dueDate = (civilDate day).iso
  · rw [hexact htext]
    rfl
  · simp [htext]

theorem matching_singleton {defaults : ReminderDefaults} {schedule : Json}
    (hread : ConfigSchedule.read defaults schedule = some s) (day : ℤ) :
    matching defaults day [schedule] ≠ [] ↔ s.dayMatches schedule day = some true := by
  unfold matching matchOn
  by_cases hday : s.dayMatches schedule day = some true
  · simp [hread, hday]
  · simp [hread, hday]

theorem Recurring.readable (hs : Recurring config s step due) {defaults : ReminderDefaults}
    {schedule : Json} (halone : careSchedules config = [schedule])
    (hread : ConfigSchedule.read defaults schedule = some s) :
    ∀ other ∈ careSchedules config, Readable defaults other := by
  intro other hother
  rw [halone, List.mem_singleton] at hother
  rw [hother]
  refine ⟨s, hread, hs.wellFormed, fun hweekly => ?_⟩
  rcases hs.period with ⟨hperiod, -⟩ | ⟨hperiod, -⟩ <;>
    exact absurd (hweekly.symm.trans hperiod) (by decide)

theorem exists_mem_ne_nil {α β : Type} (f : α → List β) (l : List α) :
    (∃ a ∈ l, f a ≠ []) ↔ l.flatMap f ≠ [] := by
  simp [List.flatMap_eq_nil_iff]

/-- **The schedule is dispatched on the days that have the day number of its `due_date`,
in every month or in every third one.** -/
theorem Recurring.dispatched_onDayOf (hs : Recurring config s step due)
    {runs : ℤ → List ReminderClock} (hruns : ∀ day, OncePerMinute day (runs day)) :
    OnDayOf step due fun day => Dispatched config (runs day) := by
  intro day
  obtain ⟨deviceId, defaults, schedule, hreads, halone, hread⟩ := hs.alone
  have hreadable := hs.readable halone hread
  have hinserts : ∀ clock ∈ runs day,
      configInserts config clock = requests config deviceId defaults day clock.process := by
    intro clock hclock
    rw [configInserts_of_reads hreads,
      configReminders_of_readable hreadable ((hruns day).dayOf_eq clock hclock)]
    rfl
  have hperm := requests_perm deviceId (hruns day) hreadable
  rw [← hs.recurs_iff schedule day, ← hs.dayMatches_eq schedule day,
    ← matching_singleton hread day, ← halone]
  have hdispatched : Dispatched config (runs day) ↔
      ∃ clock ∈ runs day, requests config deviceId defaults day clock.process ≠ [] :=
    exists_congr fun clock => and_congr_right fun hclock => by rw [hinserts clock hclock]
  refine hdispatched.trans ?_
  rw [exists_mem_ne_nil, not_iff_not, ← List.length_eq_zero_iff, hperm.length_eq,
    List.length_map, List.length_eq_zero_iff]

/-- Dispatched on a day whose key is not stored yet, the schedule gets one notification. -/
theorem Recurring.titles_eq (hs : Recurring config s step due) {db : CareDb}
    {clocks : List ReminderClock} (hruns : OncePerMinute day clocks)
    (huser : ∃ u ∈ db.users,
      u.deviceId = config.valueAt Json.asString ["global", "device_id"] "")
    (hday : (civilDate day).day = due.day ∧ step ∣ (civilDate day).month - due.month)
    (hnew : configRemindKey s.careType (dateKey day) ∉ db.dedupeKeys) :
    (((run (dispatchStep config) db clocks).notifications.drop db.notifications.length).filter
      fromConfig).map Notification.title = [s.title] := by
  obtain ⟨deviceId, defaults, schedule, hreads, halone, hread⟩ := hs.alone
  have hmatching : matching defaults day (careSchedules config) = [s] := by
    rw [← hs.recurs_iff schedule day, ← hs.dayMatches_eq schedule day] at hday
    simp [halone, matching, matchOn, hread, hday]
  rw [hreads.device] at huser
  obtain ⟨tried, hperm, htitles⟩ :=
    titles_eq_admitted hreads (hs.readable halone hread) huser hruns
  rw [hmatching, List.map_singleton, List.perm_singleton] at hperm
  have hkey : (s.reminder deviceId day).dedupeKey ∉ db.dedupeKeys := hnew
  rw [htitles, hperm, admitted, if_neg hkey]
  rfl

/-! ## The law -/

/-- **A monthly schedule is dispatched on exactly one day of every month, and a quarterly one
of every third month, exactly when the day of its `due_date` occurs in all of them.** -/
theorem dispatched_everyMonths_iff (hs : Recurring config s step due)
    {runs : ℤ → List ReminderClock} (hruns : ∀ day, OncePerMinute day (runs day)) :
    (EveryMonths step due fun day => Dispatched config (runs day)) ↔
      due.day ≤ 28 ∨ step = 3 ∧ due.month % 3 ≠ 2 ∧ due.day ≤ 30 := by
  have hdays := hs.dispatched_onDayOf hruns
  rcases hs.period with ⟨-, rfl⟩ | ⟨-, rfl⟩
  · rw [everyMonths_one_iff hs.valid hdays]
    omega
  · rw [everyMonths_three_iff hs.valid hdays]
    omega

/-! ## A schedule of each kind -/

/-- The configuration of one schedule at 17:08. -/
def vaccinationConfig (recurrence dueDate : String) : Json :=
  .obj [("global", .obj [("device_id", .str "d")]),
    ("scheduled_task_manager", .obj [("care_schedules", .arr
      [.obj [("care_type", .str "vaccination"), ("title", .str "Vaccination Check"),
        ("due_time", .str "17:08:00"), ("due_date", .str dueDate),
        ("recurrence", .str recurrence)]])])]

/-- A care schedule that is due at eight minutes past five in the afternoon. -/
def vaccination (recurrence dueDate : String) : ConfigSchedule where
  careType := "vaccination"
  title := "Vaccination Check"
  recurrence := recurrence
  dueTime := "17:08:00"
  dueDate := dueDate
  priority := "medium"
  triggerMode := "scheduled"

theorem recurring_vaccination {recurrence dueDate : String}
    (hperiod : recurrence = "monthly" ∧ step = 1 ∨ recurrence = "quarterly" ∧ step = 3)
    (hscan : scanTriple '-' dueDate = [due.year, due.month, due.day]) (hvalid : due.Valid) :
    Recurring (vaccinationConfig recurrence dueDate) (vaccination recurrence dueDate) step due where
  alone := ⟨"d", ⟨"medium", "scheduled"⟩, _, ⟨rfl, by decide, rfl⟩, rfl, rfl⟩
  wellFormed := ⟨17, 8, ConfigSchedule.dueClock_of_scan
    (show scanTriple ':' "17:08:00" = [17, 8, 0] by decide), by decide⟩
  period := hperiod
  scanned := hscan
  valid := hvalid

/-- Runs half a minute after each full minute of the day. -/
def runsOfDay (day : ℤ) : List ReminderClock :=
  (List.range 1440).map fun m : ℕ =>
    let wall := (day * 1440 + m) * minuteMicros + 30 * secondMicros
    ⟨wall, ⟨Zone.fixed 0, wall⟩, fun _ => 0, ""⟩

theorem oncePerMinute_runsOfDay (day : ℤ) : OncePerMinute day (runsOfDay day) := by
  unfold OncePerMinute runsOfDay
  rw [List.map_map]
  refine List.map_congr_left fun m _ => ?_
  simp only [Function.comp_def]
  unfold minuteMicros secondMicros
  omega

/-- The eighth of June 2026, and every month from then on. -/
theorem dispatched_everyMonths_june :
    EveryMonths 1 ⟨2026, 6, 8⟩ fun day =>
      Dispatched (vaccinationConfig "monthly" "2026-06-08") (runsOfDay day) :=
  (dispatched_everyMonths_iff (recurring_vaccination (Or.inl ⟨rfl, rfl⟩) (by decide) (by decide))
    oncePerMinute_runsOfDay).mpr (Or.inl (by decide))

/-- A schedule that is due on the last day of January is skipped in February. -/
theorem not_dispatched_everyMonths_january :
    ¬ EveryMonths 1 ⟨2026, 1, 31⟩ fun day =>
      Dispatched (vaccinationConfig "monthly" "2026-01-31") (runsOfDay day) := by
  have hs : Recurring (vaccinationConfig "monthly" "2026-01-31")
      (vaccination "monthly" "2026-01-31") 1 ⟨2026, 1, 31⟩ :=
    recurring_vaccination (Or.inl ⟨rfl, rfl⟩) (by decide) (by decide)
  rw [everyMonths_one_iff hs.valid (hs.dispatched_onDayOf oncePerMinute_runsOfDay)]
  decide

end OroEdge.Jobs
