import OroEdge.Jobs.Reminder

/-!
# Which daily schedules are picked up

`care_reminder_dispatch` runs about once a minute, and its query takes the daily
schedules whose time lies in the minute before `CURRENT_TIME`.  The minute is
computed on the clock of the day: in the first minute after midnight its lower end
wraps to the evening, and the window is empty.  So a run looks back over a whole
minute only from `00:01:00` on:

```text
 00:00:00      00:00:59.999999                      23:59:00      24:00:00
    |  s is missed  |  s is picked up by any runs      |  s is missed |
```

A schedule of the last minute of the day can be passed over by a run just before it
and one just after midnight.

A schedule is picked up by every sequence of runs, or there is a sequence that passes it over;
so one direction is about all sequences, and the other about one for each schedule that is
missed.  For the first, runs at most a minute apart that pass over the day leave no whole minute
without a run, and the run in the minute after the schedule's time selects it
(`pickedUp_of_inner`).  For the second, runs exactly a minute apart are started at different
seconds: a schedule that is picked up is in the window of some run of each such grid
(`PickedUp.exists_minute`), and near midnight there is a grid that leaves it out.
-/

namespace OroEdge.Jobs

open OroEdge.Lib

/-! ## The window of one run -/

/-- The window of a run is a whole minute, or empty. -/
theorem dueNow_iff {session : Session} {s : TimeOfDay} :
    dueNow session (some s) ↔ minuteMicros ≤ session.currentTime.micros ∧
      s.micros ≤ session.currentTime.micros ∧
      session.currentTime.micros ≤ s.micros + minuteMicros := by
  have hday := TimeOfDay.ofWall_lt_day session.wall
  have hminute : 0 < minuteMicros ∧ minuteMicros < dayMicros := by decide
  change session.currentTime.micros < dayMicros at hday
  rcases lt_or_ge session.currentTime.micros minuteMicros with hlt | hge
  · simp only [dueNow, TimeOfDay.Between, Option.mem_some_iff, forall_eq',
      TimeOfDay.sub_micros_of_lt hlt hminute.2.le]
    omega
  · simp only [dueNow, TimeOfDay.Between, Option.mem_some_iff, forall_eq',
      TimeOfDay.sub_micros_of_le hminute.1.le hge hday]
    omega

/-! ## The runs of a day -/

/-- One run of the job. -/
structure DispatchRun where
  config : Json
  clock : ReminderClock
  db : CareDb

namespace DispatchRun

/-- The local clock of the session. -/
def wall (r : DispatchRun) : ℤ := r.clock.session.wall

/-- The query of the run returns the schedule. -/
def Selects (c : CareSchedule) (r : DispatchRun) : Prop :=
  c ∈ (careReminderDispatch r.config r.clock r.db).fetched

/-- The run comes to its query, for the device and in the zone. -/
structure Queries (zone : Zone) (deviceId : String) (r : DispatchRun) : Prop where
  inZone : r.clock.session.zone = zone
  finishes : ∃ defaults, ReminderReads r.config deviceId defaults ∧
    (configReminders r.config deviceId defaults r.clock.process).2 = true

end DispatchRun

/-- An active daily schedule of the device that is not completed on the day. -/
structure DailyPending (zone : Zone) (deviceId : String) (day : ℤ) (c : CareSchedule) : Prop where
  device : c.deviceId = deviceId
  active : c.isActive = true
  daily : c.recurrenceType = some "daily"
  notCompleted : ∀ instant ∈ c.lastCompletedAt, dayOf (zone.toLocal instant) < day

/-- The tables hold the schedule, and no reminder of the day for it. -/
structure Pending (day : ℤ) (c : CareSchedule) (db : CareDb) : Prop where
  stored : c ∈ db.careSchedules
  notNotified : careRemindKey c.careScheduleId (dateKey day) ∉ db.dedupeKeys

/-- Runs that pass over the whole day, at most 60 seconds apart. -/
def PassesOverDay (day : ℤ) (runs : List DispatchRun) : Prop :=
  Covers minuteMicros (day * dayMicros) ((day + 1) * dayMicros) (runs.map DispatchRun.wall)

/-- Whatever the runs that cover the day, one of the day selects the schedule. -/
def PickedUp (zone : Zone) (deviceId : String) (day : ℤ) (c : CareSchedule) : Prop :=
  ∀ runs, PassesOverDay day runs → (∀ r ∈ runs, r.Queries zone deviceId ∧ Pending day c r.db) →
    ∃ r ∈ runs, dayOf r.wall = day ∧ r.Selects c

variable {zone : Zone} {deviceId : String} {day : ℤ} {c : CareSchedule} {s : TimeOfDay}

/-- A run of the day selects the schedule exactly when its time is in the window. -/
theorem selects_iff {r : DispatchRun} (hc : DailyPending zone deviceId day c)
    (htime : c.scheduledTime = some s) (hqueries : r.Queries zone deviceId)
    (hpending : Pending day c r.db) (hday : dayOf r.wall = day) :
    r.Selects c ↔ minuteMicros ≤ r.wall - day * dayMicros ∧
      s.micros ≤ r.wall - day * dayMicros ∧
      r.wall - day * dayMicros ≤ s.micros + minuteMicros := by
  obtain ⟨rfl, defaults, hreads, hfinished⟩ := hqueries
  subst hday
  have hmicros : r.clock.session.currentTime.micros = _ := TimeOfDay.ofWall_micros r.wall
  rw [← hmicros, ← dueNow_iff, ← htime]
  unfold DispatchRun.Selects
  rw [fetched_of_finished hreads hfinished, fetchDueSchedules, List.mem_filter,
    decide_eq_true_iff]
  constructor
  · rintro ⟨-, -, -, hdue, -⟩
    exact hdue
  · intro hdue
    exact ⟨hpending.stored, hc.active, hc.device, hdue, Or.inr (Or.inl hc.daily),
      hc.notCompleted, hpending.notNotified⟩

/-- From the end of the first minute to the start of the last one, some run of any
that cover the day is in time. -/
theorem pickedUp_of_inner (hc : DailyPending zone deviceId day c)
    (htime : c.scheduledTime = some s) (hlow : minuteMicros - 1 ≤ s.micros)
    (hhigh : s.micros ≤ dayMicros - minuteMicros) : PickedUp zone deviceId day c := by
  intro runs hcovers hruns
  unfold minuteMicros at hlow
  unfold minuteMicros dayMicros at hhigh
  -- a time in the first minute is picked up only by a run after 00:01:00, hence the maximum
  have hwindow : ∃ t ∈ runs.map DispatchRun.wall,
      day * dayMicros + max s.micros minuteMicros ≤ t ∧
        t < day * dayMicros + max s.micros minuteMicros + minuteMicros :=
    hcovers.exists_mem (by decide) (by unfold minuteMicros; omega)
      (by unfold minuteMicros dayMicros; omega)
  obtain ⟨t, ht, hfrom, huntil⟩ := hwindow
  obtain ⟨r, hr, rfl⟩ := List.mem_map.mp ht
  have hday : dayOf r.wall = day := by
    unfold minuteMicros dayMicros at hfrom huntil
    unfold dayOf dayMicros
    omega
  obtain ⟨hqueries, hpending⟩ := hruns r hr
  refine ⟨r, hr, hday, (selects_iff hc htime hqueries hpending hday).mpr ?_⟩
  unfold minuteMicros dayMicros at hfrom huntil
  unfold minuteMicros dayMicros
  omega

/-! ## Runs that miss a schedule -/

/-- The tables with one schedule. -/
def singleDb (c : CareSchedule) : CareDb :=
  { feedingSchedules := []
    careSchedules := [c]
    dogs := []
    users := []
    notifications := []
    events := []
    feeding_nodup := List.nodup_nil
    care_nodup := by simp }

theorem pending_singleDb : Pending day c (singleDb c) :=
  ⟨List.mem_singleton_self _, List.not_mem_nil⟩

/-- A run for the device with no schedules in its configuration. -/
def plainRun (zone : Zone) (deviceId : String) (c : CareSchedule) (wall : ℤ) : DispatchRun :=
  { config := .obj [("global", .obj [("device_id", .str deviceId)])]
    clock := ⟨wall, ⟨zone, wall⟩, fun _ => dayOf wall, ""⟩
    db := singleDb c }

theorem queries_plainRun (hdevice : deviceId ≠ "") (wall : ℤ) :
    (plainRun zone deviceId c wall).Queries zone deviceId :=
  ⟨rfl, ⟨"medium", "scheduled"⟩, ⟨rfl, hdevice, rfl⟩, rfl⟩

/-- Runs exactly a minute apart, from `start` on. -/
def minuteRuns (zone : Zone) (deviceId : String) (c : CareSchedule) (start : ℤ) :
    List DispatchRun :=
  (grid minuteMicros start 1441).map (plainRun zone deviceId c)

theorem map_wall_minuteRuns (start : ℤ) :
    (minuteRuns zone deviceId c start).map DispatchRun.wall = grid minuteMicros start 1441 := by
  simp [minuteRuns, Function.comp_def, plainRun, DispatchRun.wall]

theorem passesOverDay_minuteRuns {start : ℤ} (hlow : start ≤ day * dayMicros)
    (hhigh : day * dayMicros - minuteMicros ≤ start) :
    PassesOverDay day (minuteRuns zone deviceId c start) := by
  unfold PassesOverDay
  rw [map_wall_minuteRuns]
  unfold minuteMicros at hhigh ⊢
  unfold dayMicros at hlow hhigh ⊢
  exact covers_grid (by decide) hlow (by push_cast; omega)

/-- Picked up, the schedule is in the window of a run of every grid of minutes. -/
theorem PickedUp.exists_minute (hpicked : PickedUp zone deviceId day c)
    (hdevice : deviceId ≠ "") (hc : DailyPending zone deviceId day c)
    (htime : c.scheduledTime = some s) (start : ℤ) (hlow : start ≤ day * dayMicros)
    (hhigh : day * dayMicros - minuteMicros ≤ start) :
    ∃ t ∈ grid minuteMicros start 1441, t < (day + 1) * dayMicros ∧
      minuteMicros ≤ t - day * dayMicros ∧ s.micros ≤ t - day * dayMicros ∧
      t - day * dayMicros ≤ s.micros + minuteMicros := by
  have hruns : ∀ r ∈ minuteRuns zone deviceId c start,
      r.Queries zone deviceId ∧ Pending day c r.db := by
    intro r hr
    obtain ⟨wall, -, rfl⟩ := List.mem_map.mp hr
    exact ⟨queries_plainRun hdevice wall, pending_singleDb⟩
  obtain ⟨r, hr, hday, hselects⟩ := hpicked _ (passesOverDay_minuteRuns hlow hhigh) hruns
  have hmem : r.wall ∈ (minuteRuns zone deviceId c start).map DispatchRun.wall :=
    List.mem_map_of_mem hr
  rw [map_wall_minuteRuns] at hmem
  obtain ⟨hqueries, hpending⟩ := hruns r hr
  refine ⟨r.wall, hmem, ?_, (selects_iff hc htime hqueries hpending hday).mp hselects⟩
  unfold dayOf dayMicros at hday
  unfold dayMicros
  omega

/-- **Every sequence of runs picks a daily schedule up exactly when its time is
neither in the first minute of the day nor in the last.** -/
theorem pickedUp_iff (hdevice : deviceId ≠ "") (hc : DailyPending zone deviceId day c)
    (htime : c.scheduledTime = some s) :
    PickedUp zone deviceId day c ↔
      minuteMicros - 1 ≤ s.micros ∧ s.micros ≤ dayMicros - minuteMicros := by
  constructor
  · intro hpicked
    constructor
    · -- runs one microsecond before each full minute: the first window ends just before 00:02:00
      obtain ⟨t, ht, -, hminute, -, hwindow⟩ := hpicked.exists_minute hdevice hc htime
        (day * dayMicros - 1) (by omega) (by unfold minuteMicros; omega)
      obtain ⟨i, -, rfl⟩ := mem_grid_iff.mp ht
      unfold minuteMicros at hminute hwindow ⊢
      omega
    · -- runs at each full minute: the last one of the day is at 23:59:00
      obtain ⟨t, ht, hday, -, hpassed, -⟩ := hpicked.exists_minute hdevice hc htime
        (day * dayMicros) le_rfl (by unfold minuteMicros; omega)
      obtain ⟨i, -, rfl⟩ := mem_grid_iff.mp ht
      unfold minuteMicros dayMicros at *
      omega
  · rintro ⟨hlow, hhigh⟩
    exact pickedUp_of_inner hc htime hlow hhigh

/-! ## A schedule of each kind -/

/-- A daily walk at a time of day. -/
def dailyWalk (time : TimeOfDay) : CareSchedule :=
  { deviceId := "d"
    dogId := "rex"
    scheduledTime := some time
    isActive := true
    createdByUserId := none
    careScheduleId := "c"
    careType := some "walk"
    title := some "Walk"
    description := none
    recurrenceType := some "daily"
    recurrenceDays := none
    dueDate := none
    startDate := none
    lastCompletedAt := none }

theorem dailyPending_dailyWalk (time : TimeOfDay) :
    DailyPending (Zone.fixed 0) "d" 0 (dailyWalk time) :=
  ⟨rfl, rfl, rfl, fun _ h => nomatch h⟩

theorem pickedUp_at_eight :
    PickedUp (Zone.fixed 0) "d" 0 (dailyWalk ⟨8 * hourMicros, by decide, by decide⟩) :=
  (pickedUp_iff (by decide) (dailyPending_dailyWalk _) rfl).mpr (by decide)

/-- Runs at 23:59:00 and 24:00:00 pass over a walk at 23:59:30. -/
theorem not_pickedUp_last_minute :
    ¬PickedUp (Zone.fixed 0) "d" 0
      (dailyWalk ⟨dayMicros - 30 * secondMicros, by decide, by decide⟩) := by
  intro hpicked
  obtain ⟨t, ht, hday, -, hpassed, -⟩ :=
    hpicked.exists_minute (by decide) (dailyPending_dailyWalk _) rfl 0 (by decide) (by decide)
  obtain ⟨i, -, rfl⟩ := mem_grid_iff.mp ht
  change dayMicros - 30 * secondMicros ≤ _ at hpassed
  unfold minuteMicros dayMicros secondMicros at *
  omega

end OroEdge.Jobs
