import OroEdge.Jobs.Care
import Mathlib.Data.List.Nodup

/-!
# When a schedule is reported overdue

`overdue_task_checker` should report a schedule with the time `s` on a day only
once the clock of that day has passed `s` by the configured grace period.  Its
statements compare `s` with `CURRENT_TIME - INTERVAL '15 minutes'`:

* the interval is a constant, so a longer grace period is not waited for;
* the difference wraps, so in the first quarter of an hour of the day it lies in
  the evening, and most schedules of the day to come are before it.

A report needs more than the time: `Reportable` collects what else the statements
ask for.

The insert is looked at first without the clock.  For each table it stores the key of a schedule
exactly if the schedule is selected, its dog and a user are found, and no other row makes the
statement fail (`key_mem_emitOverdue_iff`).  The two tables are then two cases of `Schedule`,
with different keys, so that the notifications of one statement hide nothing from the other
(`careOverdue_dispatchOverdue_iff`).

What the clock adds is `pastDue_iff`: the comparison holds if the interval has passed, or if it
wraps.  Compared with the grace period, the first may be too early when the period is longer
than the interval, and the second whatever the period is.
-/

namespace OroEdge.Jobs

open OroEdge.Lib OroEdge.Scheduler

/-! ## What the insert adds -/

section Emit

variable {α : Type} {db : CareDb} {schedules : List α} {overdue : α → Prop}
  [DecidablePred overdue] {row : α → ScheduleRow} {notification : α → Dog → String → Notification}

/-- The inner join finds a dog. -/
def HasDog (db : CareDb) (r : ScheduleRow) : Prop := ∃ d ∈ db.dogs, d.dogId = r.dogId

/-- The `COALESCE` of the insert is not null. -/
def HasUser (db : CareDb) (r : ScheduleRow) : Prop :=
  r.createdByUserId ≠ none ∨ ∃ u ∈ db.users, u.deviceId = some r.deviceId

/-- No selected schedule makes the insert fail. -/
def Accepted (db : CareDb) (schedules : List α) (overdue : α → Prop) (row : α → ScheduleRow) :
    Prop :=
  ∀ x ∈ schedules, overdue x → HasDog db (row x) → HasUser db (row x)

theorem mem_joined_iff {r : ScheduleRow} {d : Dog} {u : Option User} :
    (d, u) ∈ joined db r ↔ (d ∈ db.dogs ∧ d.dogId = r.dogId) ∧
      u ∈ Sql.leftJoin (db.users.filter fun u => u.deviceId = some r.deviceId) := by
  simp [joined]

theorem coalesceUser_eq_none_iff {r : ScheduleRow} {u : Option User} :
    coalesceUser r u = none ↔ r.createdByUserId = none ∧ u = none := by
  simp [coalesceUser]

theorem not_hasUser_iff {r : ScheduleRow} :
    ¬HasUser db r ↔ r.createdByUserId = none ∧
      db.users.filter (fun u => u.deviceId = some r.deviceId) = [] := by
  simp [HasUser, List.filter_eq_nil_iff]

/-- A row that the constraint on `user_id` refuses. -/
theorem none_mem_joined_iff {r : ScheduleRow} {make : Dog → String → Notification} :
    (none ∈ (joined db r).map fun joint => (coalesceUser r joint.2).map (make joint.1)) ↔
      HasDog db r ∧ ¬HasUser db r := by
  simp only [List.mem_map, Prod.exists, mem_joined_iff, Option.map_eq_none_iff,
    coalesceUser_eq_none_iff, not_hasUser_iff]
  constructor
  · rintro ⟨d, u, ⟨hd, hu⟩, hcreated, rfl⟩
    exact ⟨⟨d, hd⟩, hcreated, Sql.none_mem_leftJoin_iff.mp hu⟩
  · rintro ⟨⟨d, hd⟩, hcreated, hempty⟩
    exact ⟨d, none, ⟨hd, Sql.none_mem_leftJoin_iff.mpr hempty⟩, hcreated, rfl⟩

theorem exists_some_mem_joined {r : ScheduleRow} (make : Dog → String → Notification)
    (hdog : HasDog db r) (huser : HasUser db r) :
    ∃ d userId, some (make d userId) ∈
      (joined db r).map fun joint => (coalesceUser r joint.2).map (make joint.1) := by
  obtain ⟨d, hd⟩ := hdog
  obtain ⟨u, hu⟩ := List.exists_mem_of_ne_nil _
    (Sql.leftJoin_ne_nil (db.users.filter fun u => u.deviceId = some r.deviceId))
  have hsome : coalesceUser r u ≠ none := by
    rw [Ne, coalesceUser_eq_none_iff]
    rintro ⟨hcreated, rfl⟩
    exact not_hasUser_iff.mpr ⟨hcreated, Sql.none_mem_leftJoin_iff.mp hu⟩ huser
  obtain ⟨userId, huserId⟩ := Option.ne_none_iff_exists'.mp hsome
  exact ⟨d, userId, List.mem_map.mpr ⟨(d, u), mem_joined_iff.mpr ⟨hd, hu⟩, by simp [huserId]⟩⟩

/-- The keys that the insert stores, when the key of a notification is that of its
schedule. -/
theorem key_mem_emitOverdue_iff (key : α → String)
    (hkey : ∀ x d userId, (notification x d userId).dedupeKey = key x) {k : String} :
    k ∈ (emitOverdue db schedules overdue row notification).map Notification.dedupeKey ↔
      Accepted db schedules overdue row ∧
        ∃ x ∈ schedules, overdue x ∧ HasDog db (row x) ∧ key x = k := by
  have hnone : (none ∉ (schedules.filter fun x => overdue x).flatMap fun x =>
      (joined db (row x)).map fun joint =>
        (coalesceUser (row x) joint.2).map (notification x joint.1)) ↔
      Accepted db schedules overdue row := by
    simp only [List.mem_flatMap, List.mem_filter, decide_eq_true_eq, none_mem_joined_iff,
      not_exists, not_and, not_not, and_imp, Accepted]
  unfold emitOverdue
  simp only [List.mem_map, Sql.mem_insertAll_iff, hnone]
  constructor
  · rintro ⟨n, ⟨haccepted, hn⟩, rfl⟩
    obtain ⟨x, hx, hn⟩ := List.mem_flatMap.mp hn
    obtain ⟨hx, hoverdue⟩ := List.mem_filter.mp hx
    obtain ⟨⟨d, u⟩, hjoint, hn⟩ := List.mem_map.mp hn
    obtain ⟨userId, -, rfl⟩ := Option.map_eq_some_iff.mp hn
    have hdog : HasDog db (row x) := ⟨d, (mem_joined_iff.mp hjoint).1⟩
    exact ⟨haccepted, x, hx, of_decide_eq_true hoverdue, hdog, (hkey x d userId).symm⟩
  · rintro ⟨haccepted, x, hx, hoverdue, hdog, rfl⟩
    have hselected : x ∈ schedules.filter fun x => overdue x :=
      List.mem_filter.mpr ⟨hx, decide_eq_true hoverdue⟩
    have huser : HasUser db (row x) := haccepted x hx hoverdue hdog
    obtain ⟨d, userId, hmem⟩ := exists_some_mem_joined (notification x) hdog huser
    refine ⟨notification x d userId, ⟨haccepted, ?_⟩, hkey x d userId⟩
    exact List.mem_flatMap.mpr ⟨x, hselected, hmem⟩

end Emit

/-! ## The keys that a run stores -/

theorem feedingOverdueKey_inj {first second date : String} :
    feedingOverdueKey first date = feedingOverdueKey second date ↔ first = second := by
  unfold feedingOverdueKey
  simp

theorem careOverdueKey_inj {first second date : String} :
    careOverdueKey first date = careOverdueKey second date ↔ first = second := by
  unfold careOverdueKey
  simp

theorem feedingOverdueKey_ne_careOverdueKey (f c day day' : String) :
    feedingOverdueKey f day ≠ careOverdueKey c day' := by
  intro h
  unfold feedingOverdueKey careOverdueKey at h
  have hchars := congrArg String.toList h
  have hfeed : "FEED_OVERDUE_".toList = 'F' :: "EED_OVERDUE_".toList := by decide
  have hcare : "CARE_OVERDUE_".toList = 'C' :: "ARE_OVERDUE_".toList := by decide
  simp only [String.toList_append, hfeed, hcare, List.cons_append, List.cons.injEq] at hchars
  exact absurd hchars.1 (by decide)

variable {db : CareDb} {deviceId timezone : String} {graceMinutes : ℤ} {clock : OverdueClock}

@[simp] theorem dedupeKeys_dispatchOverdue (rows : List Notification) (event : CareEvent) :
    (dispatchOverdue db rows event).dedupeKeys =
      db.dedupeKeys ++ rows.map Notification.dedupeKey := by
  unfold dispatchOverdue
  split
  · rename_i hempty
    simp [List.isEmpty_iff.mp hempty]
  · simp [CareDb.dedupeKeys, CareDb.notify]

/-- The tables that the statements read stay as they are. -/
theorem dispatchOverdue_tables (db : CareDb) (rows : List Notification) (event : CareEvent) :
    (dispatchOverdue db rows event).careSchedules = db.careSchedules ∧
      (dispatchOverdue db rows event).dogs = db.dogs ∧
      (dispatchOverdue db rows event).users = db.users := by
  unfold dispatchOverdue
  split <;> exact ⟨rfl, rfl, rfl⟩

theorem key_mem_emitOverdueFeeding_iff {session : Session} {k : String} :
    k ∈ (emitOverdueFeeding session deviceId db).map Notification.dedupeKey ↔
      Accepted db db.feedingSchedules (feedingOverdue session deviceId db)
        FeedingSchedule.toScheduleRow ∧
      ∃ f ∈ db.feedingSchedules, feedingOverdue session deviceId db f ∧
        HasDog db f.toScheduleRow ∧ feedingOverdueKey f.feedingScheduleId session.dateKey = k := by
  unfold emitOverdueFeeding
  exact key_mem_emitOverdue_iff
    (fun f : FeedingSchedule => feedingOverdueKey f.feedingScheduleId session.dateKey)
    fun _ _ _ => rfl

theorem key_mem_emitOverdueCare_iff {session : Session} {k : String} :
    k ∈ (emitOverdueCare session deviceId db).map Notification.dedupeKey ↔
      Accepted db db.careSchedules (careOverdue session deviceId db)
        CareSchedule.toScheduleRow ∧
      ∃ c ∈ db.careSchedules, careOverdue session deviceId db c ∧
        HasDog db c.toScheduleRow ∧ careOverdueKey c.careScheduleId session.dateKey = k := by
  unfold emitOverdueCare
  exact key_mem_emitOverdue_iff
    (fun c : CareSchedule => careOverdueKey c.careScheduleId session.dateKey)
    fun _ _ _ => rfl

/-- The feeding notifications of the run hide no care schedule. -/
theorem careOverdue_dispatchOverdue_iff {session other : Session} {event : CareEvent}
    {c : CareSchedule} :
    careOverdue session deviceId
        (dispatchOverdue db (emitOverdueFeeding other deviceId db) event) c ↔
      careOverdue session deviceId db c := by
  have hkey : careOverdueKey c.careScheduleId session.dateKey ∉
      (emitOverdueFeeding other deviceId db).map Notification.dedupeKey := by
    rw [key_mem_emitOverdueFeeding_iff]
    rintro ⟨-, f, -, -, -, heq⟩
    exact feedingOverdueKey_ne_careOverdueKey _ _ _ _ heq
  simp only [careOverdue, dedupeKeys_dispatchOverdue, List.mem_append, hkey, or_false]

theorem emitOverdueCare_dispatchOverdue {session other : Session} {event : CareEvent} :
    emitOverdueCare session deviceId
        (dispatchOverdue db (emitOverdueFeeding other deviceId db) event) =
      emitOverdueCare session deviceId db := by
  obtain ⟨hcare, hdogs, husers⟩ :=
    dispatchOverdue_tables db (emitOverdueFeeding other deviceId db) event
  unfold emitOverdueCare emitOverdue joined
  simp only [hcare, hdogs, husers, careOverdue_dispatchOverdue_iff]

/-! ## The clock -/

/-- The fixed interval has passed since `s`. -/
def IntervalPassed (s t : TimeOfDay) : Prop := s.micros + overdueInterval < t.micros

/-- Less than the interval has passed since midnight, and `s` is not in the last part
of the day that the difference wraps to. -/
def WrapsPast (s t : TimeOfDay) : Prop :=
  t.micros < overdueInterval ∧ s.micros < t.micros + (dayMicros - overdueInterval)

theorem pastDue_iff {session : Session} {s : TimeOfDay} :
    pastDue session (some s) ↔
      IntervalPassed s session.currentTime ∨ WrapsPast s session.currentTime := by
  have hday := TimeOfDay.ofWall_lt_day session.wall
  have hs := s.nonneg
  have hinterval : 0 < overdueInterval ∧ overdueInterval ≤ dayMicros := by decide
  change session.currentTime.micros < dayMicros at hday
  unfold IntervalPassed WrapsPast
  rcases lt_or_ge session.currentTime.micros overdueInterval with hlt | hge
  · -- before 00:15 the bound is that many microseconds before midnight
    simp only [pastDue, Option.mem_some_iff, exists_eq_left', hlt, true_and,
      TimeOfDay.sub_micros_of_lt hlt hinterval.2]
    omega
  · simp only [pastDue, Option.mem_some_iff, exists_eq_left',
      TimeOfDay.sub_micros_of_le hinterval.1.le hge hday]
    omega

/-! ## The law -/

/-- A row of one of the two schedule tables. -/
inductive Schedule
  | feeding (f : FeedingSchedule)
  | care (c : CareSchedule)

namespace Schedule

/-- What both kinds of schedules have. -/
def row : Schedule → ScheduleRow
  | .feeding f => f.toScheduleRow
  | .care c => c.toScheduleRow

/-- Feeding schedules have no due date. -/
def dueDate : Schedule → Option ℤ
  | .feeding _ => none
  | .care c => c.dueDate

/-- The schedule is in its table. -/
def Stored (db : CareDb) : Schedule → Prop
  | .feeding f => f ∈ db.feedingSchedules
  | .care c => c ∈ db.careSchedules

/-- The session of the statement that reports the schedule. -/
def session (clock : OverdueClock) : Schedule → Session
  | .feeding _ => clock.feeding
  | .care _ => clock.care

/-- The key of a schedule that is overdue on a day. -/
def overdueKey (dateKey : String) : Schedule → String
  | .feeding f => feedingOverdueKey f.feedingScheduleId dateKey
  | .care c => careOverdueKey c.careScheduleId dateKey

/-- What a report needs beside the time: the schedule is one of the device and active,
it is not completed, its dog is known, the day's report is not stored yet, and no
schedule reported with it makes the statement fail. -/
def Reportable (clock : OverdueClock) (deviceId : String) (db : CareDb) (x : Schedule) : Prop :=
  x.row.deviceId = deviceId ∧ x.row.isActive = true ∧ HasDog db x.row ∧
    x.overdueKey (x.session clock).dateKey ∉ db.dedupeKeys ∧
    match x with
    | .feeding _ => Accepted db db.feedingSchedules (feedingOverdue clock.feeding deviceId db)
        FeedingSchedule.toScheduleRow
    | .care c => clock.care.notCompleted c.lastCompletedAt ∧
        Accepted db db.careSchedules (careOverdue clock.care deviceId db)
          CareSchedule.toScheduleRow

end Schedule

/-- A run adds a notification with the key. -/
def Stores (key : String) (before after : CareDb) : Prop :=
  before.dedupeKeys.count key < after.dedupeKeys.count key

instance (key : String) (before after : CareDb) : Decidable (Stores key before after) :=
  inferInstanceAs (Decidable (_ < _))

/-- A run reports the schedule, with the key of the day, only when the clock of the
day has passed its time `s` by the grace period. -/
def NeverEarly (config : Json) (clock : OverdueClock) (db : CareDb) (x : Schedule)
    (s : TimeOfDay) (graceMinutes : ℤ) : Prop :=
  ∀ result after, overdueTaskChecker config clock db = some (result, after) →
    Stores (x.overdueKey (x.session clock).dateKey) db after →
    s.micros + graceMinutes * minuteMicros ≤ (x.session clock).currentTime.micros

/-- The configuration of the job, as it reads it. -/
structure Reads (casts : FloatCasts) (config : Json) (deviceId timezone : String)
    (graceMinutes : ℤ) : Prop where
  deviceId : config.valueAt Json.asString ["global", "device_id"] "" = some deviceId
  timezone : config.valueAt Json.asString ["global", "timezone"] "UTC" = some timezone
  graceMinutes : gracePeriodMinutes casts config = some graceMinutes

theorem overdueTaskChecker_of_reads {config : Json}
    (hreads : Reads clock.casts config deviceId timezone graceMinutes) (hdevice : deviceId ≠ "") :
    overdueTaskChecker config clock db =
      some (checkOverdue deviceId timezone graceMinutes clock db) := by
  simp [overdueTaskChecker, hreads.deviceId, hreads.timezone, hreads.graceMinutes, hdevice]

theorem stores_checkOverdue_iff {k : String} :
    Stores k db (checkOverdue deviceId timezone graceMinutes clock db).2 ↔
      k ∈ (emitOverdueFeeding clock.feeding deviceId db).map Notification.dedupeKey ∨
      k ∈ (emitOverdueCare clock.care deviceId db).map Notification.dedupeKey := by
  unfold Stores checkOverdue
  simp only [dedupeKeys_dispatchOverdue, emitOverdueCare_dispatchOverdue, List.count_append]
  rw [← List.count_pos_iff, ← List.count_pos_iff]
  omega

/-- What the run reports, for a schedule that is not overdue by its date. -/
theorem stores_iff {x : Schedule} (hstored : x.Stored db) (hdue : x.dueDate = none) :
    Stores (x.overdueKey (x.session clock).dateKey) db
        (checkOverdue deviceId timezone graceMinutes clock db).2 ↔
      x.Reportable clock deviceId db ∧ pastDue (x.session clock) x.row.scheduledTime := by
  rw [stores_checkOverdue_iff, key_mem_emitOverdueFeeding_iff, key_mem_emitOverdueCare_iff]
  cases x with
  | feeding f =>
      constructor
      · rintro (⟨haccepted, g, hg, hoverdue, hdog, heq⟩ | ⟨-, c, -, -, -, heq⟩)
        · -- the key names its schedule, since ids are primary keys
          have hid := feedingOverdueKey_inj.mp heq
          obtain rfl := List.inj_on_of_nodup_map db.feeding_nodup hg hstored hid
          obtain ⟨hdevice, hactive, htime, hkey⟩ := hoverdue
          exact ⟨⟨hdevice, hactive, hdog, hkey, haccepted⟩, htime⟩
        · exact absurd heq.symm (feedingOverdueKey_ne_careOverdueKey _ _ _ _)
      · rintro ⟨⟨hdevice, hactive, hdog, hkey, haccepted⟩, htime⟩
        exact Or.inl ⟨haccepted, f, hstored, ⟨hdevice, hactive, htime, hkey⟩, hdog, rfl⟩
  | care c =>
      change c.dueDate = none at hdue
      constructor
      · rintro (⟨-, f, -, -, -, heq⟩ | ⟨haccepted, e, he, hoverdue, hdog, heq⟩)
        · exact absurd heq (feedingOverdueKey_ne_careOverdueKey _ _ _ _)
        · have hid := careOverdueKey_inj.mp heq
          obtain rfl := List.inj_on_of_nodup_map db.care_nodup he hstored hid
          obtain ⟨hdevice, hactive, hlate, hcompleted, hkey⟩ := hoverdue
          rw [hdue] at hlate
          refine ⟨⟨hdevice, hactive, hdog, hkey, hcompleted, haccepted⟩, hlate.resolve_left ?_⟩
          simp
      · rintro ⟨⟨hdevice, hactive, hdog, hkey, hcompleted, haccepted⟩, htime⟩
        exact Or.inr ⟨haccepted, c, hstored,
          ⟨hdevice, hactive, Or.inr htime, hcompleted, hkey⟩, hdog, rfl⟩

/-- **A run reports no schedule early exactly when it meets no reportable one in a
window of false reports**: after the fixed interval but within the grace period, or
in the first minutes of the day. -/
theorem neverEarly_iff {config : Json} {x : Schedule} {s : TimeOfDay}
    (hreads : Reads clock.casts config deviceId timezone graceMinutes) (hdevice : deviceId ≠ "")
    (hstored : x.Stored db) (htime : x.row.scheduledTime = some s) (hdue : x.dueDate = none) :
    NeverEarly config clock db x s graceMinutes ↔
      ¬(x.Reportable clock deviceId db ∧
        (IntervalPassed s (x.session clock).currentTime ∨
          WrapsPast s (x.session clock).currentTime) ∧
        (x.session clock).currentTime.micros < s.micros + graceMinutes * minuteMicros) := by
  have hreport : Stores (x.overdueKey (x.session clock).dateKey) db
      (checkOverdue deviceId timezone graceMinutes clock db).2 ↔ _ := stores_iff hstored hdue
  rw [htime, pastDue_iff] at hreport
  unfold NeverEarly
  rw [overdueTaskChecker_of_reads hreads hdevice]
  constructor
  · rintro hlaw ⟨hopen, hwindow, hearly⟩
    exact absurd (hlaw _ _ rfl (hreport.mpr ⟨hopen, hwindow⟩)) (not_le.mpr hearly)
  · rintro hnone result after hafter hstores
    cases hafter
    obtain ⟨hopen, hwindow⟩ := hreport.mp hstores
    exact not_lt.mp fun hearly => hnone ⟨hopen, hwindow, hearly⟩

/-! ## A run of each kind -/

/-- Breakfast at 08:00. -/
def breakfast : FeedingSchedule :=
  { deviceId := "d"
    dogId := "rex"
    scheduledTime := some ⟨8 * hourMicros, by decide, by decide⟩
    isActive := true
    createdByUserId := none
    feedingScheduleId := "f"
    mealName := some "Breakfast" }

def breakfastDb : CareDb :=
  { feedingSchedules := [breakfast]
    careSchedules := []
    dogs := [⟨"rex", some "Rex"⟩]
    users := [⟨"u", some "d"⟩]
    notifications := []
    events := []
    feeding_nodup := by decide
    care_nodup := by decide }

/-- The configuration with a grace period. -/
def graceConfig (minutes : ℤ) : Json :=
  .obj [("global", .obj [("device_id", .str "d"), ("timezone", .str "UTC")]),
    ("scheduled_task_manager", .obj [("jobs", .obj [("overdue_task_checker",
      .obj [("grace_period_minutes", .int minutes)])])])]

/-- A run at a time of the first day. -/
def runAt (wall : ℤ) : OverdueClock := ⟨.saturating, ⟨Zone.fixed 0, wall⟩, ⟨Zone.fixed 0, wall⟩, 0⟩

theorem neverEarly_at_twenty_past : NeverEarly (graceConfig 15)
    (runAt (8 * hourMicros + 20 * minuteMicros)) breakfastDb (.feeding breakfast)
    ⟨8 * hourMicros, by decide, by decide⟩ 15 :=
  (neverEarly_iff ⟨rfl, rfl, rfl⟩ (by decide) (List.mem_singleton_self _) rfl rfl).mpr
    (by rintro ⟨-, -, hearly⟩; exact absurd hearly (by decide))

/-- At five past midnight, breakfast is reported for the day that has just begun. -/
theorem not_neverEarly_after_midnight : ¬NeverEarly (graceConfig 15)
    (runAt (5 * minuteMicros)) breakfastDb (.feeding breakfast)
    ⟨8 * hourMicros, by decide, by decide⟩ 15 := by
  intro hlaw
  have hlate := hlaw _ _ rfl (by decide +kernel)
  exact absurd hlate (by decide)

end OroEdge.Jobs
