import OroEdge.Lib.DayClock
import OroEdge.Lib.Sql
import OroEdge.Scheduler.Job
import OroEdge.Tables

/-!
# The tables of the care jobs, and the overdue check

`overdue_task_checker` inserts notifications for overdue feeding and care
schedules, one statement for each table.  Every statement reaches the database;
one that a constraint refuses is logged by the writer and adds nothing.

A statement reads the clock through its `Session`.  An identifier is a UUID in its
text form.  The notifications carry no constant columns (type, status, channel) and
no times.

The tables are lists in the order of insertion, and a constraint is checked where a statement
would meet it: a notification without a user makes the whole statement fail, which is why the
new rows are put together before any is added.  A clock of the database is not read by these
functions; it comes as a `Session`, since the time zone is a setting of the connection and two
statements of one job need not have the same.

The two overdue statements are one definition with the key, the condition and the text as its
parameters (`emitOverdue`), and the two of the job one with the event (`dispatchOverdue`).
-/

namespace OroEdge.Jobs

open OroEdge.Lib OroEdge.Scheduler

/-! ## Rows -/

/-- The columns that both schedule tables have. -/
structure ScheduleRow where
  deviceId : String
  dogId : String
  scheduledTime : Option TimeOfDay
  isActive : Bool
  createdByUserId : Option String
  deriving DecidableEq, Repr

/-- A row of `oro_base_feeding_schedules`. -/
structure FeedingSchedule extends ScheduleRow where
  feedingScheduleId : String
  mealName : Option String
  deriving DecidableEq, Repr

/-- A row of `oro_base_care_schedules`; dates are days. -/
structure CareSchedule extends ScheduleRow where
  careScheduleId : String
  careType : Option String
  title : Option String
  description : Option String
  recurrenceType : Option String
  recurrenceDays : Option Json
  dueDate : Option ℤ
  startDate : Option ℤ
  lastCompletedAt : Option ℤ
  deriving Repr

/-- A row of `oro_base_dog`. -/
structure Dog where
  dogId : String
  name : Option String
  deriving DecidableEq, Repr

/-- A row of `oro_base_user`. -/
structure User where
  userId : String
  deviceId : Option String
  deriving DecidableEq, Repr

/-- A row of `oro_base_notifications`; `user_id` is not nullable. -/
structure Notification where
  deviceId : String
  dogId : Option String
  userId : String
  category : String
  notificationKey : String
  title : String
  message : Option String
  priority : String
  triggerMode : String
  payload : Json
  dedupeKey : String
  deriving Repr

/-- What `stm_care_emit_event` inserts, beside its constants. -/
structure CareEvent where
  deviceId : String
  eventType : String
  severity : String
  title : String
  description : String
  payload : Json
  dedupeKey : String
  deriving Repr

/-- The tables, with the primary keys of the schedules. -/
structure CareDb where
  feedingSchedules : List FeedingSchedule
  careSchedules : List CareSchedule
  dogs : List Dog
  users : List User
  notifications : List Notification
  events : List CareEvent
  feeding_nodup : (feedingSchedules.map FeedingSchedule.feedingScheduleId).Nodup
  care_nodup : (careSchedules.map CareSchedule.careScheduleId).Nodup
  deriving Repr

namespace CareDb

/-- The keys of the stored notifications. -/
def dedupeKeys (db : CareDb) : List String := db.notifications.map Notification.dedupeKey

/-- The rows are appended to the notifications. -/
def notify (db : CareDb) (rows : List Notification) : CareDb :=
  { db with notifications := db.notifications ++ rows }

end CareDb

/-! ## The session -/

/-- What a statement reads of its session: the time zone, and the local clock at the
start of the transaction. -/
structure Session where
  zone : Zone
  wall : ℤ

namespace Session

/-- `CURRENT_DATE`, in the zone of the session. -/
def currentDate (session : Session) : ℤ := dayOf session.wall

def currentTime (session : Session) : TimeOfDay := TimeOfDay.ofWall session.wall

/-- `TO_CHAR(CURRENT_DATE, 'YYYYMMDD')`. -/
def dateKey (session : Session) : String := (civilDate session.currentDate).compact

/-- `at::date`. -/
def dateOf (session : Session) (instant : ℤ) : ℤ := dayOf (session.zone.toLocal instant)

/-- `last_completed_at IS NULL OR last_completed_at::date < CURRENT_DATE`. -/
def notCompleted (session : Session) (lastCompletedAt : Option ℤ) : Prop :=
  ∀ instant ∈ lastCompletedAt, session.dateOf instant < session.currentDate

instance (session : Session) (lastCompletedAt : Option ℤ) :
    Decidable (session.notCompleted lastCompletedAt) :=
  inferInstanceAs (Decidable (∀ instant ∈ lastCompletedAt, _))

end Session

/-! ## Overdue schedules -/

/-- `INTERVAL '15 minutes'`. -/
def overdueInterval : ℤ := 15 * minuteMicros

/-- `scheduled_time < (CURRENT_TIME - INTERVAL '15 minutes')`. -/
def pastDue (session : Session) (scheduledTime : Option TimeOfDay) : Prop :=
  ∃ time ∈ scheduledTime, time.micros < (session.currentTime.sub overdueInterval).micros

instance (session : Session) (scheduledTime : Option TimeOfDay) :
    Decidable (pastDue session scheduledTime) :=
  inferInstanceAs (Decidable (∃ time ∈ scheduledTime, _))

/-- The key of an overdue feeding on a day. -/
def feedingOverdueKey (id dateKey : String) : String := "FEED_OVERDUE_" ++ id ++ "_" ++ dateKey

def careOverdueKey (id dateKey : String) : String := "CARE_OVERDUE_" ++ id ++ "_" ++ dateKey

/-- The `WHERE` of `stm_care_emit_overdue_feeding_notification`. -/
def feedingOverdue (session : Session) (deviceId : String) (db : CareDb) (f : FeedingSchedule) :
    Prop :=
  f.deviceId = deviceId ∧ f.isActive = true ∧ pastDue session f.scheduledTime ∧
    feedingOverdueKey f.feedingScheduleId session.dateKey ∉ db.dedupeKeys

instance (session : Session) (deviceId : String) (db : CareDb) (f : FeedingSchedule) :
    Decidable (feedingOverdue session deviceId db f) :=
  inferInstanceAs (Decidable (_ ∧ _ ∧ _ ∧ _))

/-- The `WHERE` of `stm_care_emit_overdue_care_notification`. -/
def careOverdue (session : Session) (deviceId : String) (db : CareDb) (c : CareSchedule) : Prop :=
  c.deviceId = deviceId ∧ c.isActive = true ∧
    ((∃ day ∈ c.dueDate, day < session.currentDate) ∨ pastDue session c.scheduledTime) ∧
    session.notCompleted c.lastCompletedAt ∧
    careOverdueKey c.careScheduleId session.dateKey ∉ db.dedupeKeys

instance (session : Session) (deviceId : String) (db : CareDb) (c : CareSchedule) :
    Decidable (careOverdue session deviceId db c) :=
  inferInstanceAs (Decidable (_ ∧ _ ∧ _ ∧ _ ∧ _))

/-- The matching rows of `oro_base_dog` and, by a `LEFT JOIN`, of `oro_base_user`. -/
def joined (db : CareDb) (row : ScheduleRow) : List (Dog × Option User) :=
  (db.dogs.filter fun d => d.dogId = row.dogId).flatMap fun d =>
    (Sql.leftJoin (db.users.filter fun u => u.deviceId = some row.deviceId)).map fun u => (d, u)

/-- `COALESCE(created_by_user_id, u.user_id)`. -/
def coalesceUser (row : ScheduleRow) (u : Option User) : Option String :=
  row.createdByUserId <|> u.map User.userId

/-- The rows that the insert of overdue notifications adds, for one of the two tables. -/
def emitOverdue {α : Type} (db : CareDb) (schedules : List α) (overdue : α → Prop)
    [DecidablePred overdue] (row : α → ScheduleRow)
    (notification : α → Dog → String → Notification) : List Notification :=
  Sql.insertAll <| (schedules.filter fun x => overdue x).flatMap fun x =>
    (joined db (row x)).map fun joint => (coalesceUser (row x) joint.2).map (notification x joint.1)

/-- SQL's `||`: a null makes the whole text null. -/
def around (before : String) (text : Option String) (after : String) : Option String :=
  text.map fun t => before ++ t ++ after

def jsonOf (text : Option String) : Json := text.elim .null .str

/-- The notification about an overdue feeding, for one user. -/
def feedingOverdueRow (session : Session) (f : FeedingSchedule) (d : Dog) (userId : String) :
    Notification :=
  { deviceId := f.deviceId
    dogId := some f.dogId
    userId := userId
    category := "Feeding"
    notificationKey := "feeding_overdue_" ++ f.feedingScheduleId
    title := "Overdue feeding: " ++ f.mealName.getD "meal"
    message := around "Feeding schedule for " d.name " is overdue."
    priority := "high"
    triggerMode := "scheduled"
    payload := .obj [("feeding_schedule_id", .str f.feedingScheduleId),
      ("meal_name", jsonOf f.mealName)]
    dedupeKey := feedingOverdueKey f.feedingScheduleId session.dateKey }

/-- The notification about an overdue care task, for one user. -/
def careOverdueRow (session : Session) (c : CareSchedule) (d : Dog) (userId : String) :
    Notification :=
  { deviceId := c.deviceId
    dogId := some c.dogId
    userId := userId
    category := c.careType.getD "Care"
    notificationKey := "care_overdue_" ++ c.careScheduleId
    title := "Overdue care task: " ++ c.title.getD "Reminder"
    message := around ("Care task " ++ c.title.getD "Reminder" ++ " for ") d.name " is overdue."
    priority := "high"
    triggerMode := "scheduled"
    payload := .obj [("care_schedule_id", .str c.careScheduleId),
      ("care_type", jsonOf c.careType), ("title", jsonOf c.title)]
    dedupeKey := careOverdueKey c.careScheduleId session.dateKey }

/-- `stm_care_emit_overdue_feeding_notification`. -/
def emitOverdueFeeding (session : Session) (deviceId : String) (db : CareDb) :
    List Notification :=
  emitOverdue db db.feedingSchedules (feedingOverdue session deviceId db)
    FeedingSchedule.toScheduleRow (feedingOverdueRow session)

/-- `stm_care_emit_overdue_care_notification`. -/
def emitOverdueCare (session : Session) (deviceId : String) (db : CareDb) : List Notification :=
  emitOverdue db db.careSchedules (careOverdue session deviceId db)
    CareSchedule.toScheduleRow (careOverdueRow session)

/-- The clock readings of one run, and the casts of its machine; `checkedAt` is in milliseconds. -/
structure OverdueClock where
  casts : FloatCasts
  feeding : Session
  care : Session
  checkedAt : ℤ

/-- `grace_period_minutes`, with its default. -/
def gracePeriodMinutes (casts : FloatCasts) (config : Json) : Option ℤ :=
  match config.at? ["scheduled_task_manager", "jobs", "overdue_task_checker"] with
  | some jobConfig => jobConfig.value (Json.asInt32 casts) "grace_period_minutes" 15
  | none => some 15

/-- Inserts the notifications of one kind, and an event when there are any. -/
def dispatchOverdue (db : CareDb) (rows : List Notification) (event : CareEvent) : CareDb :=
  if rows.isEmpty then db else { db.notify rows with events := db.events ++ [event] }

/-- The event of a run that has found overdue feedings. -/
def overdueFeedingEvent (deviceId timezone : String) (graceMinutes : ℤ) (count : ℕ)
    (checkedAt : ℤ) : CareEvent :=
  { deviceId := deviceId
    eventType := "feeding_overdue"
    severity := "medium"
    title := "Overdue Feeding Schedule"
    description := "One or more feeding schedules are past due."
    payload := .obj [("overdue_count", .int count), ("type", .str "feeding"),
      ("grace_period_minutes", .int graceMinutes), ("timezone", .str timezone),
      ("checked_at", .int checkedAt)]
    dedupeKey := "STM_OVERDUE_FEED_" ++ deviceId }

/-- The event of a run that has found overdue care tasks. -/
def overdueCareEvent (deviceId timezone : String) (graceMinutes : ℤ) (count : ℕ) : CareEvent :=
  { deviceId := deviceId
    eventType := "care_task_overdue"
    severity := "medium"
    title := "Overdue Care Task"
    description := "One or more care schedules are overdue."
    payload := .obj [("overdue_count", .int count), ("type", .str "care"),
      ("grace_period_minutes", .int graceMinutes), ("timezone", .str timezone)]
    dedupeKey := "STM_OVERDUE_CARE_" ++ deviceId }

/-- Steps 4 to 6 of the job, with the settings that it has read. -/
def checkOverdue (deviceId timezone : String) (graceMinutes : ℤ) (clock : OverdueClock)
    (db : CareDb) : JobResult × CareDb :=
  let feeding := emitOverdueFeeding clock.feeding deviceId db
  let db := dispatchOverdue db feeding
    (overdueFeedingEvent deviceId timezone graceMinutes feeding.length clock.checkedAt)
  let care := emitOverdueCare clock.care deviceId db
  let db := dispatchOverdue db care
    (overdueCareEvent deviceId timezone graceMinutes care.length)
  (⟨true, feeding.length + care.length, "",
    [("grace_period_minutes", .int graceMinutes), ("overdue_care", .int care.length),
      ("overdue_feedings", .int feeding.length), ("timezone", .str timezone)]⟩, db)

/-- `none` is an exception: the configuration holds a value of another type. -/
def overdueTaskChecker (config : Json) (clock : OverdueClock) (db : CareDb) :
    Option (JobResult × CareDb) := do
  let deviceId ← config.valueAt Json.asString ["global", "device_id"] ""
  if deviceId = "" then
    return (⟨false, 0, "No device_id in config", []⟩, db)
  let timezone ← config.valueAt Json.asString ["global", "timezone"] "UTC"
  let graceMinutes ← gracePeriodMinutes clock.casts config
  return checkOverdue deviceId timezone graceMinutes clock db

end OroEdge.Jobs
