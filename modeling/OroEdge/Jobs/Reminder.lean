import OroEdge.Jobs.Care
import OroEdge.Lib.Scan

/-!
# The reminders

`care_reminder_dispatch` has two modes, run one after the other.  Mode 1 goes
through the `care_schedules` of the configuration, on the clock of the process;
mode 2 through the due rows of `oro_base_care_schedules`, on the clock of the
database session.  Both insert with `stm_care_insert_notification`, which adds
nothing when its dedupe key is stored already.

An exception of mode 1 leaves the job; one of mode 2 is caught.

An exception in the loop of mode 1 ends the job after the inserts that came before it, and
`untilThrow` keeps both: the calls up to the exception, and whether there was one.  The fields
of a schedule are read in two groups, as in the source, because a field that is read only for
some schedules can throw only for these.

Two facts make the modes independent.  Their keys differ (`configRemindKey_ne_careRemindKey`),
and the query of mode 2 reads tables that mode 1 does not write
(`fetchDueSchedules_configReminders`); so each mode can be studied without the other, on the
tables before the run.
-/

namespace OroEdge.Jobs

open OroEdge.Lib OroEdge.Scheduler

/-! ## The insert -/

/-- The arguments of `stm_care_insert_notification`. -/
structure Reminder where
  deviceId : String
  dogId : Option String
  userId : Option String
  category : String
  notificationKey : String
  title : String
  message : String
  priority : String
  triggerMode : String
  payload : Json
  dedupeKey : String
  deriving Repr

/-- The user of a notification; SQL leaves open which user of the device it takes. -/
def reminderUser (db : CareDb) (r : Reminder) : Option String :=
  r.userId <|> (db.users.find? fun u => u.deviceId = some r.deviceId).map User.userId

def reminderRow (r : Reminder) (userId : String) : Notification :=
  { deviceId := r.deviceId
    dogId := r.dogId
    userId := userId
    category := r.category
    notificationKey := r.notificationKey
    title := r.title
    message := some r.message
    priority := r.priority
    triggerMode := r.triggerMode
    payload := r.payload
    dedupeKey := r.dedupeKey }

/-- `stm_care_insert_notification`; a missing user is refused by the table. -/
def insertReminder (db : CareDb) (r : Reminder) : CareDb :=
  if r.dedupeKey ∈ db.dedupeKeys then db
  else db.notify ((reminderUser db r).map (reminderRow r)).toList

/-- The results of calls made in order up to the first that throws, and whether none
throws. -/
def untilThrow {α : Type} : List (Option α) → List α × Bool
  | [] => ([], true)
  | none :: _ => ([], false)
  | some result :: rest => (result :: (untilThrow rest).1, (untilThrow rest).2)

/-! ## Mode 1: the schedules of the configuration -/

/-- `tm_hour` and `tm_min` of a local time. -/
def tmHour (wall : ℤ) : ℤ := timeOfDay wall / hourMicros

def tmMin (wall : ℤ) : ℤ := timeOfDay wall % hourMicros / minuteMicros

/-- What a schedule of the configuration need not say. -/
structure ReminderDefaults where
  priority : String
  triggerMode : String
  deriving DecidableEq, Repr

/-- The defaults, as they are read from the configuration of the job; `none` is an exception. -/
def reminderDefaults (config : Json) : Option ReminderDefaults :=
  match config.at? ["scheduled_task_manager", "jobs", "care_reminder_dispatch"] with
  | some jobConfig => do
      let priority ← jobConfig.value Json.asString "default_priority" "medium"
      let triggerMode ← jobConfig.value Json.asString "default_trigger_mode" "scheduled"
      return ⟨priority, triggerMode⟩
  | none => some ⟨"medium", "scheduled"⟩

/-- The fields that the loop reads of every schedule. -/
structure ConfigSchedule where
  careType : String
  title : String
  recurrence : String
  dueTime : String
  dueDate : String
  priority : String
  triggerMode : String
  deriving DecidableEq, Repr

/-- The fields of a schedule of the configuration; `none` is an exception. -/
def ConfigSchedule.read (defaults : ReminderDefaults) (schedule : Json) :
    Option ConfigSchedule := do
  let careType ← schedule.value Json.asString "care_type" ""
  let title ← schedule.value Json.asString "title" ""
  let recurrence ← schedule.value Json.asString "recurrence" "daily"
  let dueTime ← schedule.value Json.asString "due_time" ""
  let dueDate ← schedule.value Json.asString "due_date" ""
  let priority ← schedule.value Json.asString "priority" defaults.priority
  let triggerMode ← schedule.value Json.asString "trigger_mode" defaults.triggerMode
  return ⟨careType, title, recurrence, dueTime, dueDate, priority, triggerMode⟩

/-- Hour and minute of `due_time`; the seconds are not used. -/
def ConfigSchedule.dueClock (s : ConfigSchedule) : Option (ℤ × ℤ) :=
  match scanTriple ':' s.dueTime with
  | hour :: minute :: _ => some (hour, minute)
  | _ => none

/-- It is the minute at which the schedule is due. -/
def ConfigSchedule.timeMatches (s : ConfigSchedule) (wall : ℤ) : Prop :=
  s.dueClock = some (tmHour wall, tmMin wall)

instance (s : ConfigSchedule) (wall : ℤ) : Decidable (s.timeMatches wall) :=
  inferInstanceAs (Decidable (_ = _))

/-- Whether the date in `due_date` meets a condition. -/
def ConfigSchedule.dueDateMeets (s : ConfigSchedule) (cond : Date → Bool) : Bool :=
  match scanTriple '-' s.dueDate with
  | [year, month, day] => s.dueDate ≠ "" && cond ⟨year, month, day⟩
  | _ => false

/-- The branch on `recurrence`; only `weekly` reads another field. -/
def ConfigSchedule.recurs (s : ConfigSchedule) (schedule : Json) (day : ℤ) : Option Bool :=
  let today := civilDate day
  if s.recurrence = "daily" then some true
  else if s.recurrence = "weekly" then
    (schedule.value Json.asString "recurrence_day" "").map fun required =>
      required.toLower = weekdayName day
  else if s.recurrence = "monthly" then some (s.dueDateMeets fun due => today.day = due.day)
  else if s.recurrence = "quarterly" then
    some (s.dueDateMeets fun due => today.day = due.day && (today.month - due.month) % 3 = 0)
  else some false

/-- The schedule recurs on the day, or is due on its date; `none` is an exception. -/
def ConfigSchedule.dayMatches (s : ConfigSchedule) (schedule : Json) (day : ℤ) : Option Bool :=
  (s.recurs schedule day).map fun recurs =>
    recurs || (s.dueDate ≠ "" && s.dueDate = (civilDate day).iso)

/-- `date_key_str` of a local day. -/
def dateKey (day : ℤ) : String := (civilDate day).compact

/-- The key of a reminder of the configuration on a day; the title is no part of it. -/
def configRemindKey (careType dateKey : String) : String :=
  "CFG_CARE_REMIND_" ++ careType ++ "_" ++ dateKey

/-- The reminder of a schedule of the configuration. -/
def ConfigSchedule.reminder (s : ConfigSchedule) (deviceId : String) (day : ℤ) : Reminder :=
  { deviceId := deviceId
    dogId := none
    userId := none
    category := "Care"
    notificationKey := "cfg_reminder_" ++ s.careType
    title := s.title
    message := "Reminder: " ++ s.title ++ " is scheduled for now."
    priority := s.priority
    triggerMode := s.triggerMode
    payload := .obj [("care_type", .str s.careType), ("source", .str "config_validation")]
    dedupeKey := configRemindKey s.careType (dateKey day) }

/-- What the body of the loop inserts for a schedule, if it does not throw. -/
def configReminder (deviceId : String) (defaults : ReminderDefaults) (wall : ℤ)
    (schedule : Json) : Option (Option Reminder) := do
  let s ← ConfigSchedule.read defaults schedule
  if s.timeMatches wall then
    let dayMatches ← s.dayMatches schedule (dayOf wall)
    return if dayMatches then some (s.reminder deviceId (dayOf wall)) else none
  else
    return none

/-- The schedules of the configuration. -/
def careSchedules (config : Json) : List Json :=
  match config.at? ["scheduled_task_manager", "care_schedules"] with
  | some schedules => schedules.elements
  | none => []

/-- The inserts of mode 1, and whether it comes to its end. -/
def configReminders (config : Json) (deviceId : String) (defaults : ReminderDefaults)
    (wall : ℤ) : List Reminder × Bool :=
  let calls := untilThrow ((careSchedules config).map (configReminder deviceId defaults wall))
  (calls.1.reduceOption, calls.2)

/-! ## Mode 2: the schedules of the database -/

def careRemindKey (id dateKey : String) : String := "CARE_REMIND_" ++ id ++ "_" ++ dateKey

/-- `scheduled_time IS NULL OR scheduled_time BETWEEN (CURRENT_TIME - INTERVAL '1 minute')
AND CURRENT_TIME`. -/
def dueNow (session : Session) (scheduledTime : Option TimeOfDay) : Prop :=
  ∀ time ∈ scheduledTime,
    TimeOfDay.Between time (session.currentTime.sub minuteMicros) session.currentTime

instance (session : Session) (scheduledTime : Option TimeOfDay) :
    Decidable (dueNow session scheduledTime) :=
  inferInstanceAs (Decidable (∀ time ∈ scheduledTime, _))

/-- The clause of the query about the recurrence. -/
def CareSchedule.recursOn (c : CareSchedule) (day : ℤ) : Prop :=
  (c.recurrenceType = some "one_time" ∧ c.dueDate = some day) ∨
    c.recurrenceType = some "daily" ∨
    (c.recurrenceType = some "weekly" ∧
      ∃ days ∈ c.recurrenceDays, days.hasKey (weekdayName day) = true) ∨
    (c.recurrenceType = some "monthly" ∧
      ∃ start ∈ c.startDate, (civilDate start).day = (civilDate day).day)

instance (c : CareSchedule) (day : ℤ) : Decidable (c.recursOn day) :=
  inferInstanceAs (Decidable (_ ∨ _ ∨ _ ∨ _))

/-- The `WHERE` of `stm_care_fetch_due_schedules`. -/
def due (session : Session) (deviceId : String) (db : CareDb) (c : CareSchedule) : Prop :=
  c.isActive = true ∧ c.deviceId = deviceId ∧ dueNow session c.scheduledTime ∧
    c.recursOn session.currentDate ∧ session.notCompleted c.lastCompletedAt ∧
    careRemindKey c.careScheduleId session.dateKey ∉ db.dedupeKeys

instance (session : Session) (deviceId : String) (db : CareDb) (c : CareSchedule) :
    Decidable (due session deviceId db c) :=
  inferInstanceAs (Decidable (_ ∧ _ ∧ _ ∧ _ ∧ _ ∧ _))

/-- `stm_care_fetch_due_schedules`; SQL leaves the order of the rows open. -/
def fetchDueSchedules (session : Session) (deviceId : String) (db : CareDb) :
    List CareSchedule :=
  db.careSchedules.filter fun c => due session deviceId db c

/-- What the loop inserts for a row; a null type or title throws. -/
def dueReminder (defaults : ReminderDefaults) (dateKey : String) (c : CareSchedule) :
    Option Reminder := do
  let careType ← c.careType
  let title ← c.title
  let description := c.description.getD ""
  return {
    deviceId := c.deviceId
    dogId := if c.dogId = "" then none else some c.dogId
    userId := if c.createdByUserId.getD "" = "" then none else c.createdByUserId
    category := "Care"
    notificationKey := "care_reminder_" ++ c.careScheduleId
    title := "Care Task: " ++ title
    message := if description = "" then "It is time for a scheduled care task: " ++ title
      else description
    priority := defaults.priority
    triggerMode := defaults.triggerMode
    payload := .obj [("care_schedule_id", .str c.careScheduleId), ("care_type", .str careType),
      ("title", .str title)]
    dedupeKey := careRemindKey c.careScheduleId dateKey }

/-! ## The job -/

/-- The clock readings of one run: the local time of the process in mode 1, the session
of the query, and the local day in which the key of each row is made.  `what` is the
text of the exception that a null makes libpqxx throw. -/
structure ReminderClock where
  process : ℤ
  session : Session
  rowDay : ℕ → ℤ
  what : String

/-- What a run leaves in the database, the rows that its query returns, and its result;
`none` is an exception. -/
structure ReminderRun where
  db : CareDb
  fetched : List CareSchedule
  result : Option JobResult

/-- The calls of the loop of mode 2. -/
def dueReminders (defaults : ReminderDefaults) (clock : ReminderClock)
    (fetched : List CareSchedule) : List Reminder × Bool :=
  untilThrow (fetched.mapIdx fun i c => dueReminder defaults (dateKey (clock.rowDay i)) c)

/-- Mode 2, after `count` inserts of mode 1. -/
def dispatchDue (deviceId : String) (defaults : ReminderDefaults) (count : ℕ)
    (clock : ReminderClock) (db : CareDb) : ReminderRun :=
  let fetched := fetchDueSchedules clock.session deviceId db
  let calls := dueReminders defaults clock fetched
  { db := calls.1.foldl insertReminder db
    fetched := fetched
    result := some { success := calls.2
                     itemsProcessed := count + calls.1.length
                     error := if calls.2 then "" else clock.what
                     metadata := [] } }

/-- `care_reminder_dispatch`: first the schedules of the configuration, then those of the tables. -/
def careReminderDispatch (config : Json) (clock : ReminderClock) (db : CareDb) : ReminderRun :=
  match config.valueAt Json.asString ["global", "device_id"] "", reminderDefaults config with
  | none, _ => ⟨db, [], none⟩
  | some deviceId, defaults =>
      if deviceId = "" then ⟨db, [], some ⟨false, 0, "No device_id in config", []⟩⟩
      else
        match defaults with
        | none => ⟨db, [], none⟩
        | some defaults =>
            let calls := configReminders config deviceId defaults clock.process
            let db := calls.1.foldl insertReminder db
            if calls.2 then dispatchDue deviceId defaults calls.1.length clock db
            else ⟨db, [], none⟩

/-! ## What a run inserts -/

/-- The settings of the job, as it reads them. -/
structure ReminderReads (config : Json) (deviceId : String) (defaults : ReminderDefaults) :
    Prop where
  device : config.valueAt Json.asString ["global", "device_id"] "" = some deviceId
  nonempty : deviceId ≠ ""
  jobDefaults : reminderDefaults config = some defaults

variable {config : Json} {deviceId : String} {defaults : ReminderDefaults}
  {clock : ReminderClock} {db : CareDb} {wall : ℤ}

theorem careReminderDispatch_of_reads (hreads : ReminderReads config deviceId defaults) :
    careReminderDispatch config clock db =
      let calls := configReminders config deviceId defaults clock.process
      let db := calls.1.foldl insertReminder db
      if calls.2 then dispatchDue deviceId defaults calls.1.length clock db
      else ⟨db, [], none⟩ := by
  simp only [careReminderDispatch, hreads.device, hreads.jobDefaults, if_neg hreads.nonempty]

theorem mem_of_mem_untilThrow {α : Type} {calls : List (Option α)} {result : α}
    (hresult : result ∈ (untilThrow calls).1) : some result ∈ calls := by
  induction calls with
  | nil => cases hresult
  | cons call rest ih =>
      cases call with
      | none => cases hresult
      | some first =>
          rcases List.mem_cons.mp hresult with rfl | hresult
          · exact List.mem_cons_self
          · exact List.mem_cons_of_mem _ (ih hresult)

theorem configReminder_eq_some {schedule : Json} {r : Reminder}
    (hr : configReminder deviceId defaults wall schedule = some (some r)) :
    ∃ s, ConfigSchedule.read defaults schedule = some s ∧ r = s.reminder deviceId (dayOf wall) := by
  unfold configReminder at hr
  obtain ⟨s, hs, hr⟩ := Option.bind_eq_some_iff.mp hr
  refine ⟨s, hs, ?_⟩
  split at hr
  · obtain ⟨dayMatches, -, hr⟩ := Option.bind_eq_some_iff.mp hr
    cases dayMatches with
    | false => simp at hr
    | true => simpa using hr.symm
  · simp at hr

theorem dueReminder_eq_some {key : String} {c : CareSchedule} {r : Reminder}
    (hr : dueReminder defaults key c = some r) :
    r.dedupeKey = careRemindKey c.careScheduleId key ∧ r.payload.get? "source" = none := by
  unfold dueReminder at hr
  obtain ⟨careType, -, hr⟩ := Option.bind_eq_some_iff.mp hr
  obtain ⟨title, -, hr⟩ := Option.bind_eq_some_iff.mp hr
  cases hr
  exact ⟨rfl, rfl⟩

theorem dedupeKey_of_mem_configReminders {r : Reminder}
    (hr : r ∈ (configReminders config deviceId defaults wall).1) :
    ∃ careType, r.dedupeKey = configRemindKey careType (dateKey (dayOf wall)) := by
  have hcall : some r ∈ (untilThrow _).1 := List.reduceOption_mem_iff.mp hr
  obtain ⟨schedule, -, hcall⟩ := List.mem_map.mp (mem_of_mem_untilThrow hcall)
  obtain ⟨s, -, rfl⟩ := configReminder_eq_some hcall
  exact ⟨s.careType, rfl⟩

theorem exists_of_mem_dueReminders {fetched : List CareSchedule} {r : Reminder}
    (hr : r ∈ (dueReminders defaults clock fetched).1) :
    ∃ key c, dueReminder defaults key c = some r := by
  obtain ⟨i, hi, hcall⟩ := List.mem_mapIdx.mp (mem_of_mem_untilThrow hr)
  exact ⟨_, _, hcall⟩

/-- The keys of the two modes differ. -/
theorem configRemindKey_ne_careRemindKey (careType id key key' : String) :
    configRemindKey careType key ≠ careRemindKey id key' := by
  intro h
  unfold configRemindKey careRemindKey at h
  have hchars := congrArg String.toList h
  have hconfig : "CFG_CARE_REMIND_".toList = 'C' :: 'F' :: "G_CARE_REMIND_".toList := by decide
  have hcare : "CARE_REMIND_".toList = 'C' :: 'A' :: "RE_REMIND_".toList := by decide
  simp only [String.toList_append, hconfig, hcare, List.cons_append, List.cons.injEq] at hchars
  exact absurd hchars.2.1 (by decide)

theorem insertReminder_tables (db : CareDb) (r : Reminder) :
    (insertReminder db r).careSchedules = db.careSchedules ∧
      (insertReminder db r).users = db.users := by
  unfold insertReminder
  split <;> exact ⟨rfl, rfl⟩

theorem foldl_insertReminder_tables (reminders : List Reminder) :
    (reminders.foldl insertReminder db).careSchedules = db.careSchedules ∧
      (reminders.foldl insertReminder db).users = db.users := by
  induction reminders generalizing db with
  | nil => exact ⟨rfl, rfl⟩
  | cons r rest ih =>
      obtain ⟨hcare, husers⟩ := insertReminder_tables db r
      rw [List.foldl_cons, ← hcare, ← husers]
      exact ih

/-- Other keys are not touched. -/
theorem mem_dedupeKeys_insertReminder_iff {r : Reminder} {k : String} (hk : r.dedupeKey ≠ k) :
    k ∈ (insertReminder db r).dedupeKeys ↔ k ∈ db.dedupeKeys := by
  unfold insertReminder
  split
  · rfl
  · cases reminderUser db r with
    | none => simp [CareDb.dedupeKeys, CareDb.notify]
    | some userId => simp [CareDb.dedupeKeys, CareDb.notify, reminderRow, hk.symm]

theorem mem_dedupeKeys_foldl_iff {reminders : List Reminder} {k : String}
    (hk : ∀ r ∈ reminders, r.dedupeKey ≠ k) :
    k ∈ (reminders.foldl insertReminder db).dedupeKeys ↔ k ∈ db.dedupeKeys := by
  induction reminders generalizing db with
  | nil => rfl
  | cons r rest ih =>
      obtain ⟨hfirst, hrest⟩ := List.forall_mem_cons.mp hk
      rw [List.foldl_cons, ih hrest, mem_dedupeKeys_insertReminder_iff hfirst]

/-- The query of mode 2 does not see what mode 1 has inserted. -/
theorem fetchDueSchedules_configReminders {session : Session} :
    fetchDueSchedules session deviceId
        ((configReminders config deviceId defaults wall).1.foldl insertReminder db) =
      fetchDueSchedules session deviceId db := by
  -- mode 1 inserts under keys of its own, and the query looks for those of mode 2
  have hkeys : ∀ c : CareSchedule, careRemindKey c.careScheduleId session.dateKey ∈
      ((configReminders config deviceId defaults wall).1.foldl insertReminder db).dedupeKeys ↔
      careRemindKey c.careScheduleId session.dateKey ∈ db.dedupeKeys := by
    refine fun c => mem_dedupeKeys_foldl_iff fun r hr => ?_
    obtain ⟨careType, hkey⟩ := dedupeKey_of_mem_configReminders hr
    rw [hkey]
    exact configRemindKey_ne_careRemindKey _ _ _ _
  unfold fetchDueSchedules
  rw [(foldl_insertReminder_tables _).1]
  refine List.filter_congr fun c _ => decide_eq_decide.mpr ?_
  simp only [due, hkeys c]

/-- A run that comes to mode 2 executes the query as it would on the tables before the
run. -/
theorem fetched_of_finished (hreads : ReminderReads config deviceId defaults)
    (hfinished : (configReminders config deviceId defaults clock.process).2 = true) :
    (careReminderDispatch config clock db).fetched =
      fetchDueSchedules clock.session deviceId db := by
  rw [careReminderDispatch_of_reads hreads]
  simp only [hfinished, if_true, dispatchDue]
  exact fetchDueSchedules_configReminders

end OroEdge.Jobs
