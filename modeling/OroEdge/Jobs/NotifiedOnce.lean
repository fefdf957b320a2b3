import OroEdge.Jobs.DataCleanup
import OroEdge.Jobs.Overdue
import OroEdge.Jobs.Reminder
import OroEdge.Lib.DatedKey

/-!
# Notified once

The care jobs insert a notification unless its key is stored, and `data_cleanup` deletes old ones.
So a key that has been inserted could come again after a cleanup.  It does not: a key ends with a
date, and when its row is old enough to be deleted, that date is over on every clock
(`notifiedOnce_of_timely`).

The statements of the jobs are interleaved freely: with each other, with cleanups, with the rows
that other jobs insert, and with changes of the tables that the statements read.  A job is a
sequence of them (`db_reminders`, `notifications_checkOverdue`).

A key can come twice only if its row has been deleted in between, and this needs three times. 
The two insertions make one key, so the clocks that they read show one date, and the statements
are less than a day and twice the spread of the clocks apart (`DatedNear.lt_add`).  The cleanup
between them keeps what is younger than that.  So the row is still there, and the second
insertion adds nothing (`fresh_of_mem_inserted`); `mem_run_or_expired` carries the row through
the statements in between.
-/

namespace OroEdge.Jobs.Notified

open OroEdge.Lib OroEdge.Scheduler

/-! ## Statements -/

/-- The tables that the care jobs read, and the rows of `oro_base_notifications` with
`generated_at`. -/
structure Store where
  tables : CareDb
  rows : List (Timed Notification)

/-- The tables as the jobs see them. -/
def Store.db (s : Store) : CareDb := { s.tables with notifications := s.rows.map Timed.row }

/-- The statements that read or write the tables of the care jobs. -/
inductive CareStatement
  | overdueFeeding (session : Session) (deviceId : String)
  | overdueCare (session : Session) (deviceId : String)
  | remind (reminder : Reminder)
  | cleanup (ok : Bool) (retentionDays : ℤ)
  | edit (tables : CareDb)
  | other (row : Notification)

/-- A statement, and `NOW()` in its transaction. -/
structure Action where
  now : ℤ
  statement : CareStatement

/-- The rows that a statement of the care jobs inserts. -/
def inserted (s : Store) (a : Action) : List Notification :=
  match a.statement with
  | .overdueFeeding session deviceId => emitOverdueFeeding session deviceId s.db
  | .overdueCare session deviceId => emitOverdueCare session deviceId s.db
  | .remind r =>
      if r.dedupeKey ∈ s.db.dedupeKeys then [] else ((reminderUser s.db r).map (reminderRow r)).toList
  | _ => []

/-- The rows are inserted at a time. -/
def Store.add (s : Store) (now : ℤ) (rows : List Notification) : Store :=
  { s with rows := s.rows ++ rows.map fun row => ⟨row, now⟩ }

def step (s : Store) (a : Action) : Store :=
  match a.statement with
  | .cleanup ok retentionDays =>
      { s with rows := (deleteWhere ok (expired a.now retentionDays) s.rows).1 }
  | .edit tables => { s with tables := tables }
  | .other row => s.add a.now [row]
  | _ => s.add a.now (inserted s a)

/-! ## The jobs -/

theorem db_add (s : Store) (now : ℤ) (rows : List Notification) :
    (s.add now rows).db = s.db.notify rows := by
  unfold Store.add Store.db CareDb.notify
  dsimp only
  rw [List.map_append, List.map_map]
  exact congrArg (fun added : List Notification =>
    { s.tables with notifications := s.rows.map Timed.row ++ added }) (List.map_id rows)

theorem notify_nil (db : CareDb) : db.notify [] = db := by
  unfold CareDb.notify
  rw [List.append_nil]

theorem db_step_remind (s : Store) (now : ℤ) (r : Reminder) :
    (step s ⟨now, .remind r⟩).db = insertReminder s.db r := by
  have hstep : step s ⟨now, .remind r⟩ = s.add now (inserted s ⟨now, .remind r⟩) := rfl
  rw [hstep, db_add]
  unfold insertReminder inserted
  dsimp only
  split_ifs
  · exact notify_nil _
  · rfl

/-- The reminders of a run of `care_reminder_dispatch`. -/
def runReminders (config : Json) (clock : ReminderClock) (db : CareDb) : List Reminder :=
  match config.valueAt Json.asString ["global", "device_id"] "", reminderDefaults config with
  | none, _ => []
  | some deviceId, defaults =>
      if deviceId = "" then []
      else
        match defaults with
        | none => []
        | some defaults =>
            let calls := configReminders config deviceId defaults clock.process
            let db := calls.1.foldl insertReminder db
            if calls.2 then
              calls.1 ++
                (dueReminders defaults clock (fetchDueSchedules clock.session deviceId db)).1
            else calls.1

theorem db_careReminderDispatch (config : Json) (clock : ReminderClock) (db : CareDb) :
    (careReminderDispatch config clock db).db =
      (runReminders config clock db).foldl insertReminder db := by
  unfold careReminderDispatch runReminders
  cases config.valueAt Json.asString ["global", "device_id"] "" with
  | none => rfl
  | some deviceId =>
      dsimp only
      split_ifs
      · rfl
      · cases reminderDefaults config with
        | none => rfl
        | some defaults =>
            dsimp only
            split_ifs
            · rw [List.foldl_append]
              rfl
            · rfl

/-- A run of `care_reminder_dispatch` is the statements of its reminders. -/
theorem db_reminders (s : Store) (now : ℤ) (config : Json) (clock : ReminderClock) :
    (run step s ((runReminders config clock s.db).map fun r => ⟨now, .remind r⟩)).db =
      (careReminderDispatch config clock s.db).db := by
  rw [db_careReminderDispatch]
  generalize runReminders config clock s.db = reminders
  induction reminders generalizing s with
  | nil => rfl
  | cons r rest ih => rw [List.map_cons, run_cons, ih, db_step_remind, List.foldl_cons]

/-- The event is inserted beside the notifications. -/
theorem dispatchOverdue_eq (db : CareDb) (rows : List Notification) (event : CareEvent) :
    dispatchOverdue db rows event =
      { db.notify rows with events := (dispatchOverdue db rows event).events } := by
  unfold dispatchOverdue
  split
  · rename_i hempty
    rw [List.isEmpty_iff.mp hempty, notify_nil]
  · rfl

/-- A run of `overdue_task_checker` is the statements for the two tables, and events beside. -/
theorem notifications_checkOverdue (s : Store) (now now' : ℤ) (deviceId timezone : String)
    (graceMinutes : ℤ) (clock : OverdueClock) :
    (run step s [⟨now, .overdueFeeding clock.feeding deviceId⟩,
        ⟨now', .overdueCare clock.care deviceId⟩]).db.notifications =
      (checkOverdue deviceId timezone graceMinutes clock s.db).2.notifications := by
  have hstep : run step s [⟨now, .overdueFeeding clock.feeding deviceId⟩,
      ⟨now', .overdueCare clock.care deviceId⟩] =
      let first := s.add now (emitOverdueFeeding clock.feeding deviceId s.db)
      first.add now' (emitOverdueCare clock.care deviceId first.db) := rfl
  rw [hstep]
  dsimp only [checkOverdue]
  rw [db_add, db_add, dispatchOverdue_eq, dispatchOverdue_eq s.db]
  rfl

/-! ## Keys and clocks -/

/-- A clock that is off `now` by no more than `spread`, in a year of four digits. -/
structure Near (spread now wall : ℤ) : Prop where
  behind : now - spread ≤ wall
  ahead : wall ≤ now + spread
  fourDigits : FourDigits (dayOf wall)

/-- The key ends with the date that such a clock shows. -/
def DatedNear (spread now : ℤ) (key : String) : Prop :=
  ∃ stem wall, Near spread now wall ∧ key = datedKey stem (dayOf wall)

/-- The clocks are near the time of the statement, whatever their zones are, and a cleanup keeps
what is less than a day and twice the spread old. -/
def Action.Timely (spread : ℤ) (a : Action) : Prop :=
  match a.statement with
  | .overdueFeeding session _ => Near spread a.now session.wall
  | .overdueCare session _ => Near spread a.now session.wall
  | .remind r => DatedNear spread a.now r.dedupeKey
  | .cleanup _ retentionDays => dayMicros + 2 * spread ≤ retentionDays * dayMicros
  | _ => True

section

variable {s : Store} {a : Action} {spread : ℤ} {row : Notification}

/-- What is inserted is not stored. -/
theorem fresh_of_mem_inserted (hrow : row ∈ inserted s a) : row.dedupeKey ∉ s.db.dedupeKeys := by
  unfold inserted at hrow
  split at hrow
  · obtain ⟨-, f, -, hoverdue, -, hkey⟩ :=
      key_mem_emitOverdueFeeding_iff.mp (List.mem_map_of_mem hrow)
    exact hkey ▸ hoverdue.2.2.2
  · obtain ⟨-, c, -, hoverdue, -, hkey⟩ :=
      key_mem_emitOverdueCare_iff.mp (List.mem_map_of_mem hrow)
    exact hkey ▸ hoverdue.2.2.2.2
  · split_ifs at hrow with hstored
    · cases hrow
    · obtain ⟨userId, -, rfl⟩ := Option.map_eq_some_iff.mp (Option.mem_toList.mp hrow)
      exact hstored
  · cases hrow

theorem datedNear_of_mem_inserted (htimely : a.Timely spread) (hrow : row ∈ inserted s a) :
    DatedNear spread a.now row.dedupeKey := by
  unfold inserted at hrow
  unfold Action.Timely at htimely
  split at hrow
  · rename_i session deviceId hstatement
    rw [hstatement] at htimely
    obtain ⟨-, f, -, -, -, hkey⟩ := key_mem_emitOverdueFeeding_iff.mp (List.mem_map_of_mem hrow)
    exact ⟨_, session.wall, htimely, hkey.symm⟩
  · rename_i session deviceId hstatement
    rw [hstatement] at htimely
    obtain ⟨-, c, -, -, -, hkey⟩ := key_mem_emitOverdueCare_iff.mp (List.mem_map_of_mem hrow)
    exact ⟨_, session.wall, htimely, hkey.symm⟩
  · rename_i r hstatement
    rw [hstatement] at htimely
    split_ifs at hrow
    · cases hrow
    · obtain ⟨userId, -, rfl⟩ := Option.map_eq_some_iff.mp (Option.mem_toList.mp hrow)
      exact htimely
  · cases hrow

/-- Two statements that make one key are less than a day and twice the spread apart. -/
theorem DatedNear.lt_add {now now' : ℤ} {key : String} (hfirst : DatedNear spread now key)
    (hsecond : DatedNear spread now' key) : now' < now + dayMicros + 2 * spread := by
  obtain ⟨stem, wall, hwall, rfl⟩ := hfirst
  obtain ⟨stem', wall', hwall', hkey⟩ := hsecond
  have hday := day_eq_of_datedKey_eq hwall.fourDigits hwall'.fourDigits hkey
  have hahead := hwall.ahead
  have hbehind := hwall'.behind
  unfold dayOf dayMicros at hday
  unfold dayMicros
  omega

end

/-! ## What becomes of a row -/

section

variable {s : Store} {row : Timed Notification}

/-- Only a cleanup removes a row, and only an old one. -/
theorem mem_step_or_expired (hrow : row ∈ s.rows) (a : Action) :
    row ∈ (step s a).rows ∨ ∃ ok retentionDays, a.statement = .cleanup ok retentionDays ∧
      row.time < retentionCutoff a.now retentionDays := by
  have hadd (rows : List Notification) : row ∈ (s.add a.now rows).rows :=
    List.mem_append_left _ hrow
  unfold step
  split
  · rename_i ok retentionDays hstatement
    by_cases hold : row.time < retentionCutoff a.now retentionDays
    · exact Or.inr ⟨ok, retentionDays, hstatement, hold⟩
    · refine Or.inl ?_
      unfold deleteWhere
      split_ifs
      · exact List.mem_filter.mpr ⟨hrow, by simp [expired, hold]⟩
      · exact hrow
  · exact Or.inl hrow
  · exact Or.inl (hadd _)
  · exact Or.inl (hadd _)

theorem mem_run_or_expired (hrow : row ∈ s.rows) (actions : List Action) :
    row ∈ (run step s actions).rows ∨ ∃ a ∈ actions, ∃ ok retentionDays,
      a.statement = .cleanup ok retentionDays ∧
        row.time < retentionCutoff a.now retentionDays := by
  induction actions generalizing s with
  | nil => exact Or.inl hrow
  | cons a rest ih =>
      rcases mem_step_or_expired hrow a with hkept | hexpired
      · refine (ih hkept).imp_right ?_
        rintro ⟨cleanup, hmem, hexpired⟩
        exact ⟨cleanup, List.mem_cons_of_mem _ hmem, hexpired⟩
      · exact Or.inr ⟨a, List.mem_cons_self, hexpired⟩

theorem mem_step_of_mem_inserted {a : Action} {row : Notification} (hrow : row ∈ inserted s a) :
    ⟨row, a.now⟩ ∈ (step s a).rows := by
  have hadd : step s a = s.add a.now (inserted s a) := by
    unfold step
    unfold inserted at hrow
    split
    · rename_i ok retentionDays hstatement
      rw [hstatement] at hrow
      cases hrow
    · rename_i tables hstatement
      rw [hstatement] at hrow
      cases hrow
    · rename_i other hstatement
      rw [hstatement] at hrow
      cases hrow
    · rfl
  rw [hadd]
  exact List.mem_append_right _ (List.mem_map_of_mem hrow)

end

/-! ## Once -/

/-- The statements come in the order of their times, and their clocks are near these. -/
structure TimelyRun (spread : ℤ) (actions : List Action) : Prop where
  ordered : (actions.map Action.now).Pairwise (· ≤ ·)
  timely : ∀ a ∈ actions, a.Timely spread

/-- No two statements of the run insert rows of one key. -/
def NotifiedOnce (s : Store) (actions : List Action) : Prop :=
  ∀ earlier a between a' later, actions = earlier ++ a :: (between ++ a' :: later) →
    ∀ row ∈ inserted (run step s earlier) a,
      ∀ row' ∈ inserted (run step s (earlier ++ a :: between)) a', row.dedupeKey ≠ row'.dedupeKey

/-- **Notified once.**  As long as every cleanup keeps what is less than a day and twice the spread
of the clocks old, no key is inserted by two statements, whatever is cleaned up, inserted and
changed between them. -/
theorem notifiedOnce_of_timely {spread : ℤ} (s : Store) {actions : List Action}
    (htimely : TimelyRun spread actions) : NotifiedOnce s actions := by
  rintro earlier a between a' later rfl row hrow row' hrow' hkey
  obtain ⟨-, hlater, -⟩ := List.pairwise_append.mp (List.pairwise_map.mp htimely.ordered)
  obtain ⟨-, -, horder⟩ := List.pairwise_append.mp (List.pairwise_cons.mp hlater).2
  have hall := htimely.timely
  have ha := hall a (List.mem_append_right _ List.mem_cons_self)
  have ha' := hall a' (List.mem_append_right _
    (List.mem_cons_of_mem _ (List.mem_append_right _ List.mem_cons_self)))
  have hnear : DatedNear spread a'.now row.dedupeKey :=
    hkey ▸ datedNear_of_mem_inserted ha' hrow'
  have hsoon := (datedNear_of_mem_inserted ha hrow).lt_add hnear
  rw [run_append, run_cons] at hrow'
  rcases mem_run_or_expired (mem_step_of_mem_inserted hrow) between with hkept |
    ⟨cleanup, hmem, ok, retentionDays, hstatement, hold⟩
  · -- The row is still there, so that its key is stored.
    refine fresh_of_mem_inserted hrow' ?_
    rw [← hkey]
    exact List.mem_map_of_mem (List.mem_map_of_mem hkept)
  · -- It is gone, so that its date is over.
    have hkeeps := hall cleanup (List.mem_append_right _
      (List.mem_cons_of_mem _ (List.mem_append_left _ hmem)))
    unfold Action.Timely at hkeeps
    rw [hstatement] at hkeeps
    have hbefore : cleanup.now ≤ a'.now := horder cleanup hmem a' List.mem_cons_self
    unfold retentionCutoff at hold
    dsimp only at hold hkeeps
    omega

/-! ### Two months -/

/-- The reminder of a care schedule on a day, for a user. -/
def walkReminder (day : ℤ) : Reminder where
  deviceId := "dev"
  dogId := none
  userId := some "user"
  category := "Care"
  notificationKey := "care_reminder_walk"
  title := "Care Task: Walk"
  message := "Walk"
  priority := "medium"
  triggerMode := "scheduled"
  payload := .obj []
  dedupeKey := careRemindKey "walk" (dateKey day)

def emptyTables : CareDb := ⟨[], [], [], [], [], [], List.nodup_nil, List.nodup_nil⟩

/-- The reminder of a day is tried twice; 31 days later its row is deleted, and the reminder of the
new day comes. -/
def twoMonths : List Action :=
  [⟨20000 * dayMicros, .remind (walkReminder 20000)⟩,
    ⟨20000 * dayMicros + minuteMicros, .remind (walkReminder 20000)⟩,
    ⟨20031 * dayMicros, .cleanup true 30⟩,
    ⟨20031 * dayMicros + 1, .remind (walkReminder 20031)⟩]

theorem datedNear_walkReminder {day now : ℤ} (wall : ℤ) (hnear : Near dayMicros now wall)
    (hday : dayOf wall = day) : DatedNear dayMicros now (walkReminder day).dedupeKey :=
  ⟨"CARE_REMIND_" ++ "walk" ++ "_", wall, hnear, hday ▸ rfl⟩

theorem timelyRun_twoMonths : TimelyRun dayMicros twoMonths where
  ordered := by decide
  timely := by
    intro a ha
    simp only [twoMonths, List.mem_cons, List.not_mem_nil, or_false] at ha
    rcases ha with rfl | rfl | rfl | rfl
    · exact datedNear_walkReminder (20000 * dayMicros)
        ⟨by decide, by decide, (fourDigits_iff _).mpr (by decide)⟩ (by decide)
    · exact datedNear_walkReminder (20000 * dayMicros)
        ⟨by decide, by decide, (fourDigits_iff _).mpr (by decide)⟩ (by decide)
    · show dayMicros + 2 * dayMicros ≤ 30 * dayMicros
      decide
    · exact datedNear_walkReminder (20031 * dayMicros)
        ⟨by decide, by decide, (fourDigits_iff _).mpr (by decide)⟩ (by decide)

/-- The second try inserts nothing, and the first row is gone when the last is inserted. -/
theorem notifiedOnce_of_timely_twoMonths :
    NotifiedOnce ⟨emptyTables, []⟩ twoMonths ∧
      (run step ⟨emptyTables, []⟩ twoMonths).rows.map (fun row => row.row.dedupeKey) =
        ["CARE_REMIND_walk_20241104"] :=
  ⟨notifiedOnce_of_timely _ timelyRun_twoMonths, by decide +kernel⟩

end OroEdge.Jobs.Notified
