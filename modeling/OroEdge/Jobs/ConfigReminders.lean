import OroEdge.Jobs.Reminder
import OroEdge.Lib.Dedupe
import OroEdge.Lib.Run

/-!
# One notification for each schedule of the configuration

On a day on which `care_reminder_dispatch` runs once in each minute, mode 1 tries
to insert one reminder for each schedule that matches the day, in the minute of its
`due_time`.  The dedupe key of a reminder is made of the care type and the date
only, so of the schedules of one care type the first to come gets its notification
and the others get none.

The proof follows the insert: what a list of reminders adds to the table is the
list of those `admitted` by their keys, whatever mode 2 adds in between.

`Adds` is what a piece of a run has added, in terms of the reminders that mode 1 has tried, and
it composes (`Adds.trans`), so that the day is treated as one long insert of all the reminders
of its runs.  Each matching schedule is tried once, in the run of its minute (`requests_perm`);
in which order two schedules come does not matter, because `admitted` takes one of each key in
any order (`titles_eq_admitted`), and the keys of two schedules are equal exactly if their care
types are (`configRemindKey_injective`).
-/

namespace OroEdge.Jobs

open OroEdge.Lib

/-! ## The schedules that match a day -/

namespace ConfigSchedule

/-- The `due_time` is a time of day. -/
def WellFormed (s : ConfigSchedule) : Prop :=
  ∃ hour minute, s.dueClock = some (hour, minute) ∧ 0 ≤ hour ∧ hour < 24 ∧ 0 ≤ minute ∧ minute < 60

theorem dueClock_of_scan {s : ConfigSchedule} {hour minute : ℤ} {rest : List ℤ}
    (hscan : scanTriple ':' s.dueTime = hour :: minute :: rest) :
    s.dueClock = some (hour, minute) := by
  unfold dueClock
  rw [hscan]

/-- The minute of the day in `due_time`. -/
def dueMinute (s : ConfigSchedule) : ℕ :=
  match s.dueClock with
  | some (hour, minute) => (60 * hour + minute).toNat
  | none => 0

end ConfigSchedule

/-- The minute of the day of a local time. -/
def minuteOfDay (wall : ℤ) : ℕ := (timeOfDay wall / minuteMicros).toNat

/-- The fields that the loop reads of the schedule are strings, and its `due_time` is a
time of day. -/
def Readable (defaults : ReminderDefaults) (schedule : Json) : Prop :=
  ∃ s, ConfigSchedule.read defaults schedule = some s ∧ s.WellFormed ∧
    (s.recurrence = "weekly" → (schedule.value Json.asString "recurrence_day" "").isSome)

/-- The schedule, when its recurrence or its date matches the day. -/
def matchOn (defaults : ReminderDefaults) (day : ℤ) (schedule : Json) : Option ConfigSchedule := do
  let s ← ConfigSchedule.read defaults schedule
  if s.dayMatches schedule day = some true then some s else none

/-- The schedules that are due on a day. -/
def matching (defaults : ReminderDefaults) (day : ℤ) (schedules : List Json) :
    List ConfigSchedule :=
  schedules.filterMap (matchOn defaults day)

variable {config : Json} {deviceId userId : String} {defaults : ReminderDefaults} {wall day : ℤ}
  {db : CareDb}

theorem timeMatches_iff {s : ConfigSchedule} (hs : s.WellFormed) :
    s.timeMatches wall ↔ s.dueMinute = minuteOfDay wall := by
  obtain ⟨hour, minute, hclock, hhour, hhour', hminute, hminute'⟩ := hs
  have hnonneg : 0 ≤ timeOfDay wall := Int.emod_nonneg _ (by decide)
  unfold ConfigSchedule.timeMatches ConfigSchedule.dueMinute minuteOfDay tmHour tmMin
  simp only [hclock, Option.some.injEq, Prod.mk.injEq]
  unfold hourMicros minuteMicros
  omega

theorem dueMinute_lt {s : ConfigSchedule} (hs : s.WellFormed) : s.dueMinute < 1440 := by
  obtain ⟨hour, minute, hclock, hhour, hhour', hminute, hminute'⟩ := hs
  unfold ConfigSchedule.dueMinute
  simp only [hclock]
  omega

theorem wellFormed_of_mem_matching {schedules : List Json}
    (hreadable : ∀ schedule ∈ schedules, Readable defaults schedule) {s : ConfigSchedule}
    (hs : s ∈ matching defaults day schedules) : s.WellFormed := by
  obtain ⟨schedule, hschedule, hmatch⟩ := List.mem_filterMap.mp hs
  obtain ⟨s', hread, hwell, -⟩ := hreadable schedule hschedule
  simp only [matchOn, hread, Option.bind_eq_bind, Option.bind_some] at hmatch
  split at hmatch
  · cases hmatch
    exact hwell
  · cases hmatch

/-! ## What one run of mode 1 asks for -/

theorem dayMatches_isSome {schedule : Json} {s : ConfigSchedule}
    (hweekly : s.recurrence = "weekly" →
      (schedule.value Json.asString "recurrence_day" "").isSome) (day : ℤ) :
    (s.dayMatches schedule day).isSome := by
  unfold ConfigSchedule.dayMatches ConfigSchedule.recurs
  simp only [Option.isSome_map]
  split_ifs with hdaily hrecurrence
  · rfl
  · rw [Option.isSome_map]
    exact hweekly hrecurrence
  all_goals rfl

/-- A schedule is asked for in the minute of its time, on a day that it matches. -/
theorem configReminder_of_readable {schedule : Json} (hreadable : Readable defaults schedule)
    (hday : dayOf wall = day) :
    configReminder deviceId defaults wall schedule =
      some ((((matchOn defaults day schedule).filter fun s => s.timeMatches wall)).map
        fun s => s.reminder deviceId day) := by
  obtain ⟨s, hread, -, hweekly⟩ := hreadable
  obtain ⟨dayMatches, hmatches⟩ :=
    Option.isSome_iff_exists.mp (dayMatches_isSome hweekly day)
  subst hday
  unfold configReminder matchOn
  simp only [hread, Option.bind_eq_bind, Option.bind_some, hmatches]
  cases dayMatches with
  | false => by_cases htime : s.timeMatches wall <;> simp [htime]
  | true => by_cases htime : s.timeMatches wall <;> simp [htime]

theorem untilThrow_map_some {α : Type} (results : List α) :
    untilThrow (results.map some) = (results, true) := by
  induction results with
  | nil => rfl
  | cons result rest ih => simp [untilThrow, ih]

theorem reduceOption_matchOn (schedules : List Json) :
    (schedules.map fun schedule =>
      ((matchOn defaults day schedule).filter fun s => s.timeMatches wall).map
        fun s => s.reminder deviceId day).reduceOption =
      ((matching defaults day schedules).filter fun s => s.timeMatches wall).map
        fun s => s.reminder deviceId day := by
  unfold matching
  induction schedules with
  | nil => rfl
  | cons schedule rest ih =>
      rw [List.map_cons, List.filterMap_cons]
      cases hmatch : matchOn defaults day schedule with
      | none => simpa [List.reduceOption_cons_of_none] using ih
      | some s =>
          by_cases htime : s.timeMatches wall
          · simpa [Option.filter_some, htime, List.reduceOption_cons_of_some] using ih
          · simpa [Option.filter_some, htime, List.reduceOption_cons_of_none] using ih

/-- Mode 1 comes to its end, and asks for the matching schedules of the minute. -/
theorem configReminders_of_readable
    (hreadable : ∀ schedule ∈ careSchedules config, Readable defaults schedule)
    (hday : dayOf wall = day) :
    configReminders config deviceId defaults wall =
      (((matching defaults day (careSchedules config)).filter fun s => s.timeMatches wall).map
        fun s => s.reminder deviceId day, true) := by
  unfold configReminders
  have hcalls : (careSchedules config).map (configReminder deviceId defaults wall) =
      ((careSchedules config).map fun schedule =>
        (((matchOn defaults day schedule).filter fun s => s.timeMatches wall)).map
          fun s => s.reminder deviceId day).map some := by
    rw [List.map_map]
    exact List.map_congr_left fun schedule hschedule =>
      configReminder_of_readable (hreadable schedule hschedule) hday
  rw [hcalls, untilThrow_map_some]
  exact congrArg (·, true) (reduceOption_matchOn _)

/-! ## What inserts add -/

/-- The notification comes from mode 1. -/
def fromConfig (n : Notification) : Bool :=
  match n.payload.get? "source" with
  | some (.str source) => source = "config_validation"
  | _ => false

theorem fromConfig_reminder (s : ConfigSchedule) (deviceId : String) (day : ℤ) (userId : String) :
    fromConfig (reminderRow (s.reminder deviceId day) userId) = true := rfl

theorem fromConfig_dueReminder {key userId : String} {c : CareSchedule} {r : Reminder}
    (hr : dueReminder defaults key c = some r) : fromConfig (reminderRow r userId) = false := by
  obtain ⟨-, hsource⟩ := dueReminder_eq_some hr
  simp only [fromConfig, reminderRow, hsource]

/-- From `db` to `after`, mode 1 has tried to insert `reminders` and mode 2 some of
its own: of `reminders` those admitted by their keys are added. -/
structure Adds (userId : String) (reminders : List Reminder) (db after : CareDb)
    (added : List Notification) : Prop where
  notifications : after.notifications = db.notifications ++ added
  users : after.users = db.users
  config : added.filter fromConfig =
    (admitted Reminder.dedupeKey db.dedupeKeys reminders).map fun r => reminderRow r userId
  other : ∀ n ∈ added, fromConfig n = false → ∃ id key, n.dedupeKey = careRemindKey id key

variable {reminders more : List Reminder} {after last : CareDb} {added : List Notification}

theorem Adds.refl (userId : String) (db : CareDb) : Adds userId [] db db [] :=
  ⟨(List.append_nil _).symm, rfl, rfl, List.forall_mem_nil _⟩

/-- The stored keys of mode 1 after the inserts. -/
theorem Adds.mem_dedupeKeys_iff (hadds : Adds userId reminders db after added)
    (careType key : String) :
    configRemindKey careType key ∈ after.dedupeKeys ↔
      configRemindKey careType key ∈ db.dedupeKeys ++
        (admitted Reminder.dedupeKey db.dedupeKeys reminders).map Reminder.dedupeKey := by
  have hconfig : (∃ n ∈ added, n.dedupeKey = configRemindKey careType key) ↔
      ∃ r ∈ admitted Reminder.dedupeKey db.dedupeKeys reminders,
        r.dedupeKey = configRemindKey careType key := by
    constructor
    · rintro ⟨n, hn, hkey⟩
      cases hfrom : fromConfig n with
      | false =>
          obtain ⟨id, key', hother⟩ := hadds.other n hn hfrom
          exact absurd (hkey.symm.trans hother) (configRemindKey_ne_careRemindKey _ _ _ _)
      | true =>
          have hmem : n ∈ added.filter fromConfig := List.mem_filter.mpr ⟨hn, hfrom⟩
          rw [hadds.config] at hmem
          obtain ⟨r, hr, rfl⟩ := List.mem_map.mp hmem
          exact ⟨r, hr, hkey⟩
    · rintro ⟨r, hr, hkey⟩
      have hmem : reminderRow r userId ∈ added.filter fromConfig := by
        rw [hadds.config]
        exact List.mem_map_of_mem hr
      exact ⟨_, (List.mem_filter.mp hmem).1, hkey⟩
  simp only [CareDb.dedupeKeys, hadds.notifications, List.map_append, List.mem_append,
    List.mem_map] at hconfig ⊢
  rw [hconfig]

/-- One piece of a run after another. -/
theorem Adds.trans {addedMore : List Notification} (hfirst : Adds userId reminders db after added)
    (hsecond : Adds userId more after last addedMore)
    (hkeys : ∀ r ∈ more, ∃ careType key, r.dedupeKey = configRemindKey careType key) :
    Adds userId (reminders ++ more) db last (added ++ addedMore) := by
  constructor
  · rw [hsecond.notifications, hfirst.notifications, List.append_assoc]
  · rw [hsecond.users, hfirst.users]
  · -- the keys that mode 2 has stored meanwhile are not keys of `more`
    have hsame : admitted Reminder.dedupeKey after.dedupeKeys more =
        admitted Reminder.dedupeKey (db.dedupeKeys ++
          (admitted Reminder.dedupeKey db.dedupeKeys reminders).map Reminder.dedupeKey) more := by
      refine admitted_congr fun r hr => ?_
      obtain ⟨careType, key, hkey⟩ := hkeys r hr
      rw [hkey]
      exact hfirst.mem_dedupeKeys_iff careType key
    rw [List.filter_append, hfirst.config, hsecond.config, admitted_append, List.map_append,
      hsame]
  · intro n hn hfrom
    rcases List.mem_append.mp hn with hn | hn
    · exact hfirst.other n hn hfrom
    · exact hsecond.other n hn hfrom

/-- The user that the reminders of mode 1 get. -/
def deviceUser (db : CareDb) (deviceId : String) : Option String :=
  (db.users.find? fun u => u.deviceId = some deviceId).map User.userId

theorem adds_insertReminder_config (s : ConfigSchedule) (day : ℤ)
    (huser : deviceUser db deviceId = some userId) :
    ∃ added, Adds userId [s.reminder deviceId day] db
      (insertReminder db (s.reminder deviceId day)) added := by
  by_cases hkey : (s.reminder deviceId day).dedupeKey ∈ db.dedupeKeys
  · refine ⟨[], ?_⟩
    rw [insertReminder, if_pos hkey]
    exact ⟨(List.append_nil _).symm, rfl, by simp [admitted, hkey], List.forall_mem_nil _⟩
  · refine ⟨[reminderRow (s.reminder deviceId day) userId], ?_⟩
    have hreminder : reminderUser db (s.reminder deviceId day) = some userId := huser
    rw [insertReminder, if_neg hkey, hreminder]
    refine ⟨rfl, rfl, ?_, ?_⟩
    · simp [admitted, hkey, fromConfig_reminder]
    · intro n hn hfrom
      rw [List.mem_singleton.mp hn, fromConfig_reminder] at hfrom
      cases hfrom

theorem adds_insertReminder_due (userId : String) (db : CareDb) {key : String}
    {c : CareSchedule} {r : Reminder}
    (hr : dueReminder defaults key c = some r) :
    ∃ added, Adds userId [] db (insertReminder db r) added := by
  unfold insertReminder
  split
  · exact ⟨[], Adds.refl userId db⟩
  · refine ⟨((reminderUser db r).map (reminderRow r)).toList, rfl, rfl, ?_, ?_⟩
    · cases reminderUser db r with
      | none => rfl
      | some user => simp [fromConfig_dueReminder hr, admitted]
    · intro n hn _
      obtain ⟨user, -, rfl⟩ := Option.map_eq_some_iff.mp (Option.mem_toList.mp hn)
      exact ⟨_, _, (dueReminder_eq_some hr).1⟩

theorem exists_key_of_mem_map {l : List ConfigSchedule} {r : Reminder}
    (hr : r ∈ l.map fun s => s.reminder deviceId day) :
    ∃ careType key, r.dedupeKey = configRemindKey careType key := by
  obtain ⟨s, -, rfl⟩ := List.mem_map.mp hr
  exact ⟨_, _, rfl⟩

theorem adds_foldl_config (l : List ConfigSchedule) (day : ℤ)
    (huser : deviceUser db deviceId = some userId) :
    ∃ added, Adds userId (l.map fun s => s.reminder deviceId day) db
      ((l.map fun s => s.reminder deviceId day).foldl insertReminder db) added := by
  induction l generalizing db with
  | nil => exact ⟨[], Adds.refl userId db⟩
  | cons s rest ih =>
      obtain ⟨first, hfirst⟩ := adds_insertReminder_config s day huser
      have huser' : deviceUser (insertReminder db (s.reminder deviceId day)) deviceId =
          some userId := by rw [deviceUser, hfirst.users]; exact huser
      obtain ⟨others, hothers⟩ := ih huser'
      exact ⟨first ++ others, hfirst.trans hothers fun r hr => exists_key_of_mem_map hr⟩

theorem adds_foldl_due (userId : String) (reminders : List Reminder)
    (hreminders : ∀ r ∈ reminders, ∃ key c, dueReminder defaults key c = some r) :
    ∃ added, Adds userId [] db (reminders.foldl insertReminder db) added := by
  induction reminders generalizing db with
  | nil => exact ⟨[], Adds.refl userId db⟩
  | cons r rest ih =>
      obtain ⟨⟨key, c, hr⟩, hrest⟩ := List.forall_mem_cons.mp hreminders
      obtain ⟨first, hfirst⟩ := adds_insertReminder_due userId db hr
      obtain ⟨others, hothers⟩ := ih hrest
      exact ⟨first ++ others, hfirst.trans hothers (List.forall_mem_nil _)⟩

/-! ## The runs of a day -/

/-- The tables after one run. -/
def dispatchStep (config : Json) (db : CareDb) (clock : ReminderClock) : CareDb :=
  (careReminderDispatch config clock db).db

/-- One run in each minute of the day, in order. -/
def OncePerMinute (day : ℤ) (clocks : List ReminderClock) : Prop :=
  clocks.map (fun clock => clock.process / minuteMicros) =
    (List.range 1440).map fun m : ℕ => day * 1440 + m

/-- The reminders that mode 1 asks for in one run. -/
def requests (config : Json) (deviceId : String) (defaults : ReminderDefaults) (day : ℤ)
    (wall : ℤ) : List Reminder :=
  ((matching defaults day (careSchedules config)).filter fun s => s.timeMatches wall).map
    fun s => s.reminder deviceId day

theorem adds_dispatchStep {clock : ReminderClock}
    (hreads : ReminderReads config deviceId defaults)
    (hreadable : ∀ schedule ∈ careSchedules config, Readable defaults schedule)
    (huser : deviceUser db deviceId = some userId) (hday : dayOf clock.process = day) :
    ∃ added, Adds userId (requests config deviceId defaults day clock.process) db
      (dispatchStep config db clock) added := by
  unfold dispatchStep
  rw [careReminderDispatch_of_reads hreads, configReminders_of_readable hreadable hday]
  simp only [if_true, dispatchDue]
  obtain ⟨first, hfirst⟩ := adds_foldl_config
    ((matching defaults day (careSchedules config)).filter fun s => s.timeMatches clock.process)
    day huser
  obtain ⟨others, hothers⟩ := adds_foldl_due userId
    (dueReminders defaults clock (fetchDueSchedules clock.session deviceId _)).1
    fun r hr => exists_of_mem_dueReminders hr
  refine ⟨first ++ others, ?_⟩
  -- the inserts of mode 2 add no reminders to those of mode 1
  rw [← List.append_nil (requests config deviceId defaults day clock.process)]
  exact hfirst.trans hothers (List.forall_mem_nil _)

theorem adds_run {clocks : List ReminderClock} (hreads : ReminderReads config deviceId defaults)
    (hreadable : ∀ schedule ∈ careSchedules config, Readable defaults schedule)
    (huser : deviceUser db deviceId = some userId)
    (hday : ∀ clock ∈ clocks, dayOf clock.process = day) :
    ∃ added, Adds userId
      (clocks.flatMap fun clock => requests config deviceId defaults day clock.process) db
      (run (dispatchStep config) db clocks) added := by
  induction clocks generalizing db with
  | nil => exact ⟨[], Adds.refl userId db⟩
  | cons clock rest ih =>
      obtain ⟨hclock, hrest⟩ := List.forall_mem_cons.mp hday
      obtain ⟨first, hfirst⟩ := adds_dispatchStep hreads hreadable huser hclock
      have huser' : deviceUser (dispatchStep config db clock) deviceId = some userId := by
        rw [deviceUser, hfirst.users]
        exact huser
      obtain ⟨others, hothers⟩ := ih huser' hrest
      refine ⟨first ++ others, hfirst.trans hothers fun r hr => ?_⟩
      obtain ⟨_, -, hr⟩ := List.mem_flatMap.mp hr
      exact exists_key_of_mem_map hr

theorem dayOf_eq_ediv (wall : ℤ) : dayOf wall = wall / minuteMicros / 1440 := by
  unfold dayOf dayMicros minuteMicros
  omega

theorem minuteOfDay_eq_emod (wall : ℤ) :
    minuteOfDay wall = (wall / minuteMicros % 1440).toNat := by
  unfold minuteOfDay timeOfDay dayMicros minuteMicros
  omega

theorem OncePerMinute.dayOf_eq {clocks : List ReminderClock} (hruns : OncePerMinute day clocks) :
    ∀ clock ∈ clocks, dayOf clock.process = day := by
  intro clock hclock
  have hmem : clock.process / minuteMicros ∈ (List.range 1440).map fun m : ℕ => day * 1440 + m := by
    rw [← hruns]
    exact List.mem_map_of_mem hclock
  obtain ⟨m, hm, hminute⟩ := List.mem_map.mp hmem
  have := List.mem_range.mp hm
  rw [dayOf_eq_ediv, ← hminute]
  omega

theorem OncePerMinute.map_minuteOfDay {clocks : List ReminderClock}
    (hruns : OncePerMinute day clocks) :
    clocks.map (fun clock => minuteOfDay clock.process) = List.range 1440 := by
  have hminutes := congrArg (List.map fun x : ℤ => (x % 1440).toNat) hruns
  simp only [List.map_map, Function.comp_def, ← minuteOfDay_eq_emod] at hminutes
  rw [hminutes]
  refine (List.map_congr_left fun m hm => ?_).trans (List.map_id _)
  have := List.mem_range.mp hm
  simp only [id]
  omega

/-- Over the day, each matching schedule is asked for once. -/
theorem requests_perm (deviceId : String) {clocks : List ReminderClock}
    (hruns : OncePerMinute day clocks)
    (hreadable : ∀ schedule ∈ careSchedules config, Readable defaults schedule) :
    (clocks.flatMap fun clock => requests config deviceId defaults day clock.process).Perm
      ((matching defaults day (careSchedules config)).map fun s => s.reminder deviceId day) := by
  have hwell : ∀ s ∈ matching defaults day (careSchedules config), s.WellFormed :=
    fun s hs => wellFormed_of_mem_matching hreadable hs
  have hminute : ∀ clock : ReminderClock, requests config deviceId defaults day clock.process =
      ((matching defaults day (careSchedules config)).filter fun s =>
        s.dueMinute = minuteOfDay clock.process).map fun s => s.reminder deviceId day := by
    intro clock
    refine congrArg (List.map _) (List.filter_congr fun s hs => ?_)
    exact decide_eq_decide.mpr (timeMatches_iff (hwell s hs))
  have hbuckets : (clocks.flatMap fun clock =>
      requests config deviceId defaults day clock.process) =
      ((List.range 1440).flatMap fun i => (matching defaults day (careSchedules config)).filter
        fun s => s.dueMinute = i).map fun s => s.reminder deviceId day := by
    rw [← hruns.map_minuteOfDay, List.flatMap_map, List.map_flatMap]
    simp only [hminute]
  -- the minutes of the day are buckets of the matching schedules
  rw [hbuckets]
  exact (perm_flatMap_range_filter ConfigSchedule.dueMinute
    fun s hs => dueMinute_lt (hwell s hs)).map _

/-! ## The law -/

/-- The titles of the notifications that mode 1 adds on the day are, one for one, the
titles of the schedules that match it. -/
def EachNotified (config : Json) (defaults : ReminderDefaults) (day : ℤ) (db : CareDb)
    (clocks : List ReminderClock) : Prop :=
  ((((run (dispatchStep config) db clocks).notifications.drop db.notifications.length).filter
      fromConfig).map Notification.title).Perm
    ((matching defaults day (careSchedules config)).map ConfigSchedule.title)

theorem configRemindKey_injective (key : String) :
    Function.Injective fun careType => configRemindKey careType key := by
  intro first second h
  unfold configRemindKey at h
  simpa using h

/-- The titles that the day adds are those of the reminders admitted, which are tried
in some order. -/
theorem titles_eq_admitted {clocks : List ReminderClock}
    (hreads : ReminderReads config deviceId defaults)
    (hreadable : ∀ schedule ∈ careSchedules config, Readable defaults schedule)
    (huser : ∃ u ∈ db.users, u.deviceId = some deviceId) (hruns : OncePerMinute day clocks) :
    ∃ tried : List Reminder,
      tried.Perm ((matching defaults day (careSchedules config)).map
        fun s => s.reminder deviceId day) ∧
      (((run (dispatchStep config) db clocks).notifications.drop
          db.notifications.length).filter fromConfig).map Notification.title =
        (admitted Reminder.dedupeKey db.dedupeKeys tried).map Reminder.title := by
  obtain ⟨u, hu⟩ : ∃ u, db.users.find? (fun u => u.deviceId = some deviceId) = some u := by
    obtain ⟨u, hu, hdevice⟩ := huser
    exact Option.isSome_iff_exists.mp
      (List.find?_isSome.mpr ⟨u, hu, decide_eq_true hdevice⟩)
  have hdevice : deviceUser db deviceId = some u.userId := by
    rw [deviceUser, hu]
    rfl
  obtain ⟨added, hadds⟩ := adds_run hreads hreadable hdevice hruns.dayOf_eq
  refine ⟨_, requests_perm deviceId hruns hreadable, ?_⟩
  rw [hadds.notifications, List.drop_left, hadds.config, List.map_map]
  rfl

/-- **Every matching schedule gets its own notification exactly when no two of them
have one care type**, on a day whose keys are not stored yet. -/
theorem eachNotified_iff {clocks : List ReminderClock}
    (hreads : ReminderReads config deviceId defaults)
    (hreadable : ∀ schedule ∈ careSchedules config, Readable defaults schedule)
    (huser : ∃ u ∈ db.users, u.deviceId = some deviceId) (hruns : OncePerMinute day clocks) :
    EachNotified config defaults day db clocks ↔
      ((matching defaults day (careSchedules config)).map ConfigSchedule.careType).Nodup ∧
        ∀ s ∈ matching defaults day (careSchedules config),
          configRemindKey s.careType (dateKey day) ∉ db.dedupeKeys := by
  obtain ⟨tried, hperm, htitles⟩ := titles_eq_admitted hreads hreadable huser hruns
  have hlaw := perm_map_admitted_iff Reminder.dedupeKey Reminder.title db.dedupeKeys hperm
  have hkeys : (matching defaults day (careSchedules config)).map
      (Reminder.dedupeKey ∘ fun s => s.reminder deviceId day) =
      ((matching defaults day (careSchedules config)).map ConfigSchedule.careType).map
        fun careType => configRemindKey careType (dateKey day) := by
    rw [List.map_map]
    rfl
  rw [List.map_map, List.map_map, List.forall_mem_map, hkeys,
    List.nodup_map_iff (configRemindKey_injective (dateKey day))] at hlaw
  unfold EachNotified
  rw [htitles]
  exact hlaw

/-! ## A day of each kind -/

/-- The configuration of two daily schedules at 17:08. -/
def pairConfig (first second : String) : Json :=
  .obj [("global", .obj [("device_id", .str "d")]),
    ("scheduled_task_manager", .obj [("care_schedules", .arr
      [.obj [("care_type", .str first), ("due_time", .str "17:08:00"), ("title", .str "First")],
        .obj [("care_type", .str second), ("due_time", .str "17:08"),
          ("title", .str "Second")]])])]

def reminderDb : CareDb :=
  { feedingSchedules := []
    careSchedules := []
    dogs := []
    users := [⟨"u", some "d"⟩]
    notifications := []
    events := []
    feeding_nodup := List.nodup_nil
    care_nodup := List.nodup_nil }

theorem user_reminderDb : ∃ u ∈ reminderDb.users, u.deviceId = some "d" :=
  ⟨_, List.mem_singleton_self _, rfl⟩

/-- Runs half a minute after each full minute of the first day. -/
def dayRuns : List ReminderClock :=
  (List.range 1440).map fun m : ℕ =>
    let wall := m * minuteMicros + 30 * secondMicros
    ⟨wall, ⟨Zone.fixed 0, wall⟩, fun _ => 0, ""⟩

theorem oncePerMinute_dayRuns : OncePerMinute 0 dayRuns := by
  unfold OncePerMinute dayRuns
  rw [List.map_map]
  refine List.map_congr_left fun m _ => ?_
  simp only [Function.comp_def]
  unfold minuteMicros secondMicros
  omega

theorem readable_pairConfig (first second : String) :
    ∀ schedule ∈ careSchedules (pairConfig first second),
      Readable ⟨"medium", "scheduled"⟩ schedule := by
  intro schedule hmem
  rcases List.mem_cons.mp hmem with rfl | hmem
  · exact ⟨_, rfl, ⟨17, 8, ConfigSchedule.dueClock_of_scan
      (show scanTriple ':' "17:08:00" = [17, 8, 0] by decide), by decide⟩, fun _ => rfl⟩
  · rw [List.mem_singleton.mp hmem]
    exact ⟨_, rfl, ⟨17, 8, ConfigSchedule.dueClock_of_scan
      (show scanTriple ':' "17:08" = [17, 8] by decide), by decide⟩, fun _ => rfl⟩

theorem eachNotified_walk_and_bath :
    EachNotified (pairConfig "walk" "bath") ⟨"medium", "scheduled"⟩ 0 reminderDb dayRuns :=
  (eachNotified_iff ⟨rfl, by decide, rfl⟩ (readable_pairConfig _ _) user_reminderDb
    oncePerMinute_dayRuns).mpr (by decide +kernel)

/-- Two medications at the same time: the second one is never announced. -/
theorem not_eachNotified_two_medications :
    ¬EachNotified (pairConfig "medication" "medication") ⟨"medium", "scheduled"⟩ 0 reminderDb
      dayRuns := by
  intro heach
  obtain ⟨tried, hperm, htitles⟩ := titles_eq_admitted ⟨rfl, by decide, rfl⟩
    (readable_pairConfig "medication" "medication") user_reminderDb oncePerMinute_dayRuns
  rw [EachNotified, htitles] at heach
  have hlaw :=
    (perm_map_admitted_iff Reminder.dedupeKey Reminder.title reminderDb.dedupeKeys hperm).mp
  rw [List.map_map] at hlaw
  exact absurd (hlaw heach).1 (by decide +kernel)

end OroEdge.Jobs
