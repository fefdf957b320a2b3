import OroEdge.Jobs.Device
import OroEdge.Lib.Dedupe
import OroEdge.Lib.Run

/-!
# Alerts over many runs

Every run of `device_health_check` inserts an event for each condition that holds, and a
notification unless one with its key is stored.  One alert per episode would be one event
and one notification for each block of consecutive runs in which a condition holds
(`OneAlertPerEpisode`).

The keys do not change from one run to the next.  So the events are as many as the runs in
which the condition held, and there is one notification at most (`alerts_after`).

A run inserts the findings of all conditions one after the other, so the table after some runs
is a fold over the findings of all of them (`run_check`), and a condition recognises its own by
the stem of a key (`stems_injOn`).  Counting its events is then counting the runs in which it
held, and whether its notification is there is whether there was any such run (`alerts_after`).

`OneAlertPerEpisode` counts blocks of runs.  It fails both ways: for the events with a block of
two runs, and for the notifications with two blocks.
-/

namespace OroEdge.Jobs

open OroEdge.Lib

/-! ## The tables -/

/-- The tables that the checks write; `users` are the devices of the user rows. -/
structure AlertDb where
  users : List String
  events : List DeviceEvent
  notifications : List DeviceNotification

/-- `stm_emit_notification`. -/
def AlertDb.emitNotification (deviceId : String) (db : AlertDb) (n : DeviceNotification) :
    AlertDb :=
  if deviceId ∈ db.users ∧ n.dedupeKey ∉ db.notifications.map DeviceNotification.dedupeKey then
    { db with notifications := db.notifications ++ [n] }
  else db

/-- The two inserts of a finding. -/
def AlertDb.record (deviceId : String) (db : AlertDb) (issue : Issue) : AlertDb :=
  { db with events := db.events ++ [issue.event] }.emitNotification deviceId issue.notification

/-- A run of `device_health_check`, given what its queries return. -/
def AlertDb.check (deviceId : String) (db : AlertDb) (q : DeviceAnswers) : AlertDb :=
  (deviceHealthCheck deviceId q).issues.foldl (AlertDb.record deviceId) db

/-! ## The conditions -/

/-- What a run checks. -/
inductive Condition
  | offline
  | lowBattery
  | lowSupply
  | errorState
  | stale (check : SensorCheck)
  deriving DecidableEq, Repr

namespace Condition

/-- The conditions, in the order of the checks. -/
def all : List Condition :=
  [offline, lowBattery, lowSupply, errorState] ++ sensorChecks.map stale

/-- The condition holds for what the run is told. -/
def holds (q : DeviceAnswers) : Condition → Bool
  | offline => decide (q.timeoutThreshold < q.freshnessMinutes "device_heartbeat")
  | lowBattery => decide (0 < q.battery ∧ q.battery < q.batteryLowThreshold)
  | lowSupply => decide (q.waterRefill = 1)
  | errorState => decide (q.status = "error")
  | stale check => decide (check.maxAgeMinutes < q.freshnessMinutes check.signalType)

/-- What the key of its event starts with. -/
def eventStem : Condition → String
  | offline => "STM_OFFLINE_"
  | lowBattery => "STM_BATTERY_"
  | lowSupply => "STM_LOW_SUPPLY_"
  | errorState => "STM_ERROR_"
  | stale check => "STM_STALE_" ++ check.signalType ++ "_"

/-- The `dedupe_key` of the notification of a condition, without the device. -/
def notificationStem : Condition → String
  | offline => "STM_NOTIF_OFFLINE_"
  | lowBattery => "STM_NOTIF_BATTERY_"
  | lowSupply => "STM_NOTIF_LOW_SUPPLY_"
  | errorState => "STM_NOTIF_ERROR_"
  | stale check => "STM_NOTIF_STALE_" ++ check.signalType ++ "_"

/-- What a run reports about a condition. -/
def issues (deviceId : String) (q : DeviceAnswers) : Condition → List Issue
  | offline => offlineIssues deviceId q
  | lowBattery => batteryIssues deviceId q
  | lowSupply => supplyIssues deviceId q
  | errorState => statusIssues deviceId q
  | stale check => staleIssues deviceId q check

variable (deviceId : String) (q : DeviceAnswers) (condition : Condition)

/-- The findings of a condition have its two keys. -/
theorem keys_of_mem_issues {issue : Issue} (hissue : issue ∈ condition.issues deviceId q) :
    issue.event.dedupeKey = condition.eventStem ++ deviceId ∧
      issue.notification.dedupeKey = condition.notificationStem ++ deviceId := by
  cases condition <;>
    simp only [issues, offlineIssues, batteryIssues, supplyIssues, statusIssues, staleIssues,
      List.mem_ite_nil_right, List.mem_singleton] at hissue <;>
    rw [hissue.2] <;>
    exact ⟨rfl, rfl⟩

/-- A condition that holds has one finding. -/
theorem length_issues :
    (condition.issues deviceId q).length = if condition.holds q then 1 else 0 := by
  cases condition <;>
    simp only [issues, holds, offlineIssues, batteryIssues, supplyIssues, statusIssues,
      staleIssues, decide_eq_true_eq, apply_ite List.length, List.length_singleton, List.length_nil]

theorem deviceIssues_eq : deviceIssues deviceId q = all.flatMap (issues deviceId q) := by
  simp [deviceIssues, all, issues, List.flatMap_map]

/-- Different conditions have different keys. -/
theorem stems_injOn {first second : Condition} (hfirst : first ∈ all) (hsecond : second ∈ all) :
    (first.eventStem = second.eventStem ↔ first = second) ∧
      (first.notificationStem = second.notificationStem ↔ first = second) := by
  have hall : ∀ first ∈ all, ∀ second ∈ all,
      (first.eventStem = second.eventStem ↔ first = second) ∧
        (first.notificationStem = second.notificationStem ↔ first = second) := by
    decide +kernel
  exact hall first hfirst second hsecond

end Condition

/-! ## What a run adds -/

section

variable {deviceId : String} (db : AlertDb) (qs : List DeviceAnswers)

/-- The findings of all runs. -/
def findings (deviceId : String) (qs : List DeviceAnswers) : List Issue :=
  qs.flatMap fun q => (deviceHealthCheck deviceId q).issues

theorem foldl_record (issues : List Issue) (hdb : deviceId ∈ db.users) :
    issues.foldl (AlertDb.record deviceId) db =
      { db with
        events := db.events ++ issues.map Issue.event
        notifications := db.notifications ++ admitted DeviceNotification.dedupeKey
          (db.notifications.map DeviceNotification.dedupeKey) (issues.map Issue.notification) } := by
  induction issues generalizing db with
  | nil => simp [admitted]
  | cons issue rest ih =>
      rw [List.foldl_cons, AlertDb.record, AlertDb.emitNotification]
      by_cases hkey : issue.notification.dedupeKey ∈
          db.notifications.map DeviceNotification.dedupeKey
      · rw [if_neg fun h => h.2 hkey]
        refine (ih _ ?_).trans ?_
        · exact hdb
        · simp [admitted, hkey]
      · rw [if_pos ⟨hdb, hkey⟩]
        refine (ih _ ?_).trans ?_
        · exact hdb
        · simp [admitted, hkey]

/-- The tables after the runs. -/
theorem run_check (hdb : deviceId ∈ db.users) :
    run (AlertDb.check deviceId) db qs =
      { db with
        events := db.events ++ (findings deviceId qs).map Issue.event
        notifications := db.notifications ++ admitted DeviceNotification.dedupeKey
          (db.notifications.map DeviceNotification.dedupeKey)
          ((findings deviceId qs).map Issue.notification) } := by
  rw [← foldl_record db _ hdb, findings, List.foldl_flatMap]
  rfl

/-- `tells` is true of the issues of one condition. -/
def TellsApart (deviceId : String) (condition : Condition) (tells : Issue → Bool) : Prop :=
  ∀ other ∈ Condition.all, ∀ q, ∀ issue ∈ other.issues deviceId q,
    (tells issue = true ↔ other = condition)

theorem TellsApart.countP_eq_zero {condition : Condition} {tells : Issue → Bool}
    (htells : TellsApart deviceId condition tells) {others : List Condition}
    (hall : ∀ other ∈ others, other ∈ Condition.all) (hnot : condition ∉ others)
    (q : DeviceAnswers) : (others.flatMap (Condition.issues deviceId q)).countP tells = 0 := by
  apply List.countP_eq_zero.mpr
  intro issue hissue htold
  obtain ⟨other, hother, hissue⟩ := List.mem_flatMap.mp hissue
  rw [(htells other (hall other hother) q issue hissue).mp htold] at hother
  exact hnot hother

/-- A run tells of a condition once if it holds. -/
theorem TellsApart.countP_issues {condition : Condition} {tells : Issue → Bool}
    (htells : TellsApart deviceId condition tells) (hdevice : deviceId ≠ "")
    (hcondition : condition ∈ Condition.all) (q : DeviceAnswers) :
    (deviceHealthCheck deviceId q).issues.countP tells = if condition.holds q then 1 else 0 := by
  obtain ⟨before, after, hsplit⟩ := List.append_of_mem hcondition
  have hnodup : (before ++ condition :: after).Nodup := by
    rw [← hsplit]
    decide +kernel
  obtain ⟨hbefore, hafter⟩ : condition ∉ before ∧ condition ∉ after := by
    rw [List.nodup_middle, List.nodup_cons, List.mem_append, not_or] at hnodup
    exact hnodup.1
  have hown : (condition.issues deviceId q).countP tells = (condition.issues deviceId q).length :=
    List.countP_eq_length.mpr fun issue hissue =>
      (htells condition hcondition q issue hissue).mpr rfl
  rw [issues_deviceHealthCheck hdevice, Condition.deviceIssues_eq, hsplit, List.flatMap_append,
    List.flatMap_cons, List.countP_append, List.countP_append, hown, Condition.length_issues,
    htells.countP_eq_zero (fun other hother => by simp [hsplit, hother]) hbefore,
    htells.countP_eq_zero (fun other hother => by simp [hsplit, hother]) hafter]
  omega

/-- A condition is found once in every run in which it holds, and told by either key. -/
theorem countP_findings (hdevice : deviceId ≠ "") {condition : Condition}
    (hcondition : condition ∈ Condition.all) {tells : Issue → Bool}
    (htells : TellsApart deviceId condition tells) :
    (findings deviceId qs).countP tells = qs.countP condition.holds := by
  unfold findings
  induction qs with
  | nil => rfl
  | cons q rest ih =>
      rw [List.flatMap_cons, List.countP_append, htells.countP_issues hdevice hcondition, ih,
        List.countP_cons, add_comm]

theorem append_left_inj_of_suffix {first second suffix : String} :
    first ++ suffix = second ++ suffix ↔ first = second := by
  rw [← String.toList_inj, ← String.toList_inj]
  simp [String.toList_append]

/-! ## The alerts of a condition -/

/-- The events stored for the condition. -/
def AlertDb.eventCount (deviceId : String) (condition : Condition) (db : AlertDb) : ℕ :=
  db.events.countP fun event => decide (event.dedupeKey = condition.eventStem ++ deviceId)

/-- The notifications stored for the condition. -/
def AlertDb.notificationCount (deviceId : String) (condition : Condition) (db : AlertDb) : ℕ :=
  db.notifications.countP fun n => decide (n.dedupeKey = condition.notificationStem ++ deviceId)

/-- The maximal blocks of consecutive runs in which the condition holds. -/
def episodes (condition : Condition) (qs : List DeviceAnswers) : ℕ :=
  ((qs.map condition.holds).destutter (· ≠ ·)).count true

/-- Each episode has added one event and one notification. -/
def OneAlertPerEpisode (deviceId : String) (db : AlertDb) (qs : List DeviceAnswers)
    (condition : Condition) : Prop :=
  (run (AlertDb.check deviceId) db qs).eventCount deviceId condition =
      db.eventCount deviceId condition + episodes condition qs ∧
    (run (AlertDb.check deviceId) db qs).notificationCount deviceId condition =
      db.notificationCount deviceId condition + episodes condition qs

/-- **The alerts of a condition, exactly.**  Every run in which it holds adds an event.  The
first of them adds a notification, unless there was one before. -/
theorem alerts_after (hdevice : deviceId ≠ "") (hdb : deviceId ∈ db.users)
    {condition : Condition} (hcondition : condition ∈ Condition.all) :
    (run (AlertDb.check deviceId) db qs).eventCount deviceId condition =
        db.eventCount deviceId condition + qs.countP condition.holds ∧
      (run (AlertDb.check deviceId) db qs).notificationCount deviceId condition =
        db.notificationCount deviceId condition +
          if db.notificationCount deviceId condition = 0 ∧ ∃ q ∈ qs, condition.holds q = true
          then 1 else 0 := by
  have hkeys : ∀ other ∈ Condition.all, ∀ q, ∀ issue ∈ other.issues deviceId q,
      (issue.event.dedupeKey = condition.eventStem ++ deviceId ↔ other = condition) ∧
        (issue.notification.dedupeKey = condition.notificationStem ++ deviceId ↔
          other = condition) := by
    intro other hother q issue hissue
    obtain ⟨hevent, hnotification⟩ := other.keys_of_mem_issues deviceId q hissue
    rw [hevent, hnotification, append_left_inj_of_suffix, append_left_inj_of_suffix]
    exact Condition.stems_injOn hother hcondition
  have heventKey : TellsApart deviceId condition fun issue =>
      decide (issue.event.dedupeKey = condition.eventStem ++ deviceId) := by
    intro other hother q issue hissue
    rw [decide_eq_true_eq]
    exact (hkeys other hother q issue hissue).1
  have hnotificationKey : TellsApart deviceId condition fun issue =>
      decide (issue.notification.dedupeKey = condition.notificationStem ++ deviceId) := by
    intro other hother q issue hissue
    rw [decide_eq_true_eq]
    exact (hkeys other hother q issue hissue).2
  have hevents := countP_findings qs hdevice hcondition heventKey
  have hnotifications := countP_findings qs hdevice hcondition hnotificationKey
  rw [run_check db qs hdb]
  unfold AlertDb.eventCount AlertDb.notificationCount
  constructor
  · rw [List.countP_append, List.countP_map, ← hevents]
    rfl
  · rw [List.countP_append, countP_admitted]
    congr 2
    rw [eq_iff_iff]
    apply and_congr
    · -- no notification has the key
      rw [List.countP_eq_zero]
      simp
    · -- some finding has the key
      have hpos := congrArg (0 < ·) hnotifications
      simp only [List.countP_pos_iff, eq_iff_iff, decide_eq_true_eq] at hpos
      rw [← hpos]
      simp

end

/-! ### A low tank, seen twice -/

/-- What a check is told: only the tank is low. -/
def tankLow : DeviceAnswers where
  timeoutThreshold := 15
  freshnessMinutes _ := 0
  batteryLowThreshold := 20
  battery := 0
  waterRefill := 1
  status := ""

/-- What the next check is told: the tank has been filled. -/
def tankFull : DeviceAnswers := { tankLow with waterRefill := 0 }

/-- A user, and no alerts yet. -/
def oneUser : AlertDb := ⟨["dev"], [], []⟩

theorem alerts_tankLow_twice :
    (run (AlertDb.check "dev") oneUser [tankLow, tankLow]).eventCount "dev" .lowSupply =
        oneUser.eventCount "dev" .lowSupply + [tankLow, tankLow].countP Condition.lowSupply.holds ∧
      (run (AlertDb.check "dev") oneUser [tankLow, tankLow]).notificationCount "dev" .lowSupply =
        oneUser.notificationCount "dev" .lowSupply +
          if oneUser.notificationCount "dev" .lowSupply = 0 ∧
            ∃ q ∈ [tankLow, tankLow], Condition.lowSupply.holds q = true then 1 else 0 :=
  alerts_after oneUser [tankLow, tankLow] (by decide) (by decide) (by decide)

/-- One episode of two runs has two events, and two episodes have one notification. -/
theorem not_oneAlertPerEpisode_twice :
    ¬ OneAlertPerEpisode "dev" oneUser [tankLow, tankLow] .lowSupply ∧
      (episodes .lowSupply [tankLow, tankLow] = 1 ∧
        (run (AlertDb.check "dev") oneUser [tankLow, tankLow]).eventCount "dev" .lowSupply = 2) ∧
      ¬ OneAlertPerEpisode "dev" oneUser [tankLow, tankFull, tankLow] .lowSupply ∧
      episodes .lowSupply [tankLow, tankFull, tankLow] = 2 ∧
        (run (AlertDb.check "dev") oneUser [tankLow, tankFull, tankLow]).notificationCount "dev"
          .lowSupply = 1 := by
  refine ⟨fun hone => absurd hone.1 (by decide +kernel), by decide +kernel,
    fun hone => absurd hone.2 (by decide +kernel), by decide +kernel, by decide +kernel⟩

end OroEdge.Jobs
