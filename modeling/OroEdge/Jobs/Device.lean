import OroEdge.Lib.Word
import OroEdge.Scheduler.Job
import OroEdge.Tables

/-!
# The device checks

`device_health_check` asks the database a fixed list of questions and raises, for
each finding, an event and a notification.  `DeviceAnswers` holds what the
queries return; `Answers` says what they may return on given tables.  A query for
the latest row of a type leaves open which row it takes among those of one time.

A run is a function of what the queries return, so that it can be said what a run does when some
of them fail, and the queries are related to the tables by `Answers`, so that it can be said
what follows for a table without choosing among rows of one time.  The sections of the job are
lists of issues, appended in the order of the source; an event of a type comes from one of them,
and `emits_iff` lists for each type what raises it.  All that is proved about the checks later
uses this list, or the loop over the sensors (`reportsStale_iff`), and none of the sections
themselves.
-/

namespace OroEdge.Jobs

open OroEdge.Lib OroEdge.Scheduler

/-! ## The jobs -/

/-- What `stm_device_emit_event` inserts, beside its constants. -/
structure DeviceEvent where
  eventType : String
  severity : String
  title : String
  description : String
  payload : Json
  dedupeKey : String
  deriving Repr

/-- What `stm_emit_notification` inserts, beside its constants. -/
structure DeviceNotification where
  notificationKey : String
  title : String
  message : String
  priority : String
  payload : Json
  dedupeKey : String
  deriving Repr

/-- A finding: its event, its notification, and what it adds to the metadata. -/
structure Issue where
  event : DeviceEvent
  notification : DeviceNotification
  metadata : List (String × Json)
  deriving Repr

/-- The results of the queries of one run. -/
structure DeviceAnswers where
  timeoutThreshold : ℚ
  freshnessMinutes : String → ℚ
  batteryLowThreshold : ℚ
  battery : ℚ
  waterRefill : ℤ
  status : String

/-- 1. Staleness of the heartbeat. -/
def offlineIssues (deviceId : String) (q : DeviceAnswers) : List Issue :=
  let stale := q.freshnessMinutes "device_heartbeat"
  if q.timeoutThreshold < stale then
    let severity := if q.timeoutThreshold * 2 < stale then "high" else "medium"
    let payload := Json.obj [("minutes_since_seen", .float stale),
      ("timeout_threshold", .float q.timeoutThreshold)]
    [{ event := ⟨"device_offline", severity, "Device Offline",
        "Device has not sent a heartbeat recently.", payload, "STM_OFFLINE_" ++ deviceId⟩
       notification := ⟨"device_offline_" ++ deviceId, "Device Offline",
        "Device has not sent a heartbeat in " ++ toString (truncated stale) ++ " minutes.",
        severity, payload, "STM_NOTIF_OFFLINE_" ++ deviceId⟩
       metadata := [("offline_minutes", .float stale)] }]
  else
    []

/-- 2. Battery level. -/
def batteryIssues (deviceId : String) (q : DeviceAnswers) : List Issue :=
  if 0 < q.battery ∧ q.battery < q.batteryLowThreshold then
    let severity := if q.battery < 5 then "critical" else "medium"
    let payload := Json.obj [("battery_percent", .float q.battery),
      ("battery_low_threshold", .float q.batteryLowThreshold)]
    [{ event := ⟨if q.battery < 5 then "critical_battery" else "low_battery", severity,
        "Low Battery", "Device battery level is low.", payload, "STM_BATTERY_" ++ deviceId⟩
       notification := ⟨"device_battery_" ++ deviceId, "Low Battery Alert",
        "Device battery level is low (" ++ toString (truncated q.battery) ++ "%).",
        severity, payload, "STM_NOTIF_BATTERY_" ++ deviceId⟩
       metadata := [("battery_percent", .float q.battery)] }]
  else
    []

/-- 3. Low supply. -/
def supplyIssues (deviceId : String) (q : DeviceAnswers) : List Issue :=
  if q.waterRefill = 1 then
    let payload := Json.obj [("water_refill_required", .bool true)]
    [{ event := ⟨"low_supply", "medium", "Low Supply Warning", "Water tank refill is required.",
        payload, "STM_LOW_SUPPLY_" ++ deviceId⟩
       notification := ⟨"device_low_supply_" ++ deviceId, "Low Supply Alert",
        "Water tank refill is required.", "medium", payload, "STM_NOTIF_LOW_SUPPLY_" ++ deviceId⟩
       metadata := [] }]
  else
    []

/-- 4. Device status. -/
def statusIssues (deviceId : String) (q : DeviceAnswers) : List Issue :=
  if q.status = "error" then
    let payload := Json.obj [("device_status", .str q.status)]
    [{ event := ⟨"device_error_state", "high", "Device Error", "Device is in error state.",
        payload, "STM_ERROR_" ++ deviceId⟩
       notification := ⟨"device_error_" ++ deviceId, "Device Error", "Device is in error state.",
        "high", payload, "STM_NOTIF_ERROR_" ++ deviceId⟩
       metadata := [] }]
  else
    []

/-- A sensor, and the age from which its readings are stale. -/
structure SensorCheck where
  signalType : String
  display : String
  maxAgeMinutes : ℚ
  deriving DecidableEq, Repr

/-- The sensors that are checked, in the order of the source. -/
def sensorChecks : List SensorCheck :=
  [⟨"food_bowl_weight", "Food Bowl Weight", 30⟩,
    ⟨"water_bowl_level", "Water Bowl Level", 30⟩,
    ⟨"ambient_temperature", "Ambient Temperature", 15⟩,
    ⟨"environment_temperature", "Environment Temperature", 15⟩,
    ⟨"ambient_humidity", "Ambient Humidity", 15⟩,
    ⟨"ambient_light_level", "Ambient Light Level", 15⟩]

/-- One pass of the loop over the sensor checks. -/
def staleIssues (deviceId : String) (q : DeviceAnswers) (check : SensorCheck) : List Issue :=
  let age := q.freshnessMinutes check.signalType
  if check.maxAgeMinutes < age then
    let payload := Json.obj [("signal_type", .str check.signalType), ("age_minutes", .float age),
      ("max_age_minutes", .float check.maxAgeMinutes)]
    [{ event := ⟨"sensor_data_stale", "medium", "Stale: " ++ check.display,
        "No recent data from this sensor.", payload,
        "STM_STALE_" ++ check.signalType ++ "_" ++ deviceId⟩
       notification := ⟨"sensor_stale_" ++ check.signalType ++ "_" ++ deviceId,
        "Stale Sensor: " ++ check.display,
        "No recent data received from " ++ check.display ++ ".", "medium", payload,
        "STM_NOTIF_STALE_" ++ check.signalType ++ "_" ++ deviceId⟩
       metadata := [] }]
  else
    []

/-- The findings of `device_health_check`, in the order in which they are written. -/
def deviceIssues (deviceId : String) (q : DeviceAnswers) : List Issue :=
  offlineIssues deviceId q ++ batteryIssues deviceId q ++ supplyIssues deviceId q ++
    statusIssues deviceId q ++ sensorChecks.flatMap (staleIssues deviceId q)

/-- What a job writes, and what it returns. -/
structure DeviceRun where
  issues : List Issue
  result : JobResult
  deriving Repr

/-- A run without a device fails; else it reports its issues. -/
def deviceRun (deviceId : String) (issues : List Issue) : DeviceRun :=
  if deviceId = "" then ⟨[], ⟨false, 0, "No device_id", []⟩⟩
  else ⟨issues, ⟨true, issues.length, "", issues.flatMap Issue.metadata⟩⟩

/-- `device_health_check` reports every issue of the device. -/
def deviceHealthCheck (deviceId : String) (q : DeviceAnswers) : DeviceRun :=
  deviceRun deviceId (deviceIssues deviceId q)

/-- `sensor_data_freshness_check` reports the stale sensors only. -/
def sensorDataFreshnessCheck (deviceId : String) (q : DeviceAnswers) : DeviceRun :=
  deviceRun deviceId (sensorChecks.flatMap (staleIssues deviceId q))

/-! ## The queries -/

/-- The signals of a type of the device. -/
def signalsOf (deviceId signalType : String) (signals : List Signal) : List Signal :=
  signals.filter fun row => decide (row.deviceId = deviceId) && decide (row.signalType = signalType)

/-- A column of the row that `ORDER BY observed_at DESC LIMIT 1` returns; `none` for
no row and for a null. -/
def LatestColumn {α : Type*} (column : Signal → Option α) (rows : List Signal)
    (answer : Option α) : Prop :=
  (rows = [] ∧ answer = none) ∨ ∃ row, Sql.IsLatest Signal.observedAt rows row ∧ answer = column row

/-- `stm_sensor_freshness_minutes` at the time `now`. -/
def freshness (now : ℤ) (rows : List Signal) : ℚ :=
  match (rows.map Signal.observedAt).max? with
  | none => 9999
  | some last => ((now - last : ℤ) : ℚ) / 60000000

/-- The tables that the checks read; `status` is `none` without a device row. -/
structure DeviceDb where
  signals : List Signal
  status : Option String

/-- What the queries of a run may return when all of them succeed; `now signalType`
is the time of the freshness query of a type. -/
structure Answers (db : DeviceDb) (deviceId : String) (now : String → ℤ) (q : DeviceAnswers) :
    Prop where
  timeoutThreshold : ∃ answer, LatestColumn Signal.valueNumeric
    (signalsOf deviceId "communication_timeout_threshold" db.signals) answer ∧
      q.timeoutThreshold = answer.getD 15
  freshnessMinutes : ∀ signalType, q.freshnessMinutes signalType =
    freshness (now signalType) (signalsOf deviceId signalType db.signals)
  batteryLowThreshold : ∃ answer, LatestColumn Signal.valueNumeric
    (signalsOf deviceId "battery_low_threshold" db.signals) answer ∧
      q.batteryLowThreshold = answer.getD 20
  battery : ∃ answer, LatestColumn Signal.valueNumeric
    (signalsOf deviceId "battery_level" db.signals) answer ∧ q.battery = answer.getD 0
  waterRefill : ∃ answer, LatestColumn Signal.valueBoolean
    (signalsOf deviceId "water_refill_required" db.signals) answer ∧
      q.waterRefill = ((answer.map fun b => if b then 1 else 0).getD 0)
  status : q.status = db.status.getD ""

theorem exists_latestColumn {α : Type*} (column : Signal → Option α) (rows : List Signal) :
    ∃ answer, LatestColumn column rows answer := by
  by_cases hrows : rows = []
  · exact ⟨none, Or.inl ⟨hrows, rfl⟩⟩
  · obtain ⟨row, hrow⟩ := Sql.exists_isLatest Signal.observedAt hrows
    exact ⟨column row, Or.inr ⟨row, hrow, rfl⟩⟩

/-- The queries have answers, whatever the tables hold. -/
theorem exists_answers (db : DeviceDb) (deviceId : String) (now : String → ℤ) :
    ∃ q, Answers db deviceId now q := by
  obtain ⟨timeout, htimeout⟩ := exists_latestColumn Signal.valueNumeric
    (signalsOf deviceId "communication_timeout_threshold" db.signals)
  obtain ⟨low, hlow⟩ := exists_latestColumn Signal.valueNumeric
    (signalsOf deviceId "battery_low_threshold" db.signals)
  obtain ⟨battery, hbattery⟩ := exists_latestColumn Signal.valueNumeric
    (signalsOf deviceId "battery_level" db.signals)
  obtain ⟨refill, hrefill⟩ := exists_latestColumn Signal.valueBoolean
    (signalsOf deviceId "water_refill_required" db.signals)
  refine ⟨⟨timeout.getD 15, fun signalType => freshness (now signalType)
    (signalsOf deviceId signalType db.signals), low.getD 20, battery.getD 0,
    (refill.map fun b => if b then 1 else 0).getD 0, db.status.getD ""⟩, ?_⟩
  exact ⟨⟨timeout, htimeout, rfl⟩, fun _ => rfl, ⟨low, hlow, rfl⟩, ⟨battery, hbattery, rfl⟩,
    ⟨refill, hrefill, rfl⟩, rfl⟩

/-! ## What a run raises -/

/-- The run emits an event of the type. -/
def DeviceRun.Emits (r : DeviceRun) (eventType : String) : Prop :=
  ∃ issue ∈ r.issues, issue.event.eventType = eventType

instance (r : DeviceRun) (eventType : String) : Decidable (r.Emits eventType) := by
  unfold DeviceRun.Emits
  infer_instance

/-- The run emits an event of the type, with the severity. -/
def DeviceRun.EmitsAs (r : DeviceRun) (eventType severity : String) : Prop :=
  ∃ issue ∈ r.issues, issue.event.eventType = eventType ∧ issue.event.severity = severity

/-- The run reports the sensor of the type as stale. -/
def DeviceRun.ReportsStale (r : DeviceRun) (signalType : String) : Prop :=
  ∃ issue ∈ r.issues, issue.event.eventType = "sensor_data_stale" ∧
    issue.event.payload.get? "signal_type" = some (.str signalType)

theorem DeviceRun.ReportsStale.emits {r : DeviceRun} {signalType : String}
    (hstale : r.ReportsStale signalType) : r.Emits "sensor_data_stale" := by
  obtain ⟨issue, hissue, htype, -⟩ := hstale
  exact ⟨issue, hissue, htype⟩

/-- An age is above a number of minutes below 9999 if no row is younger. -/
theorem lt_freshness_iff {now : ℤ} {rows : List Signal} {minutes : ℚ} (hminutes : minutes < 9999) :
    minutes < freshness now rows ↔
      ∀ row ∈ rows, minutes * 60000000 < ((now - row.observedAt : ℤ) : ℚ) := by
  unfold freshness
  cases hmax : (rows.map Signal.observedAt).max? with
  | none =>
      have hrows : rows = [] := by
        simpa using List.max?_eq_none_iff.mp hmax
      simp [hrows, hminutes]
  | some last =>
      obtain ⟨hlast, hle⟩ := List.max?_eq_some_iff.mp hmax
      have hage : minutes < ((now - last : ℤ) : ℚ) / 60000000 ↔
          minutes * 60000000 < ((now - last : ℤ) : ℚ) := lt_div_iff₀ (by norm_num)
      refine hage.trans ⟨fun hold row hrow => ?_, fun hall => ?_⟩
      · have hnewer : now - last ≤ now - row.observedAt :=
          sub_le_sub_left (hle _ (List.mem_map_of_mem hrow)) now
        exact hold.trans_le (by exact_mod_cast hnewer)
      · obtain ⟨row, hrow, rfl⟩ := List.mem_map.mp hlast
        exact hall row hrow

section

variable {deviceId : String} {q : DeviceAnswers}

/-- The loop over the sensors, in whichever of the two jobs. -/
theorem reportsStale_flatMap_iff (signalType : String) (result : JobResult) :
    DeviceRun.ReportsStale ⟨sensorChecks.flatMap (staleIssues deviceId q), result⟩ signalType ↔
      ∃ check ∈ sensorChecks, check.signalType = signalType ∧
        check.maxAgeMinutes < q.freshnessMinutes check.signalType := by
  unfold DeviceRun.ReportsStale
  simp only [List.mem_flatMap, staleIssues, List.mem_ite_nil_right, List.mem_singleton]
  constructor
  · rintro ⟨issue, ⟨check, hcheck, hold, rfl⟩, -, hpayload⟩
    have htype : some (Json.str check.signalType) = some (.str signalType) := hpayload
    exact ⟨check, hcheck, Json.str.inj (Option.some.inj htype), hold⟩
  · rintro ⟨check, hcheck, rfl, hold⟩
    exact ⟨_, ⟨check, hcheck, hold, rfl⟩, rfl, rfl⟩

theorem issues_deviceHealthCheck (hdevice : deviceId ≠ "") :
    (deviceHealthCheck deviceId q).issues = deviceIssues deviceId q := by
  simp [deviceHealthCheck, deviceRun, hdevice]

/-- The types of the events, each with what raises it. -/
theorem emits_iff (hdevice : deviceId ≠ "") (eventType : String) :
    (deviceHealthCheck deviceId q).Emits eventType ↔
      (q.timeoutThreshold < q.freshnessMinutes "device_heartbeat" ∧
          "device_offline" = eventType) ∨
        ((0 < q.battery ∧ q.battery < q.batteryLowThreshold) ∧
          (if q.battery < 5 then "critical_battery" else "low_battery") = eventType) ∨
        (q.waterRefill = 1 ∧ "low_supply" = eventType) ∨
        (q.status = "error" ∧ "device_error_state" = eventType) ∨
        ((∃ check ∈ sensorChecks, check.maxAgeMinutes < q.freshnessMinutes check.signalType) ∧
          "sensor_data_stale" = eventType) := by
  unfold DeviceRun.Emits
  rw [issues_deviceHealthCheck hdevice]
  constructor
  · rintro ⟨issue, hissue, rfl⟩
    simp only [deviceIssues, List.mem_append, List.mem_flatMap, offlineIssues, batteryIssues,
      supplyIssues, statusIssues, staleIssues, List.mem_ite_nil_right, List.mem_singleton] at hissue
    rcases hissue with (((⟨hraised, rfl⟩ | ⟨hraised, rfl⟩) | ⟨hraised, rfl⟩) | ⟨hraised, rfl⟩) |
      ⟨check, hcheck, hraised, rfl⟩
    · exact Or.inl ⟨hraised, rfl⟩
    · exact Or.inr (Or.inl ⟨hraised, rfl⟩)
    · exact Or.inr (Or.inr (Or.inl ⟨hraised, rfl⟩))
    · exact Or.inr (Or.inr (Or.inr (Or.inl ⟨hraised, rfl⟩)))
    · exact Or.inr (Or.inr (Or.inr (Or.inr ⟨⟨check, hcheck, hraised⟩, rfl⟩)))
  · simp only [deviceIssues, List.mem_append, List.mem_flatMap, offlineIssues, batteryIssues,
      supplyIssues, statusIssues, staleIssues, List.mem_ite_nil_right, List.mem_singleton]
    rintro (⟨hraised, rfl⟩ | ⟨hraised, rfl⟩ | ⟨hraised, rfl⟩ | ⟨hraised, rfl⟩ |
      ⟨⟨check, hcheck, hraised⟩, rfl⟩)
    · exact ⟨_, Or.inl (Or.inl (Or.inl (Or.inl ⟨hraised, rfl⟩))), rfl⟩
    · exact ⟨_, Or.inl (Or.inl (Or.inl (Or.inr ⟨hraised, rfl⟩))), rfl⟩
    · exact ⟨_, Or.inl (Or.inl (Or.inr ⟨hraised, rfl⟩)), rfl⟩
    · exact ⟨_, Or.inl (Or.inr ⟨hraised, rfl⟩), rfl⟩
    · exact ⟨_, Or.inr ⟨check, hcheck, hraised, rfl⟩, rfl⟩

/-- The device check reports the sensors that the loop reports. -/
theorem reportsStale_deviceHealthCheck (hdevice : deviceId ≠ "") {signalType : String} :
    (deviceHealthCheck deviceId q).ReportsStale signalType ↔
      (sensorDataFreshnessCheck deviceId q).ReportsStale signalType := by
  have hfreshness : (sensorDataFreshnessCheck deviceId q).issues =
      sensorChecks.flatMap (staleIssues deviceId q) := by
    simp [sensorDataFreshnessCheck, deviceRun, hdevice]
  unfold DeviceRun.ReportsStale
  rw [issues_deviceHealthCheck hdevice, hfreshness]
  constructor
  · rintro ⟨issue, hissue, htype, hpayload⟩
    refine ⟨issue, ?_, htype, hpayload⟩
    rcases List.mem_append.mp hissue with hother | hstale
    · simp only [List.mem_append, offlineIssues, batteryIssues, supplyIssues, statusIssues,
        List.mem_ite_nil_right, List.mem_singleton] at hother
      rcases hother with ((⟨-, rfl⟩ | ⟨-, rfl⟩) | ⟨-, rfl⟩) | ⟨-, rfl⟩
      · simp at htype
      · by_cases hcritical : q.battery < 5 <;> simp [hcritical] at htype
      · simp at htype
      · simp at htype
    · exact hstale
  · rintro ⟨issue, hissue, hevent⟩
    exact ⟨issue, List.mem_append_right _ hissue, hevent⟩

theorem reportsStale_iff (hdevice : deviceId ≠ "") {signalType : String} :
    (deviceHealthCheck deviceId q).ReportsStale signalType ↔
      ∃ check ∈ sensorChecks, check.signalType = signalType ∧
        check.maxAgeMinutes < q.freshnessMinutes check.signalType := by
  rw [reportsStale_deviceHealthCheck hdevice, sensorDataFreshnessCheck, deviceRun,
    if_neg hdevice]
  exact reportsStale_flatMap_iff signalType _

theorem emits_offline_iff (hdevice : deviceId ≠ "") :
    (deviceHealthCheck deviceId q).Emits "device_offline" ↔
      q.timeoutThreshold < q.freshnessMinutes "device_heartbeat" := by
  rw [emits_iff hdevice]
  by_cases hcritical : q.battery < 5 <;> simp [hcritical]

theorem emitsAs_offline_high_iff (hdevice : deviceId ≠ "") :
    (deviceHealthCheck deviceId q).EmitsAs "device_offline" "high" ↔
      q.timeoutThreshold < q.freshnessMinutes "device_heartbeat" ∧
        q.timeoutThreshold * 2 < q.freshnessMinutes "device_heartbeat" := by
  unfold DeviceRun.EmitsAs
  rw [issues_deviceHealthCheck hdevice]
  constructor
  · rintro ⟨issue, hissue, htype, hseverity⟩
    simp only [deviceIssues, List.mem_append, List.mem_flatMap, offlineIssues, batteryIssues,
      supplyIssues, statusIssues, staleIssues, List.mem_ite_nil_right, List.mem_singleton] at hissue
    rcases hissue with (((⟨hraised, rfl⟩ | ⟨-, rfl⟩) | ⟨-, rfl⟩) | ⟨-, rfl⟩) | ⟨check, -, -, rfl⟩
    · refine ⟨hraised, ?_⟩
      by_contra hsoon
      simp [hsoon] at hseverity
    · by_cases hcritical : q.battery < 5 <;> simp [hcritical] at htype
    all_goals simp at htype
  · rintro ⟨hraised, hhigh⟩
    have hoffline : ∃ issue ∈ offlineIssues deviceId q,
        issue.event.eventType = "device_offline" ∧ issue.event.severity = "high" := by
      simp [offlineIssues, hraised, hhigh]
    obtain ⟨issue, hissue, hevent⟩ := hoffline
    exact ⟨issue, by simp [deviceIssues, hissue], hevent⟩

/-- A run raises a battery event exactly when the level it is told is positive and
below the threshold it is told. -/
theorem emits_battery_iff (hdevice : deviceId ≠ "") :
    (∃ eventType ∈ ["low_battery", "critical_battery"],
      (deviceHealthCheck deviceId q).Emits eventType) ↔
        0 < q.battery ∧ q.battery < q.batteryLowThreshold := by
  simp only [emits_iff hdevice]
  by_cases hcritical : q.battery < 5 <;> simp [hcritical]

theorem emits_lowSupply_iff (hdevice : deviceId ≠ "") :
    (deviceHealthCheck deviceId q).Emits "low_supply" ↔ q.waterRefill = 1 := by
  rw [emits_iff hdevice]
  by_cases hcritical : q.battery < 5 <;> simp [hcritical]

end

end OroEdge.Jobs
