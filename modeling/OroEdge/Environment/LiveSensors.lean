import OroEdge.Environment.DeadCamera
import OroEdge.Health.Numbers
import OroEdge.Wellbeing.History

/-!
# Live sensors

While the nodes are up and every sensor delivers a reading at least once per minute, no run
of `device_health_check` or `sensor_data_freshness_check` should report a stale sensor
(`LiveSensorsFresh`).

Both jobs ask for the types `food_bowl_weight`, `water_bowl_level` and
`ambient_temperature`, which none of the nodes writes (`types_rows`).  So every run of the
jobs reports a stale sensor, however the sensors behave (`not_liveSensorsFresh`).

The rows of the three nodes are put into one table one after the other, since a query asks for
types and times and not for the order of insertion.  The theorem is then about types only: those
of each node are listed by its own history, the three types of the checks are in none of the
lists (`types_rows`), and a check without a row of its type reports the sensor whatever the time
is (`reportsStale_of_no_rows`).  That the sensors are live plays no part in this, which is what
makes the failure one of every live run.
-/

namespace OroEdge.Environment

open OroEdge.Lib OroEdge.Jobs EnvironmentConditionMonitor

/-! ## The nodes together -/

/-- The calls that the three nodes receive, each in its own order. -/
structure EdgeRun where
  wellbeing : List Wellbeing.Call
  environment : List Event
  health : List Health.WholeCall

/-- The configuration of the nodes, and when the health node was started. -/
structure EdgeSettings where
  wellbeing : Wellbeing.Settings
  environment : Settings
  healthStart : ℕ

/-- The signal table: rows from before, then those of the three nodes. -/
def EdgeRun.rows (r : EdgeRun) (stored : List Signal) (c : EdgeSettings) : List Signal :=
  Wellbeing.table stored (Wellbeing.Node.after c.wellbeing r.wellbeing) ++
    table [] (Node.after c.environment r.environment) ++ Health.wholeRows c.healthStart r.health

/-! ## The property -/

/-- Every minute from `start` to `stop` has one of the times. -/
def EveryMinute (start stop : ℕ) (times : List ℕ) : Prop :=
  ∀ t, start ≤ t → t + 60000 ≤ stop → ∃ time ∈ times, t ≤ time ∧ time ≤ t + 60000

def bowlTime? (bowlId : String) : Wellbeing.Call → Option ℕ
  | .bowlWeight bowlId' _ now => if bowlId' = bowlId then some now else none
  | _ => none

def tankTime? : Wellbeing.Call → Option ℕ
  | .waterLevel _ now => some now
  | _ => none

def temperatureTime? : Event → Option ℕ
  | .temperature _ observedAt => some observedAt
  | _ => none

def humidityTime? : Event → Option ℕ
  | .humidity _ observedAt => some observedAt
  | _ => none

def tickTime? : Event → Option ℕ
  | .tick now => some now
  | _ => none

def healthTickTime? : Health.WholeCall → Option ℕ
  | .change (.base (.tick _ now)) => some now
  | _ => none

/-- From `start` to `stop` the nodes are up and each sensor delivers a reading, at least once
per minute; the camera's frames count when they are accepted. -/
structure EdgeRun.Live (r : EdgeRun) (c : EdgeSettings) (start stop : ℕ) : Prop where
  wellbeing : EveryMinute start stop (r.wellbeing.filterMap Wellbeing.Call.tickTime?)
  environment : EveryMinute start stop (r.environment.filterMap tickTime?)
  health : EveryMinute start stop (r.health.filterMap healthTickTime?)
  bowls : ∀ schedule ∈ c.wellbeing.mealSchedules,
    EveryMinute start stop (r.wellbeing.filterMap (bowlTime? schedule.bowlId))
  tank : EveryMinute start stop (r.wellbeing.filterMap tankTime?)
  temperature : EveryMinute start stop (r.environment.filterMap temperatureTime?)
  humidity : EveryMinute start stop (r.environment.filterMap humidityTime?)
  camera : EveryMinute start stop (r.environment.filterMap (acceptedAt? c.environment))

/-- If all has been live from `start` to the time `stop` of the jobs, for a minute at least,
neither job reports a stale sensor. -/
def LiveSensorsFresh (r : EdgeRun) (c : EdgeSettings) (stored : List Signal) (deviceId : String)
    (start stop : ℕ) : Prop :=
  r.Live c start stop → start + 60000 ≤ stop →
    ∀ now : String → ℤ, (∀ signalType, now signalType = stop * 1000) →
      ∀ status q, Answers ⟨r.rows stored c, status⟩ deviceId now q →
        ¬ (deviceHealthCheck deviceId q).Emits "sensor_data_stale" ∧
          ¬ (sensorDataFreshnessCheck deviceId q).Emits "sensor_data_stale"

/-! ## The types in the table -/

/-- The types that the jobs ask for and no node writes. -/
def unwrittenTypes : List String := ["food_bowl_weight", "water_bowl_level", "ambient_temperature"]

theorem types_environment (settings : Settings) (events : List Event) :
    ∀ row ∈ table [] (Node.after settings events),
      row.signalType ∈ settings.targetLightSignalType :: "ambient_light_level" :: otherTypes := by
  intro row hrow
  obtain ⟨record, hrecord, rfl⟩ := List.mem_map.mp hrow
  obtain ⟨earlier, event, later, -, hmem⟩ := exists_handedOver hrecord
  rcases mem_event settings _ hmem with hother | ⟨value, observedAt, -, rfl⟩ |
    ⟨now, reading, -, -, -, rfl⟩
  · exact List.mem_cons_of_mem _ (List.mem_cons_of_mem _ hother)
  · exact List.mem_cons_of_mem _ List.mem_cons_self
  · exact List.mem_cons_self

/-- A row of one of these types is that of the light, if it is configured so. -/
theorem types_rows (r : EdgeRun) (c : EdgeSettings) {stored : List Signal}
    (hstored : ∀ row ∈ stored, row.signalType ∉ unwrittenTypes) :
    ∀ row ∈ r.rows stored c, row.signalType ∈ unwrittenTypes →
      row.signalType = c.environment.targetLightSignalType := by
  intro row hrow htype
  have hapart : ∀ types : List String, (∀ other ∈ types, other ∉ unwrittenTypes) →
      row.signalType ∉ types := fun types hdisjoint hmem => hdisjoint _ hmem htype
  rcases List.mem_append.mp hrow with hrow | hhealth
  · rcases List.mem_append.mp hrow with hwellbeing | henvironment
    · rcases List.mem_append.mp hwellbeing with hbefore | hwritten
      · exact absurd htype (hstored row hbefore)
      · obtain ⟨record, hrecord, rfl⟩ := List.mem_map.mp hwritten
        exact absurd (Wellbeing.types_after c.wellbeing r.wellbeing record hrecord)
          (hapart _ (by decide))
    · rcases List.mem_cons.mp (types_environment c.environment r.environment row henvironment)
        with hlight | hother
      · exact hlight
      · exact absurd hother (hapart _ (by decide))
  · exact absurd (Health.types_wholeRows c.healthStart r.health row hhealth)
      (hapart _ (by decide))

/-- Without rows of its type, a sensor is reported by both jobs. -/
theorem reportsStale_of_no_rows {rows : List Signal} {deviceId : String} {now : String → ℤ}
    {status : Option String} {q : DeviceAnswers} (hdevice : deviceId ≠ "")
    (hq : Answers ⟨rows, status⟩ deviceId now q) {check : SensorCheck}
    (hcheck : check ∈ sensorChecks) (hnone : ∀ row ∈ rows, row.signalType ≠ check.signalType) :
    (deviceHealthCheck deviceId q).ReportsStale check.signalType ∧
      (sensorDataFreshnessCheck deviceId q).ReportsStale check.signalType := by
  have hrows : signalsOf deviceId check.signalType rows = [] := by
    refine List.filter_eq_nil_iff.mpr fun row hrow => ?_
    simp [hnone row hrow]
  have hlimits : ∀ check ∈ sensorChecks, check.maxAgeMinutes < 9999 := by decide +kernel
  have hold : check.maxAgeMinutes < q.freshnessMinutes check.signalType := by
    rw [hq.freshnessMinutes, hrows]
    exact hlimits check hcheck
  have hstale := (reportsStale_iff hdevice).mpr ⟨check, hcheck, rfl, hold⟩
  exact ⟨hstale, (reportsStale_deviceHealthCheck hdevice).mp hstale⟩

/-- Every run of the jobs reports a stale sensor. -/
theorem exists_reportsStale (r : EdgeRun) (c : EdgeSettings) {stored : List Signal}
    (hstored : ∀ row ∈ stored, row.signalType ∉ unwrittenTypes) {deviceId : String}
    (hdevice : deviceId ≠ "") {now : String → ℤ} {status : Option String} {q : DeviceAnswers}
    (hq : Answers ⟨r.rows stored c, status⟩ deviceId now q) :
    ∃ signalType ∈ unwrittenTypes, (deviceHealthCheck deviceId q).ReportsStale signalType ∧
      (sensorDataFreshnessCheck deviceId q).ReportsStale signalType := by
  have hchecked : ∀ signalType ∈ unwrittenTypes, ∃ check ∈ sensorChecks,
      check.signalType = signalType := by decide +kernel
  -- of two such types, the light can be configured to be one
  obtain ⟨signalType, hmem, htarget⟩ : ∃ signalType ∈ unwrittenTypes,
      signalType ≠ c.environment.targetLightSignalType := by
    by_cases hlight : "food_bowl_weight" = c.environment.targetLightSignalType
    · exact ⟨"water_bowl_level", by decide, by rw [← hlight]; decide⟩
    · exact ⟨"food_bowl_weight", by decide, hlight⟩
  obtain ⟨check, hcheck, rfl⟩ := hchecked signalType hmem
  refine ⟨check.signalType, hmem, reportsStale_of_no_rows hdevice hq hcheck ?_⟩
  intro row hrow htype
  have hlight := types_rows r c hstored row hrow (by rw [htype]; exact hmem)
  exact htarget (htype.symm.trans hlight)

/-- **Live sensors are reported stale.**  In every live run, the jobs report a stale sensor. -/
theorem not_liveSensorsFresh (r : EdgeRun) (c : EdgeSettings) {stored : List Signal}
    (hstored : ∀ row ∈ stored, row.signalType ∉ unwrittenTypes) {deviceId : String}
    (hdevice : deviceId ≠ "") {start stop : ℕ} (hlive : r.Live c start stop)
    (hminute : start + 60000 ≤ stop) : ¬ LiveSensorsFresh r c stored deviceId start stop := by
  intro hfresh
  obtain ⟨q, hq⟩ := exists_answers ⟨r.rows stored c, none⟩ deviceId fun _ => stop * 1000
  obtain ⟨signalType, -, hstale, -⟩ := exists_reportsStale r c hstored hdevice hq
  exact (hfresh hlive hminute _ (fun _ => rfl) none q hq).1 hstale.emits

/-! ### One live minute -/

/-- The shipped configuration, with one meal. -/
def minuteSettings : EdgeSettings where
  wellbeing := ⟨"dev", "dog", [⟨"09:00:00", "09:30:00", "bf_", "bowl_1"⟩], "24h", .fixed 0,
    ⟨0, 0, 0⟩, ⟨0, 0, 0⟩⟩
  environment := shippedSettings
  healthStart := 0

/-- Each sensor delivers a reading in the middle of the first minute. -/
def minuteRun : EdgeRun where
  wellbeing := [.bowlWeight "bowl_1" 300 30000, .waterLevel 4000 30000, .tick 30000 0]
  environment := [.temperature 21 30000, .humidity 45 30000, .message 30000 (some darkFrame),
    .tick 30000]
  health := [.change (.base (.tick ⟨"wifi", "-60"⟩ 30000))]

theorem everyMinute_once {times : List ℕ} (hmem : 30000 ∈ times) : EveryMinute 0 60000 times :=
  fun t _ hle => ⟨30000, hmem, by omega, by omega⟩

theorem live_minuteRun : minuteRun.Live minuteSettings 0 60000 where
  wellbeing := everyMinute_once (by decide)
  environment := everyMinute_once (by decide)
  health := everyMinute_once (by decide)
  bowls schedule hschedule := by
    rw [List.mem_singleton.mp hschedule]
    exact everyMinute_once (by decide)
  tank := everyMinute_once (by decide)
  temperature := everyMinute_once (by decide)
  humidity := everyMinute_once (by decide)
  camera := everyMinute_once (by decide +kernel)

theorem not_liveSensorsFresh_start :
    ¬ LiveSensorsFresh minuteRun minuteSettings [] "dev" 0 60000 :=
  not_liveSensorsFresh minuteRun minuteSettings (by simp) (by decide) live_minuteRun le_rfl

/-- **Failing input.**  After one live minute, the device check reports the food bowl. -/
theorem not_liveSensorsFresh_minute : minuteRun.Live minuteSettings 0 60000 ∧
    ¬ LiveSensorsFresh minuteRun minuteSettings [] "dev" 0 60000 := by
  refine ⟨live_minuteRun, fun hfresh => ?_⟩
  obtain ⟨q, hq⟩ := exists_answers ⟨minuteRun.rows [] minuteSettings, none⟩ "dev"
    fun _ => 60000 * 1000
  obtain ⟨signalType, -, hstale, -⟩ :=
    exists_reportsStale minuteRun minuteSettings (by simp) (by decide) hq
  exact (hfresh live_minuteRun le_rfl _ (fun _ => rfl) none q hq).1 hstale.emits

end OroEdge.Environment
