import Mathlib.Data.List.Induction
import OroEdge.Environment.Estimator
import OroEdge.Lib.Json
import OroEdge.Lib.Run
import OroEdge.Storage.Timestamp
import OroEdge.Tables

/-!
# The environment monitor

`EnvironmentConditionMonitor` holds the last temperature and humidity that the sensors
have reported, and writes them at every interval, each with its own time of observation.
The light comes from the estimator, and is written with the time of the tick; `mem_event`
says which records an event hands over.

An event is a call of the monitor by one of the threads of the node, or a message for the
estimator.  The thresholds of the configuration are never emitted, since the call is
commented out.

The operations follow the source, the two sensors with their copies of one code.  An interval
that is due is a function of the times alone, so that what a tick writes is a concatenation of
three lists, each empty unless its sensor has something to say.  `mem_tick` and `mem_event` turn
this into cases once: a record is of one of the other types, or it is the light, and then its
value is that of the estimator or of a topic.

Readings are exact rationals, and the thread of the estimator is an event among the others, as
the monitor only reads its last value.
-/

namespace OroEdge.Environment

open OroEdge.Lib OroEdge.Storage

/-! ## Configuration and records -/

/-- The configuration, with the defaults of the code. -/
structure Settings where
  deviceId : String
  locationZone : String
  sensorSource : String
  tempMin : ℚ := 18
  tempMax : ℚ := 26
  humMin : ℚ := 30
  humMax : ℚ := 70
  lightThreshold : ℚ := 50
  configuredBy : String := "system"
  updatedAt : String := ""
  tickIntervalMs : ℕ := 5000
  light : LightModel
  targetLightSignalId : ℤ := 47
  targetLightSignalType : String := "ambient_light_level"
  targetLightUnit : String := "lux"

/-- The fields of a record that some operation sets, without the time of ingestion. -/
structure EnvSignalRecord where
  signalId : ℤ
  deviceId : String
  signalType : String
  signalValueNumeric : Option ℚ
  signalValueText : Option String
  unit : String
  observedAt : ℕ
  source : String
  confidence : Option ℚ
  metadata : Json
  deriving Repr

/-- What `emit_signal` inserts. -/
def emitSignal (record : EnvSignalRecord) : Signal where
  deviceId := record.deviceId
  signalId := some record.signalId
  signalType := record.signalType
  valueNumeric := record.signalValueNumeric
  valueText := record.signalValueText
  valueBoolean := none
  observedAt := unixMsToMicros record.observedAt

/-- The members of the monitor: the latest readings with their times, on which side of its comfort
range each sensor is, and the estimator of the light. -/
structure EnvironmentConditionMonitor where
  lastWriteTimeMs : ℕ
  latestTemp : Option ℚ
  tempObservedAt : ℕ
  latestHum : Option ℚ
  humObservedAt : ℕ
  tempCrossed : Bool
  humCrossed : Bool
  lightEstimator : AmbientLightEstimator
  deriving DecidableEq, Repr

/-- The monitor after an operation, and the records that the operation has handed over. -/
abbrev Emitting := EnvironmentConditionMonitor × List EnvSignalRecord

namespace EnvironmentConditionMonitor

/-- There have been no readings, and nothing has been written. -/
def construct : EnvironmentConditionMonitor where
  lastWriteTimeMs := 0
  latestTemp := none
  tempObservedAt := 0
  latestHum := none
  humObservedAt := 0
  tempCrossed := false
  humCrossed := false
  lightEstimator := .construct

variable (settings : Settings)

/-! ## Updates -/

/-- A value that has left its comfort range. -/
def crossingRecord (signalId : ℤ) (signalType unit : String) (value : ℚ) (now : ℕ) :
    EnvSignalRecord where
  signalId := signalId
  deviceId := settings.deviceId
  signalType := signalType
  signalValueNumeric := some value
  signalValueText := none
  unit := unit
  observedAt := now
  source := "EC"
  confidence := some 1
  metadata := .obj [("configured_by", .str settings.configuredBy),
    ("updated_at", .str (if settings.updatedAt = "" then unixMsToIso8601 now
      else settings.updatedAt)),
    ("zone_id", .str settings.locationZone)]

/-- Outside of the range, and whether that is to be recorded. -/
def crossing (low high value : ℚ) (crossed : Bool) : Bool × Bool :=
  let outside := decide (value < low) || decide (high < value)
  (outside, outside && !crossed)

/-- A row is written when the temperature leaves its comfort range. -/
def updateTemperature (valueCelsius : ℚ) (now : ℕ) (m : EnvironmentConditionMonitor) : Emitting :=
  let (outside, records) := crossing settings.tempMin settings.tempMax valueCelsius m.tempCrossed
  ({ m with latestTemp := some valueCelsius, tempObservedAt := now, tempCrossed := outside },
    if records then [crossingRecord settings 111 "environment_comfort_range_threshold"
      "degrees Celsius" valueCelsius now] else [])

/-- A row is written when the humidity leaves its comfort range. -/
def updateHumidity (valuePercentage : ℚ) (now : ℕ) (m : EnvironmentConditionMonitor) : Emitting :=
  let (outside, records) := crossing settings.humMin settings.humMax valuePercentage m.humCrossed
  ({ m with latestHum := some valuePercentage, humObservedAt := now, humCrossed := outside },
    if records then [crossingRecord settings 112 "humidity_comfort_range_threshold"
      "percentage" valuePercentage now] else [])

/-- A measured value with its time. -/
def sensorRecord (signalId : ℤ) (signalType unit : String) (value : ℚ) (observed : ℕ) :
    EnvSignalRecord where
  signalId := signalId
  deviceId := settings.deviceId
  signalType := signalType
  signalValueNumeric := some value
  signalValueText := none
  unit := unit
  observedAt := observed
  source := "EC"
  confidence := some 1
  metadata := .obj [("event_time", .str (unixMsToIso8601 observed)),
    ("location_zone", .str settings.locationZone), ("sensor_source", .str settings.sensorSource)]

/-- A row is written for each reading, and the reading is not kept. -/
def updateLightLevel (valueLux : ℚ) (now : ℕ) (m : EnvironmentConditionMonitor) : Emitting :=
  (m, [sensorRecord settings 47 "ambient_light_level" "lux" valueLux now])

/-! ## The tick -/

/-- A value of the estimator, with the time of the tick. -/
def lightRecord (signalId : ℤ) (signalType unit : String) (reading : ℚ × ℚ × String) (now : ℕ) :
    EnvSignalRecord where
  signalId := signalId
  deviceId := settings.deviceId
  signalType := signalType
  signalValueNumeric := some reading.1
  signalValueText := some reading.2.2
  unit := unit
  observedAt := now
  source := "EC"
  confidence := some reading.2.1
  metadata := .obj [("event_time", .str (unixMsToIso8601 now)),
    ("location_zone", .str settings.locationZone), ("lux_bucket", .str reading.2.2),
    ("sensor_source", .str "zmq_video_socket_flatbuffer")]

/-- The interval has passed, or nothing has been written yet. -/
def writes (m : EnvironmentConditionMonitor) (now : ℕ) : Bool :=
  decide (m.lastWriteTimeMs = 0) ||
    decide ((m.lastWriteTimeMs + settings.tickIntervalMs) % 18446744073709551616 ≤ now)

/-- The row of the latest temperature, with the time of the reading. -/
def temperatureRecords (m : EnvironmentConditionMonitor) : List EnvSignalRecord :=
  match m.latestTemp with
  | some value =>
      [sensorRecord settings 46 "environment_temperature" "degrees Celsius" value m.tempObservedAt]
  | none => []

/-- The row of the latest humidity, with the time of the reading. -/
def humidityRecords (m : EnvironmentConditionMonitor) : List EnvSignalRecord :=
  match m.latestHum with
  | some value => [sensorRecord settings 48 "ambient_humidity" "percentage" value m.humObservedAt]
  | none => []

/-- The row of the light, and the alert if it is dark. -/
def lightRecords (m : EnvironmentConditionMonitor) (now : ℕ) : List EnvSignalRecord :=
  match m.lightEstimator.getLatestLux with
  | some reading =>
      lightRecord settings settings.targetLightSignalId settings.targetLightSignalType
          settings.targetLightUnit reading now ::
        if reading.1 < settings.lightThreshold then
          [lightRecord settings 113 "light_threshold" "lux" reading now]
        else []
  | none => []

/-- The latest values are written once in an interval.  An interval begins with a tick that has
something to write. -/
def tick (now : ℕ) (m : EnvironmentConditionMonitor) : Emitting :=
  if m.writes settings now then
    let records := m.temperatureRecords settings ++ m.humidityRecords settings ++
      m.lightRecords settings now
    (if records = [] then m else { m with lastWriteTimeMs := now }, records)
  else (m, [])

end EnvironmentConditionMonitor

open EnvironmentConditionMonitor

/-! ## Events -/

/-- What happens to the node: a reading, a frame or a tick of its loop. -/
inductive Event
  | temperature (valueCelsius : ℚ) (observedAt : ℕ)
  | humidity (valuePercentage : ℚ) (observedAt : ℕ)
  | lightLevel (valueLux : ℚ) (observedAt : ℕ)
  | message (now : ℕ) (frame : Option VideoFrame)
  | tick (now : ℕ)
  deriving DecidableEq, Repr

def EnvironmentConditionMonitor.event (settings : Settings) (m : EnvironmentConditionMonitor) :
    Event → Emitting
  | .temperature value observedAt => m.updateTemperature settings value observedAt
  | .humidity value observedAt => m.updateHumidity settings value observedAt
  | .lightLevel value observedAt => m.updateLightLevel settings value observedAt
  | .message _ frame =>
      ({ m with lightEstimator := m.lightEstimator.receive settings.light frame }, [])
  | .tick now => m.tick settings now

/-- The types of the records other than the light. -/
def otherTypes : List String :=
  ["environment_comfort_range_threshold", "humidity_comfort_range_threshold",
    "environment_temperature", "ambient_humidity", "light_threshold"]

section

variable {settings : Settings} {m : EnvironmentConditionMonitor} {now : ℕ}
  {record : EnvSignalRecord}

theorem signalType_of_mem_temperatureRecords (hrecord : record ∈ m.temperatureRecords settings) :
    record.signalType ∈ otherTypes := by
  unfold temperatureRecords at hrecord
  split at hrecord
  · rw [List.mem_singleton.mp hrecord]
    simp [sensorRecord, otherTypes]
  · cases hrecord

theorem signalType_of_mem_humidityRecords (hrecord : record ∈ m.humidityRecords settings) :
    record.signalType ∈ otherTypes := by
  unfold humidityRecords at hrecord
  split at hrecord
  · rw [List.mem_singleton.mp hrecord]
    simp [sensorRecord, otherTypes]
  · cases hrecord

/-- The light of a tick is that of the estimator, or an alert. -/
theorem mem_lightRecords (hrecord : record ∈ m.lightRecords settings now) :
    record.signalType ∈ otherTypes ∨ ∃ reading, m.lightEstimator.getLatestLux = some reading ∧
      record = lightRecord settings settings.targetLightSignalId settings.targetLightSignalType
        settings.targetLightUnit reading now := by
  unfold lightRecords at hrecord
  split at hrecord
  · rename_i reading hreading
    rcases List.mem_cons.mp hrecord with rfl | halert
    · exact Or.inr ⟨reading, hreading, rfl⟩
    · rw [List.mem_ite_nil_right, List.mem_singleton] at halert
      rw [halert.2]
      exact Or.inl (by simp [lightRecord, otherTypes])
  · cases hrecord

/-- A tick hands over records only when it writes. -/
theorem mem_tick (hrecord : record ∈ (m.tick settings now).2) : m.writes settings now = true ∧
    (record ∈ m.temperatureRecords settings ∨ record ∈ m.humidityRecords settings ∨
      record ∈ m.lightRecords settings now) := by
  unfold tick at hrecord
  split at hrecord
  · rename_i hwrites
    rw [List.mem_append, List.mem_append, or_assoc] at hrecord
    exact ⟨hwrites, hrecord⟩
  · cases hrecord

end

/-- A record is of another type, or the light: that of a topic, or that of the estimator. -/
theorem mem_event (settings : Settings) (m : EnvironmentConditionMonitor) {event : Event}
    {record : EnvSignalRecord} (hrecord : record ∈ (m.event settings event).2) :
    record.signalType ∈ otherTypes ∨
    (∃ value observedAt, event = .lightLevel value observedAt ∧
      record = sensorRecord settings 47 "ambient_light_level" "lux" value observedAt) ∨
    ∃ now reading, event = .tick now ∧ m.writes settings now = true ∧
      m.lightEstimator.getLatestLux = some reading ∧
      record = lightRecord settings settings.targetLightSignalId settings.targetLightSignalType
        settings.targetLightUnit reading now := by
  cases event with
  | temperature value observedAt =>
      simp only [EnvironmentConditionMonitor.event, updateTemperature, List.mem_ite_nil_right,
        List.mem_singleton] at hrecord
      rw [hrecord.2]
      exact Or.inl (by simp [crossingRecord, otherTypes])
  | humidity value observedAt =>
      simp only [EnvironmentConditionMonitor.event, updateHumidity, List.mem_ite_nil_right,
        List.mem_singleton] at hrecord
      rw [hrecord.2]
      exact Or.inl (by simp [crossingRecord, otherTypes])
  | lightLevel value observedAt =>
      exact Or.inr (Or.inl ⟨value, observedAt, rfl, List.mem_singleton.mp hrecord⟩)
  | message now frame => cases hrecord
  | tick now =>
      obtain ⟨hwrites, htemp | hhum | hlight⟩ := mem_tick hrecord
      · exact Or.inl (signalType_of_mem_temperatureRecords htemp)
      · exact Or.inl (signalType_of_mem_humidityRecords hhum)
      · rcases mem_lightRecords hlight with hother | ⟨reading, hreading, hrecord⟩
        · exact Or.inl hother
        · exact Or.inr (Or.inr ⟨now, reading, rfl, hwrites, hreading, hrecord⟩)

/-- A tick that writes hands over the value of the estimator. -/
theorem lightRecord_mem_tick {settings : Settings} {m : EnvironmentConditionMonitor} {now : ℕ}
    {reading : ℚ × ℚ × String} (hwrites : m.writes settings now = true)
    (hreading : m.lightEstimator.getLatestLux = some reading) :
    lightRecord settings settings.targetLightSignalId settings.targetLightSignalType
      settings.targetLightUnit reading now ∈ (m.event settings (.tick now)).2 := by
  rw [EnvironmentConditionMonitor.event, tick, if_pos hwrites]
  refine List.mem_append_right _ ?_
  rw [lightRecords, hreading]
  exact List.mem_cons_self

/-! ## Runs -/

/-- The monitor, and the records that it has handed over. -/
structure Node where
  monitor : EnvironmentConditionMonitor
  emitted : List EnvSignalRecord

def Node.construct : Node := ⟨.construct, []⟩

/-- One event; the records of the node are those of all its events. -/
def step (settings : Settings) (node : Node) (event : Event) : Node where
  monitor := (node.monitor.event settings event).1
  emitted := node.emitted ++ (node.monitor.event settings event).2

def Node.after (settings : Settings) (events : List Event) : Node :=
  run (step settings) Node.construct events

/-- What an event hands over after the `earlier` ones. -/
def handedOver (settings : Settings) (earlier : List Event) (event : Event) :
    List EnvSignalRecord :=
  ((Node.after settings earlier).monitor.event settings event).2

/-- The signal table: rows from before, then those of the monitor. -/
def table (stored : List Signal) (node : Node) : List Signal :=
  stored ++ node.emitted.map emitSignal

theorem after_append_singleton (settings : Settings) (events : List Event) (event : Event) :
    Node.after settings (events ++ [event]) = step settings (Node.after settings events) event := by
  unfold Node.after
  rw [run_append]
  rfl

/-- A record has been handed over by some event of the run. -/
theorem exists_handedOver {settings : Settings} {events : List Event} {record : EnvSignalRecord}
    (hrecord : record ∈ (Node.after settings events).emitted) :
    ∃ earlier event later, events = earlier ++ event :: later ∧
      record ∈ handedOver settings earlier event := by
  induction events using List.reverseRecOn with
  | nil => cases hrecord
  | append_singleton events event ih =>
      rw [after_append_singleton, step] at hrecord
      rcases List.mem_append.mp hrecord with hearlier | hnew
      · obtain ⟨earlier, event', later, rfl, hmem⟩ := ih hearlier
        exact ⟨earlier, event', later ++ [event], by simp, hmem⟩
      · exact ⟨events, event, [], rfl, hnew⟩

end OroEdge.Environment
