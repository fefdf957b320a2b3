import OroEdge.Environment.LiveSensors
import OroEdge.Lib.Sampled

/-!
# A reading is stored once

No two stored rows of the temperature, and no two of the humidity, should have the same time
of observation (`StoredOnce`).

The monitor is a cell for each of the two sensors.  A tick that is due samples the cells, and
what it takes stays in them (`Sensor.IsCell`).  So the rows of a sensor are the samples
(`storedTimes_run`), and no reading is stored twice exactly as long as every sensor that has
reported reports again between any two ticks that are due (`storedOnce_iff`).

A cell is the library's: something is put into it, and it is sampled without being emptied, so
two samples with no put between them are the same.  `Sensor.IsCell` says that the monitor is one
for a sensor, by cases on the calls (`isCell_of_updates`), once for both sensors.  The rows are
the samples (`storedTimes_run`), and with increasing times of observation two rows have one time
exactly if they are two samples of one reading.

A tick that is not due does not look at the cells, so it is no access at all, and how many of
them come between two that are due does not matter.
-/

namespace OroEdge.Environment

open OroEdge.Lib EnvironmentConditionMonitor

/-! ## The property -/

/-- The type of the rows of a sensor, the calls that bring its readings, and what the monitor
holds of them. -/
structure Sensor where
  signalType : String
  reading? : Event → Option ℕ
  cell : EnvironmentConditionMonitor → Option ℕ

/-- The latest temperature is kept with the time at which it was read. -/
def temperatureSensor : Sensor :=
  ⟨"environment_temperature", temperatureTime?, fun m => m.latestTemp.map fun _ => m.tempObservedAt⟩

def humiditySensor : Sensor :=
  ⟨"ambient_humidity", humidityTime?, fun m => m.latestHum.map fun _ => m.humObservedAt⟩

/-- The two sensors whose latest value is written again and again. -/
def sensors : List Sensor := [temperatureSensor, humiditySensor]

/-- The times of observation of the records of a type.  Each record becomes a row. -/
def storedTimes (signalType : String) (records : List EnvSignalRecord) : List ℕ :=
  (records.filter fun record => decide (record.signalType = signalType)).map
    EnvSignalRecord.observedAt

/-- No two rows of a sensor are of the same time. -/
def StoredOnce (settings : Settings) (events : List Event) : Prop :=
  ∀ sensor ∈ sensors,
    (storedTimes sensor.signalType (Node.after settings events).emitted).Nodup

/-- A call of `update_temperature`, `update_humidity` or `tick`. -/
def Event.ofSensors : Event → Bool
  | .temperature _ _ => true
  | .humidity _ _ => true
  | .tick _ => true
  | _ => false

/-- Such calls, with increasing times of observation for each sensor. -/
structure SensorRun (events : List Event) : Prop where
  ofSensors : ∀ event ∈ events, event.ofSensors = true
  increasing : ∀ sensor ∈ sensors, (events.filterMap sensor.reading?).Pairwise (· < ·)

/-! ## The monitor as two cells -/

/-- The call is a tick that writes. -/
def EnvironmentConditionMonitor.due (settings : Settings) (m : EnvironmentConditionMonitor) :
    Event → Bool
  | .tick now => m.writes settings now
  | _ => false

/-- What a call does to the cell of a sensor: a reading is put into it, and a tick that is due
samples it. -/
def Sensor.access? (sensor : Sensor) (settings : Settings) (m : EnvironmentConditionMonitor)
    (event : Event) : Option (Access ℕ) :=
  match sensor.reading? event with
  | some observedAt => some (.put observedAt)
  | none => if m.due settings event then some .sample else none

/-- The readings of a sensor and the ticks that are due, in the order in which they come. -/
def Sensor.accesses (sensor : Sensor) (settings : Settings) :
    EnvironmentConditionMonitor → List Event → List (Access ℕ)
  | _, [] => []
  | m, event :: rest =>
      (sensor.access? settings m event).toList ++
        sensor.accesses settings (m.event settings event).1 rest

/-- Every sensor that has reported before a tick that is due reports again before the next. -/
def ReportsBetweenTicks (settings : Settings) (events : List Event) : Prop :=
  ∀ sensor ∈ sensors, Refreshed (sensor.accesses settings .construct events)

/-- The monitor holds the latest reading, and a tick that is due stores it. -/
structure Sensor.IsCell (sensor : Sensor) : Prop where
  reading?_tick : ∀ now, sensor.reading? (.tick now) = none
  cell_event : ∀ settings m event, event.ofSensors = true →
    sensor.cell (m.event settings event).1 = (sensor.reading? event).or (sensor.cell m)
  stored : ∀ settings m event, event.ofSensors = true → m.lightEstimator.getLatestLux = none →
    storedTimes sensor.signalType (m.event settings event).2 =
      if m.due settings event then (sensor.cell m).toList else []

/-! ## One call -/

section

variable {settings : Settings} {m : EnvironmentConditionMonitor}

theorem storedTimes_append (signalType : String) (first second : List EnvSignalRecord) :
    storedTimes signalType (first ++ second) =
      storedTimes signalType first ++ storedTimes signalType second := by
  unfold storedTimes
  rw [List.filter_append, List.map_append]

/-- A crossing of a threshold is of a type of its own. -/
theorem storedTimes_crossing {signalType crossingType : String} (hne : crossingType ≠ signalType)
    (records : Bool) (signalId : ℤ) (unit : String) (value : ℚ) (now : ℕ) :
    storedTimes signalType (if records then
      [crossingRecord settings signalId crossingType unit value now] else []) = [] := by
  unfold storedTimes
  cases records
  · rfl
  · simp [crossingRecord, hne]

/-- A tick moves no more than the time of the last write. -/
theorem tick_fst_cases (settings : Settings) (m : EnvironmentConditionMonitor) (now : ℕ) :
    (m.tick settings now).1 = m ∨ (m.tick settings now).1 = { m with lastWriteTimeMs := now } := by
  unfold tick
  dsimp only
  split_ifs
  · exact Or.inl rfl
  · exact Or.inr rfl
  · exact Or.inl rfl

/-- Without a frame, the light estimator has nothing to store, and keeps so. -/
theorem lightEstimator_event {event : Event} (hevent : event.ofSensors = true) :
    (m.event settings event).1.lightEstimator = m.lightEstimator := by
  cases event with
  | temperature value observedAt => rfl
  | humidity value observedAt => rfl
  | tick now =>
      rw [EnvironmentConditionMonitor.event]
      rcases tick_fst_cases settings m now with hsame | hwritten
      · rw [hsame]
      · rw [hwritten]
  | lightLevel value observedAt => cases hevent
  | message now frame => cases hevent

/-- A tick stores what the two cells hold, if it is due. -/
theorem tick_snd (hdark : m.lightEstimator.getLatestLux = none) (now : ℕ) :
    (m.tick settings now).2 = if m.writes settings now then
      m.temperatureRecords settings ++ m.humidityRecords settings else [] := by
  have hlight : m.lightRecords settings now = [] := by rw [lightRecords, hdark]
  unfold tick
  rw [hlight, List.append_nil]
  dsimp only
  split_ifs <;> rfl

theorem storedTimes_temperatureRecords (signalType : String) :
    storedTimes signalType (m.temperatureRecords settings) =
      if signalType = "environment_temperature" then (temperatureSensor.cell m).toList else [] := by
  unfold storedTimes temperatureRecords temperatureSensor
  split_ifs with htype
  · cases hlatest : m.latestTemp <;> simp [sensorRecord, htype, hlatest]
  · cases hlatest : m.latestTemp <;> simp [sensorRecord, Ne.symm htype]

theorem storedTimes_humidityRecords (signalType : String) :
    storedTimes signalType (m.humidityRecords settings) =
      if signalType = "ambient_humidity" then (humiditySensor.cell m).toList else [] := by
  unfold storedTimes humidityRecords humiditySensor
  split_ifs with htype
  · cases hlatest : m.latestHum <;> simp [sensorRecord, htype, hlatest]
  · cases hlatest : m.latestHum <;> simp [sensorRecord, Ne.symm htype]

end

/-- A sensor is a cell if the updates put its readings into what the monitor holds, the time of
the last write does not matter, and a tick writes what is held and no crossing. -/
theorem isCell_of_updates {sensor : Sensor} (htick : ∀ now, sensor.reading? (.tick now) = none)
    (htemperature : ∀ settings m value observedAt,
      sensor.cell (EnvironmentConditionMonitor.updateTemperature settings value observedAt m).1 =
        (sensor.reading? (.temperature value observedAt)).or (sensor.cell m))
    (hhumidity : ∀ settings m value observedAt,
      sensor.cell (EnvironmentConditionMonitor.updateHumidity settings value observedAt m).1 =
        (sensor.reading? (.humidity value observedAt)).or (sensor.cell m))
    (hwritten : ∀ m now,
      sensor.cell { m with lastWriteTimeMs := now } = sensor.cell m)
    (hcrossings : "environment_comfort_range_threshold" ≠ sensor.signalType ∧
      "humidity_comfort_range_threshold" ≠ sensor.signalType)
    (hrecords : ∀ settings m,
      storedTimes sensor.signalType (EnvironmentConditionMonitor.temperatureRecords settings m ++
        EnvironmentConditionMonitor.humidityRecords settings m) = (sensor.cell m).toList) :
    sensor.IsCell where
  reading?_tick := htick
  cell_event settings m event hevent := by
    cases event with
    | temperature value observedAt => exact htemperature ..
    | humidity value observedAt => exact hhumidity ..
    | tick now =>
        rw [EnvironmentConditionMonitor.event, htick, Option.none_or]
        rcases tick_fst_cases settings m now with hsame | hmoved
        · rw [hsame]
        · rw [hmoved, hwritten]
    | lightLevel value observedAt => cases hevent
    | message now frame => cases hevent
  stored settings m event hevent hdark := by
    cases event with
    | temperature value observedAt => exact storedTimes_crossing hcrossings.1 ..
    | humidity value observedAt => exact storedTimes_crossing hcrossings.2 ..
    | tick now =>
        rw [EnvironmentConditionMonitor.event, tick_snd hdark, due]
        split_ifs
        · exact hrecords settings m
        · rfl
    | lightLevel value observedAt => cases hevent
    | message now frame => cases hevent

theorem isCell_temperatureSensor : temperatureSensor.IsCell := by
  refine isCell_of_updates (fun _ => rfl) (fun _ _ _ _ => rfl) (fun _ _ _ _ => rfl)
    (fun _ _ => rfl) (by decide) fun settings m => ?_
  rw [storedTimes_append, storedTimes_temperatureRecords, storedTimes_humidityRecords]
  simp [temperatureSensor]

theorem isCell_humiditySensor : humiditySensor.IsCell := by
  refine isCell_of_updates (fun _ => rfl) (fun _ _ _ _ => rfl) (fun _ _ _ _ => rfl)
    (fun _ _ => rfl) (by decide) fun settings m => ?_
  rw [storedTimes_append, storedTimes_temperatureRecords, storedTimes_humidityRecords]
  simp [humiditySensor]

theorem isCell_of_mem {sensor : Sensor} (hsensor : sensor ∈ sensors) : sensor.IsCell := by
  rw [sensors, List.mem_cons, List.mem_singleton] at hsensor
  rcases hsensor with rfl | rfl
  · exact isCell_temperatureSensor
  · exact isCell_humiditySensor

/-! ## Every run -/

section

variable {settings : Settings} {sensor : Sensor} {events : List Event}

theorem puts_accesses (m : EnvironmentConditionMonitor) :
    puts (sensor.accesses settings m events) = events.filterMap sensor.reading? := by
  induction events generalizing m with
  | nil => rfl
  | cons event rest ih =>
      rw [Sensor.accesses, puts_append, ih, List.filterMap_cons, Sensor.access?]
      cases hreading : sensor.reading? event with
      | some observedAt => rfl
      | none => cases m.due settings event <;> rfl

/-- The rows of a sensor are the samples of its cell. -/
theorem storedTimes_run (hcell : sensor.IsCell) (hevents : ∀ event ∈ events, event.ofSensors = true)
    {node : Node} (hdark : node.monitor.lightEstimator.getLatestLux = none) :
    storedTimes sensor.signalType (run (step settings) node events).emitted =
      storedTimes sensor.signalType node.emitted ++
        sampled (sensor.cell node.monitor) (sensor.accesses settings node.monitor events) := by
  induction events generalizing node with
  | nil => exact (List.append_nil _).symm
  | cons event rest ih =>
      obtain ⟨hevent, hrest⟩ := List.forall_mem_cons.mp hevents
      have hstill : (step settings node event).monitor.lightEstimator.getLatestLux = none := by
        show (node.monitor.event settings event).1.lightEstimator.getLatestLux = none
        rw [lightEstimator_event hevent]
        exact hdark
      have hemitted : (step settings node event).emitted =
          node.emitted ++ (node.monitor.event settings event).2 := rfl
      have hmonitor : (step settings node event).monitor =
          (node.monitor.event settings event).1 := rfl
      rw [run_cons, ih hrest hstill, hemitted, hmonitor, storedTimes_append,
        hcell.stored settings _ event hevent hdark, hcell.cell_event settings _ event hevent,
        Sensor.accesses, List.append_assoc, Sensor.access?]
      congr 1
      cases hreading : sensor.reading? event with
      | some observedAt =>
          -- no tick is a reading
          have hnot : node.monitor.due settings event = false := by
            cases event with
            | tick now =>
                rw [hcell.reading?_tick] at hreading
                cases hreading
            | _ => rfl
          rw [hnot]
          rfl
      | none => cases node.monitor.due settings event <;> rfl

theorem storedTimes_after (hcell : sensor.IsCell) (hempty : sensor.cell .construct = none)
    (hevents : ∀ event ∈ events, event.ofSensors = true) :
    storedTimes sensor.signalType (Node.after settings events).emitted =
      sampled none (sensor.accesses settings .construct events) := by
  rw [Node.after, storedTimes_run hcell hevents rfl, ← hempty]
  rfl

end

/-- **A reading is stored once, exactly.**  If every sensor reports at increasing times, no
reading is stored twice if and only if every sensor that has reported before a tick that is
due reports again before the next such tick. -/
theorem storedOnce_iff (settings : Settings) {events : List Event} (hrun : SensorRun events) :
    StoredOnce settings events ↔ ReportsBetweenTicks settings events := by
  unfold StoredOnce ReportsBetweenTicks
  refine forall₂_congr fun sensor hsensor => ?_
  have hcell := isCell_of_mem hsensor
  have hempty : sensor.cell .construct = none := by
    rw [sensors, List.mem_cons, List.mem_singleton] at hsensor
    rcases hsensor with rfl | rfl <;> rfl
  have hnodup : (puts (sensor.accesses settings .construct events)).Nodup := by
    rw [puts_accesses]
    exact (hrun.increasing sensor hsensor).imp fun hlt => hlt.ne
  rw [storedTimes_after hcell hempty hrun.ofSensors]
  exact nodup_sampled_iff hnodup

/-! ### A sensor that has stopped -/

/-- A reading, and two ticks that are due. -/
def stoppedSensor : List Event := [.temperature 21 1000, .tick 6000, .tick 11000]

/-- The sensor reports again between the ticks. -/
def liveSensor : List Event :=
  [.temperature 21 1000, .tick 6000, .temperature 22 7000, .tick 11000]

theorem sensorRun_liveSensor : SensorRun liveSensor :=
  ⟨by decide, by decide⟩

theorem storedOnce_liveSensor : StoredOnce shippedSettings liveSensor ↔
    ReportsBetweenTicks shippedSettings liveSensor :=
  storedOnce_iff shippedSettings sensorRun_liveSensor

theorem not_storedOnce_stoppedSensor :
    SensorRun stoppedSensor ∧ ¬ StoredOnce shippedSettings stoppedSensor := by
  refine ⟨⟨by decide, by decide⟩, fun honce => ?_⟩
  have htemperature := honce temperatureSensor List.mem_cons_self
  exact absurd htemperature (by decide +kernel)

end OroEdge.Environment
