import OroEdge.Storage.Timestamp
import OroEdge.Tables

/-!
# The health monitor

`HealthMonitor` caches the state of the subsystems, decides which changes and
which periodic snapshots become signals, and hands these to the storage writer.
The result of a write is not read, so an operation is a function from the monitor
to the monitor and the records it hands over, in order.

Times are unsigned 64-bit milliseconds, and their differences wrap (`sub64`).
Readings are exact rationals.

The definitions follow the order of the operations in the source, with the constants of its
configuration in front.  A section of a `tick` is a function of its own, so that a theorem about
the battery need not know what a `tick` does for the pump; `Emitting.andThen` runs one section
after another, on the monitor that the one before has left, and keeps the records in order.

An unset text is empty, a time that has not been is 0, and a level that has not been read is
negative, as in the source; no option type is put in their place, since the code compares with
these values, and what it does for a device that really sends them depends on it.
-/

namespace OroEdge.Health

open OroEdge.Lib OroEdge.Storage

/-! ## Configuration -/

def deviceId : String := "9e092b69-5973-46e4-a228-fe4933e04364"

/-- How often the node writes a heartbeat. -/
def heartbeatIntervalMs : ℕ := 10000

/-- How often the level of the battery is written if it does not change. -/
def batterySnapshotIntervalMs : ℕ := 60000

/-- How much the level has to change to be written at once. -/
def batteryChangeThreshold : ℚ := 3

/-- Below this level the battery is low. -/
def batteryLowThreshold : ℚ := 10

/-- How often the quality of the frames is written. -/
def frameQualityIntervalMs : ℕ := 30000

/-- How long the pump may run without water in the bowl. -/
def waterPumpHealthTimeoutMs : ℕ := 10000

/-- How often the state of the power supply is written. -/
def powerSupplyIntervalMs : ℕ := 10000

/-! ## Records -/

/-- The fields of a record that an operation of the monitor sets. -/
structure SignalRecord where
  deviceId : String
  signalType : String
  signalValueNumeric : Option ℚ
  signalValueBoolean : Option Bool
  signalValueText : Option String
  unit : String
  observedAt : ℕ
  source : String
  metadata : String
  deriving DecidableEq, Repr

def numericRecord (signalType : String) (value : ℚ) (unit : String) (now : ℕ)
    (metadata : String) : SignalRecord :=
  ⟨deviceId, signalType, some value, none, none, unit, now, "system", metadata⟩

def textRecord (signalType value unit : String) (now : ℕ) (metadata : String) : SignalRecord :=
  ⟨deviceId, signalType, none, none, some value, unit, now, "system", metadata⟩

/-- The signal numbers of `emit_signal`; any other type has number `0`. -/
def signalNumbers : List (String × ℤ) :=
  [("device_heartbeat", 71), ("device_heartbeat_missed_event", 71),
    ("device_connectivity_status", 72), ("battery_level", 73), ("power_supply_status", 74),
    ("camera_obstruction_status", 75), ("frame_brightness_contrast_quality", 76),
    ("sensor_health_status", 77), ("sensor_communication_status", 78),
    ("firmware_version", 79), ("latest_firmware_version_available", 80),
    ("firmware_update_availability_flag", 81), ("firmware_update_completion_event", 82),
    ("firmware_update_status", 83), ("settings_apply_success_status", 98),
    ("last_seen_timestamp", 106), ("communication_timeout_threshold", 107),
    ("battery_low_threshold", 110), ("fountain_pump_health_status", 127),
    ("water_fountain_status", 128)]

/-- The row that `emit_signal` inserts. -/
def emitSignal (record : SignalRecord) : Signal where
  deviceId := record.deviceId
  signalId := some ((signalNumbers.lookup record.signalType).getD 0)
  signalType := record.signalType
  valueNumeric := record.signalValueNumeric
  valueText := record.signalValueText
  valueBoolean := record.signalValueBoolean
  observedAt := unixMsToMicros record.observedAt

/-! ## The monitor -/

/-- The members of the monitor: what was last heard of each part of the device, and when it was last
written. -/
structure HealthMonitor where
  nodeStartTimeMs : ℕ
  lastNodeHeartbeatEmit : ℕ
  nodeHeartbeatSeq : ℕ
  lastHbArrivalTimeMs : ℕ
  lastHbChangeTimeMs : ℕ
  lastHbSeq : ℕ
  hbStale : Bool
  lastBatteryLevel : ℚ
  lastBatteryEmit : ℕ
  batteryLowEventLogged : Bool
  lastFrameQuality : ℚ
  lastFrameQualityEmit : ℕ
  lastConnectivityStatus : String
  lastConnectivityEmit : ℕ
  lastPowerStatus : String
  lastPowerSourceType : String
  lastPowerVoltageState : String
  lastPowerEmitMs : ℕ
  timeoutConfig : ℚ
  batteryLowConfig : ℚ
  lastPumpState : String
  pumpOnStartTimeMs : ℕ
  isPumpRunning : Bool
  pumpDamageReported : Bool
  lastBowlLevel : ℤ
  deriving DecidableEq, Repr

/-- The constructor, with the reading of `now_ms`. -/
def HealthMonitor.construct (now : ℕ) : HealthMonitor where
  nodeStartTimeMs := now
  lastNodeHeartbeatEmit := 0
  nodeHeartbeatSeq := 0
  lastHbArrivalTimeMs := 0
  lastHbChangeTimeMs := 0
  lastHbSeq := 0
  hbStale := false
  lastBatteryLevel := -1
  lastBatteryEmit := 0
  batteryLowEventLogged := false
  lastFrameQuality := -1
  lastFrameQualityEmit := 0
  lastConnectivityStatus := ""
  lastConnectivityEmit := 0
  lastPowerStatus := ""
  lastPowerSourceType := ""
  lastPowerVoltageState := ""
  lastPowerEmitMs := 0
  timeoutConfig := -1
  batteryLowConfig := -1
  lastPumpState := "unknown"
  pumpOnStartTimeMs := 0
  isPumpRunning := false
  pumpDamageReported := false
  lastBowlLevel := 0

/-- What an operation leaves and what it hands to the writer. -/
abbrev Emitting := HealthMonitor × List SignalRecord

/-- One operation after another. -/
def Emitting.andThen (first : Emitting) (second : HealthMonitor → Emitting) : Emitting :=
  ((second first.1).1, first.2 ++ (second first.1).2)

theorem Emitting.andThen_fst (first : Emitting) (second : HealthMonitor → Emitting) :
    (first.andThen second).1 = (second first.1).1 := rfl

theorem Emitting.andThen_snd (first : Emitting) (second : HealthMonitor → Emitting) :
    (first.andThen second).2 = first.2 ++ (second first.1).2 := rfl

namespace HealthMonitor

/-- `(current_time_ms - node_start_time_ms_) / 1000`, as text. -/
def uptimeText (m : HealthMonitor) (now : ℕ) : String :=
  toString (sub64 now m.nodeStartTimeMs / 1000)

/-! ### #71 device_heartbeat -/

/-- The heartbeat of the node itself, whatever is heard of the device. -/
def tickHeartbeat (now : ℕ) (m : HealthMonitor) : Emitting :=
  if heartbeatIntervalMs ≤ sub64 now m.lastNodeHeartbeatEmit then
    ({ m with nodeHeartbeatSeq := m.nodeHeartbeatSeq + 1, lastNodeHeartbeatEmit := now },
      [textRecord "device_heartbeat" (unixMsToIso8601 now) "timestamp" now
        ("\x7b\"event_time\":" ++ toString now ++ ",\"device_id\":\"" ++ deviceId ++
          "\",\"uptime_seconds\":" ++ m.uptimeText now ++ "\x7d")])
  else
    (m, [])

/-- No heartbeat has come for three seconds. -/
def heartbeatSilent (m : HealthMonitor) (now : ℕ) : Bool :=
  decide (3000 ≤ sub64 now m.lastHbArrivalTimeMs)

/-- The sequence number has not changed for three seconds. -/
def heartbeatStagnant (m : HealthMonitor) (now : ℕ) : Bool :=
  decide (3000 ≤ sub64 now m.lastHbChangeTimeMs)

/-- A miss is written once, until a heartbeat with a new number clears it. -/
def tickHeartbeatMissed (now : ℕ) (m : HealthMonitor) : Emitting :=
  if 0 < m.lastHbArrivalTimeMs ∧ (m.heartbeatSilent now || m.heartbeatStagnant now) ∧
      !m.hbStale then
    let silent := m.heartbeatSilent now
    ({ m with hbStale := true },
      [textRecord "device_heartbeat_missed_event" (if silent then "silent" else "stagnant")
        "event" now
        ("\x7b\"event_time\":" ++ toString now ++ ",\"device_id\":\"" ++ deviceId ++
          "\",\"uptime_seconds\":" ++ m.uptimeText now ++ ",\"issue\":\"" ++
          (if silent then "SILENT" else "STAGNANT") ++ "\"\x7d")])
  else
    (m, [])

/-- `seq_num` is an unsigned byte. -/
def updateDeviceHeartbeat (seqNum now : ℕ) (m : HealthMonitor) : Emitting :=
  let m := { m with lastHbArrivalTimeMs := now }
  if seqNum ≠ m.lastHbSeq then
    ({ m with lastHbSeq := seqNum, lastHbChangeTimeMs := now, hbStale := false }, [])
  else
    (m, [])

/-! ### #73 battery_level and #110 battery_low_threshold -/

/-- The held level is a reading below the fixed low threshold. -/
def heldLow (m : HealthMonitor) : Bool :=
  decide (0 ≤ m.lastBatteryLevel) && decide (m.lastBatteryLevel < batteryLowThreshold)

/-- A minute has passed since the last battery record. -/
def batteryElapsed (m : HealthMonitor) (now : ℕ) : Bool :=
  decide (batterySnapshotIntervalMs ≤ sub64 now m.lastBatteryEmit)

/-- The low event is written once while the level stays low, and a snapshot of any other level at its
interval. -/
def tickBattery (now : ℕ) (m : HealthMonitor) : Emitting :=
  if m.heldLow then
    if !m.batteryLowEventLogged then
      ({ m with lastBatteryEmit := now, batteryLowEventLogged := true },
        [numericRecord "battery_low_threshold" m.lastBatteryLevel "percentage" now
          ("\x7b\"battery_id\":\"default\",\"configured_by\":\"system\",\"updated_at\":" ++
            toString now ++ "\x7d")])
    else
      (m, [])
  else if batteryLowThreshold ≤ m.lastBatteryLevel then
    let m := { m with batteryLowEventLogged := false }
    if m.batteryElapsed now then
      ({ m with lastBatteryEmit := now },
        [numericRecord "battery_level" m.lastBatteryLevel "percentage" now
          ("\x7b\"event_time\":" ++ toString now ++
            ",\"battery_id\":\"default\",\"power_mode\":\"unknown\"\x7d")])
    else
      (m, [])
  else
    (m, [])

/-- A level is recorded after a minute, at first, or when it has changed enough. -/
def recordsLevel (m : HealthMonitor) (level : ℚ) (now : ℕ) : Bool :=
  m.batteryElapsed now ||
    (decide (m.lastBatteryLevel < 0) ||
      decide (batteryChangeThreshold ≤ |level - m.lastBatteryLevel|))

/-- The level is written if it has changed by enough, or the last one is old. -/
def updateBatteryLevel (level : ℚ) (batteryId powerMode : String) (now : ℕ)
    (m : HealthMonitor) : Emitting :=
  if m.recordsLevel level now then
    ({ m with lastBatteryLevel := level, lastBatteryEmit := now },
      [numericRecord "battery_level" level "percentage" now
        ("\x7b\"event_time\":" ++ toString now ++ ",\"battery_id\":\"" ++ batteryId ++
          "\",\"power_mode\":\"" ++ powerMode ++ "\"\x7d")])
  else
    (m, [])

/-- `std::abs(threshold - battery_low_config_) > 0.0001`. -/
def changesLowConfig (m : HealthMonitor) (threshold : ℚ) : Bool :=
  decide (1 / 10000 < |threshold - m.batteryLowConfig|)

/-- The threshold is written if it changes. -/
def updateBatteryLowConfig (threshold : ℚ) (batteryId configuredBy : String) (now : ℕ)
    (m : HealthMonitor) : Emitting :=
  if m.changesLowConfig threshold then
    ({ m with batteryLowConfig := threshold },
      [numericRecord "battery_low_threshold" threshold "percentage" now
        ("\x7b\"battery_id\":\"" ++ batteryId ++ "\",\"configured_by\":\"" ++ configuredBy ++
          "\",\"updated_at\":" ++ toString now ++ "\x7d")])
  else
    (m, [])

/-! ### #74 power_supply_status -/

/-- What was last heard of the power supply is written at its interval. -/
def tickPowerSupply (now : ℕ) (m : HealthMonitor) : Emitting :=
  if m.lastPowerStatus ≠ "" ∧ powerSupplyIntervalMs ≤ sub64 now m.lastPowerEmitMs then
    ({ m with lastPowerEmitMs := now },
      [textRecord "power_supply_status" m.lastPowerStatus "categorical" now
        ("\x7b\"event_time\":" ++ toString now ++ ",\"source_type\":\"" ++
          m.lastPowerSourceType ++ "\",\"voltage_state\":\"" ++ m.lastPowerVoltageState ++
          "\"\x7d")])
  else
    (m, [])

/-- The state is held for the ticks. -/
def updatePowerSupplyStatus (status sourceType voltageState : String) (m : HealthMonitor) :
    Emitting :=
  ({ m with
      lastPowerStatus := status
      lastPowerSourceType := sourceType
      lastPowerVoltageState := voltageState }, [])

/-! ### #72 device_connectivity_status -/

/-- What `get_system_network_info` finds under `/sys` and `/proc`. -/
structure NetworkInfo where
  type : String
  strength : String
  deriving DecidableEq, Repr

/-- The sum `last_connectivity_emit_ + 5000` is unsigned. -/
def updateDeviceConnectivityStatus (status : String) (sysInfo : NetworkInfo) (now : ℕ)
    (m : HealthMonitor) : Emitting :=
  if status ≠ m.lastConnectivityStatus ∨
      (m.lastConnectivityEmit + 5000) % 18446744073709551616 ≤ now then
    ({ m with lastConnectivityStatus := status, lastConnectivityEmit := now },
      [textRecord "device_connectivity_status" status "categorical" now
        ("\x7b\"event_time\":" ++ toString now ++ ",\"network_type\":\"" ++ sysInfo.type ++
          "\",\"signal_strength\":\"" ++ sysInfo.strength ++ "\"\x7d")])
  else
    (m, [])

/-- What was last heard of the connection is written every five seconds. -/
def tickConnectivity (sysInfo : NetworkInfo) (now : ℕ) (m : HealthMonitor) : Emitting :=
  if m.lastConnectivityStatus ≠ "" ∧ 5000 ≤ sub64 now m.lastConnectivityEmit then
    m.updateDeviceConnectivityStatus m.lastConnectivityStatus sysInfo now
  else
    (m, [])

/-! ### #127 fountain_pump_health_status and #128 water_fountain_status -/

/-- A pump that has run for too long without water has failed, which is written once for a run of
the pump. -/
def tickPump (now : ℕ) (m : HealthMonitor) : Emitting :=
  if m.isPumpRunning ∧ !m.pumpDamageReported ∧
      waterPumpHealthTimeoutMs ≤ sub64 now m.pumpOnStartTimeMs ∧ m.lastBowlLevel ≠ 1 then
    ({ m with pumpDamageReported := true },
      [textRecord "fountain_pump_health_status" "failed" "categorical" now
        ("\x7b\"pump_id\":\"pump_0\",\"event_time\":" ++ toString now ++
          ",\"diagnostic_code\":\"PUMP_DRY_RUN_TIMEOUT\"\x7d")])
  else
    (m, [])

/-- The row of a fountain that starts or stops. -/
def fountainRecord (status : String) (now : ℕ) : SignalRecord :=
  textRecord "water_fountain_status" status "categorical" now
    ("\x7b\"fountain_id\":\"fountain_0\",\"event_time\":" ++ toString now ++
      ",\"operating_mode\":\"" ++ (if status = "running" then "active" else "idle") ++
      "\"\x7d")

/-- The row of a pump that stops without having failed. -/
def pumpHealthyRecord (now : ℕ) : SignalRecord :=
  textRecord "fountain_pump_health_status" "healthy" "categorical" now
    ("\x7b\"pump_id\":\"pump_0\",\"event_time\":" ++ toString now ++
      ",\"diagnostic_code\":\"OK\"\x7d")

/-- A start resets the timer; a stop tells the health of the pump if it has not failed. -/
def updateWaterPumpState (status : String) (now : ℕ) (m : HealthMonitor) : Emitting :=
  if status ≠ m.lastPumpState then
    if status = "running" then
      ({ m with
          isPumpRunning := true
          pumpOnStartTimeMs := now
          pumpDamageReported := false
          lastPumpState := status }, [fountainRecord status now])
    else
      ({ m with isPumpRunning := false, lastPumpState := status },
        fountainRecord status now ::
          if !m.pumpDamageReported then [pumpHealthyRecord now] else [])
  else
    (m, [])

/-- The level is held for the ticks. -/
def updateBowlWaterLevel (state : ℤ) (m : HealthMonitor) : Emitting :=
  ({ m with lastBowlLevel := state }, [])

/-! ### #76 frame_brightness_contrast_quality -/

def frameQualityRecord (quality : ℚ) (cameraId frameId : String) (now : ℕ) : SignalRecord :=
  numericRecord "frame_brightness_contrast_quality" quality "score" now
    ("\x7b\"event_time\":" ++ toString now ++ ",\"camera_id\":\"" ++ cameraId ++
      "\",\"frame_id\":\"" ++ frameId ++ "\"\x7d")

/-- What was last heard of the frames is written at its interval. -/
def tickFrameQuality (now : ℕ) (m : HealthMonitor) : Emitting :=
  if 0 ≤ m.lastFrameQuality ∧ frameQualityIntervalMs ≤ sub64 now m.lastFrameQualityEmit then
    ({ m with lastFrameQualityEmit := now },
      [frameQualityRecord m.lastFrameQuality "default" "" now])
  else
    (m, [])

/-- The quality is held, and written at its interval. -/
def updateFrameQuality (quality : ℚ) (cameraId frameId : String) (now : ℕ)
    (m : HealthMonitor) : Emitting :=
  let m := { m with lastFrameQuality := quality }
  if frameQualityIntervalMs ≤ sub64 now m.lastFrameQualityEmit then
    ({ m with lastFrameQualityEmit := now }, [frameQualityRecord quality cameraId frameId now])
  else
    (m, [])

/-! ### #107 communication_timeout_threshold -/

/-- The threshold is written if it changes by enough. -/
def updateTimeoutConfig (threshold : ℚ) (componentName configuredBy : String) (now : ℕ)
    (m : HealthMonitor) : Emitting :=
  if 1 / 10000 < |threshold - m.timeoutConfig| then
    ({ m with timeoutConfig := threshold },
      [numericRecord "communication_timeout_threshold" threshold "seconds" now
        ("\x7b\"component_name\":\"" ++ componentName ++ "\",\"configured_by\":\"" ++
          configuredBy ++ "\",\"updated_at\":" ++ toString now ++ "\x7d")])
  else
    (m, [])

/-! ### The periodic controller -/

/-- The seven parts of a tick, in the order of the source. -/
def tick (sysInfo : NetworkInfo) (now : ℕ) (m : HealthMonitor) : Emitting :=
  ((((((m.tickHeartbeat now).andThen (tickHeartbeatMissed now)).andThen (tickBattery now)).andThen
    (tickPowerSupply now)).andThen (tickConnectivity sysInfo now)).andThen (tickPump now)).andThen
    (tickFrameQuality now)

end HealthMonitor

/-! ## Calls -/

/-- A call of an operation. -/
inductive Call
  | tick (sysInfo : HealthMonitor.NetworkInfo) (now : ℕ)
  | deviceHeartbeat (seqNum now : ℕ)
  | batteryLevel (level : ℚ) (batteryId powerMode : String) (now : ℕ)
  | batteryLowConfig (threshold : ℚ) (batteryId configuredBy : String) (now : ℕ)
  | timeoutConfig (threshold : ℚ) (componentName configuredBy : String) (now : ℕ)
  | powerSupplyStatus (status sourceType voltageState : String)
  | connectivityStatus (status : String) (sysInfo : HealthMonitor.NetworkInfo) (now : ℕ)
  | waterPumpState (status : String) (now : ℕ)
  | bowlWaterLevel (state : ℤ)
  | frameQuality (quality : ℚ) (cameraId frameId : String) (now : ℕ)
  deriving DecidableEq, Repr

def HealthMonitor.call (m : HealthMonitor) : Call → Emitting
  | .tick sysInfo now => m.tick sysInfo now
  | .deviceHeartbeat seqNum now => m.updateDeviceHeartbeat seqNum now
  | .batteryLevel level batteryId powerMode now =>
      m.updateBatteryLevel level batteryId powerMode now
  | .batteryLowConfig threshold batteryId configuredBy now =>
      m.updateBatteryLowConfig threshold batteryId configuredBy now
  | .timeoutConfig threshold componentName configuredBy now =>
      m.updateTimeoutConfig threshold componentName configuredBy now
  | .powerSupplyStatus status sourceType voltageState =>
      m.updatePowerSupplyStatus status sourceType voltageState
  | .connectivityStatus status sysInfo now => m.updateDeviceConnectivityStatus status sysInfo now
  | .waterPumpState status now => m.updateWaterPumpState status now
  | .bowlWaterLevel state => m.updateBowlWaterLevel state
  | .frameQuality quality cameraId frameId now => m.updateFrameQuality quality cameraId frameId now

/-- The monitor, and the records that it has handed over. -/
structure Node where
  monitor : HealthMonitor
  emitted : List SignalRecord
  deriving DecidableEq, Repr

def Node.construct (now : ℕ) : Node := ⟨.construct now, []⟩

/-- One call; the records of the node are those of all its calls. -/
def step (node : Node) (call : Call) : Node :=
  ⟨(node.monitor.call call).1, node.emitted ++ (node.monitor.call call).2⟩

end OroEdge.Health
