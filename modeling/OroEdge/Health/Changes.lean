import Mathlib.Data.Rat.Floor
import OroEdge.Health.History

/-!
# The change-gated operations

The operations of the health monitor that write a record only when what is reported
differs from what they remember: the obstruction of a camera, the health and the
communication of a sensor, and the versions of the firmware.  `ChangeMonitor` extends
the monitor by their memory, and `ChangeCall` its calls.

A map that creates missing entries as empty strings is a function with the default
`""`.

`report` reads a call as what it says of which entity.  Besides the operations of this
module it covers the two configured thresholds and the state of the pump, whose memory
is in the base monitor.  `call_of_report` is the specification of them all: a report
is written exactly if it `differs` from what is remembered for it, and is then
remembered.

The operations differ in what they compare, in the row that they write, and in whether entities
share a memory.  These three are data of a report, and the case analysis over the operations is
made in `call_of_report` and nowhere else.  What a history leaves is then the same for all:
`held_after` says that the memory of an entity is the value last reported to it, and
`record_mem_attempted_iff` that a report writes exactly if its value is another one, for the
kinds in which two values differ exactly if they are not equal (`Sharp`).
-/

namespace OroEdge.Health

open OroEdge.Lib OroEdge.Storage

/-! ## Records -/

/-- A record with the confidence that it is written with. -/
structure ChangeRecord extends SignalRecord where
  confidence : Option ℚ
  deriving DecidableEq, Repr

/-- The nearest integer, and the even one of two. -/
def roundHalfEven (q : ℚ) : ℤ :=
  if q - ⌊q⌋ < 1 / 2 ∨ (q - ⌊q⌋ = 1 / 2 ∧ ⌊q⌋ % 2 = 0) then ⌊q⌋ else ⌊q⌋ + 1

/-- `std::to_string` of a floating-point number: six digits after the point. -/
def sixDigits (q : ℚ) : String :=
  let scaled := roundHalfEven (|q| * 1000000)
  (if q < 0 then "-" else "") ++ toString (scaled / 1000000) ++ "." ++ padded 6 (scaled % 1000000)

example : sixDigits (19 / 20) = "0.950000" := by decide +kernel

/-- A record without a confidence, of the base monitor or of this module. -/
def withoutConfidence (record : SignalRecord) : ChangeRecord := ⟨record, none⟩

/-- A row with a boolean. -/
def booleanRecord (signalType : String) (value : Bool) (now : ℕ) (metadata : String) :
    SignalRecord :=
  ⟨deviceId, signalType, none, some value, none, "boolean", now, "system", metadata⟩

/-- The row of `updateCameraObstructionStatus`, the only one with a confidence. -/
def cameraRecord (obstructed : Bool) (cameraId : String) (confidenceScore : ℚ) (now : ℕ) :
    ChangeRecord :=
  ⟨booleanRecord "camera_obstruction_status" obstructed now
    ("\x7b\"event_time\":" ++ toString now ++ ",\"camera_id\":\"" ++ cameraId ++
      "\",\"confidence_score\":" ++ sixDigits confidenceScore ++ "\x7d"), some confidenceScore⟩

def sensorHealthRecord (sensorId status diagnosticCode : String) (now : ℕ) : ChangeRecord :=
  withoutConfidence (textRecord "sensor_health_status" status "categorical" now
    ("\x7b\"event_time\":" ++ toString now ++ ",\"sensor_id\":\"" ++ sensorId ++
      "\",\"diagnostic_code\":\"" ++ diagnosticCode ++ "\"\x7d"))

def sensorCommunicationRecord (sensorId status busInterface : String) (now : ℕ) : ChangeRecord :=
  withoutConfidence (textRecord "sensor_communication_status" status "categorical" now
    ("\x7b\"event_time\":" ++ toString now ++ ",\"sensor_id\":\"" ++ sensorId ++
      "\",\"bus_interface\":\"" ++ busInterface ++ "\"\x7d"))

def firmwareVersionRecord (componentName version buildId : String) (now : ℕ) : ChangeRecord :=
  withoutConfidence (textRecord "firmware_version" version "string" now
    ("\x7b\"component_name\":\"" ++ componentName ++ "\",\"event_time\":" ++ toString now ++
      ",\"build_id\":\"" ++ buildId ++ "\"\x7d"))

def latestFirmwareRecord (componentName version source : String) (now : ℕ) : ChangeRecord :=
  withoutConfidence (textRecord "latest_firmware_version_available" version "string" now
    ("\x7b\"component_name\":\"" ++ componentName ++ "\",\"checked_at\":" ++ toString now ++
      ",\"source\":\"" ++ source ++ "\"\x7d"))

def firmwareUpdateRecord (componentName : String) (available : Bool) (currentVersion : String)
    (now : ℕ) : ChangeRecord :=
  withoutConfidence (booleanRecord "firmware_update_availability_flag" available now
    ("\x7b\"checked_at\":" ++ toString now ++ ",\"component_name\":\"" ++ componentName ++
      "\",\"current_version\":\"" ++ currentVersion ++ "\"\x7d"))

/-! ## The monitor -/

/-- The members that hold what was last reported of the camera, of each sensor and of each
component. -/
structure ChangeMonitor extends HealthMonitor where
  hasLastCameraObstruction : Bool
  lastCameraObstruction : Bool
  lastSensorHealth : String → String
  lastSensorComm : String → String
  firmwareVersions : String → String
  latestFirmwareAvailable : String → String
  firmwareUpdateFlags : String → Option Bool

/-- Nothing has been reported: a text is empty, and a flag has a member that says so. -/
def ChangeMonitor.construct (now : ℕ) : ChangeMonitor where
  toHealthMonitor := .construct now
  hasLastCameraObstruction := false
  lastCameraObstruction := false
  lastSensorHealth _ := ""
  lastSensorComm _ := ""
  firmwareVersions _ := ""
  latestFirmwareAvailable _ := ""
  firmwareUpdateFlags _ := none

/-- The monitor after an operation, and the rows that the operation has handed over. -/
abbrev ChangeEmitting := ChangeMonitor × List ChangeRecord

namespace ChangeMonitor

/-- Write the record and remember, if something differs. -/
def gated (differs : Bool) (record : ChangeRecord) (remembering m : ChangeMonitor) :
    ChangeEmitting :=
  if differs then (remembering, [record]) else (m, [])

/-- A row for the first report, and for each that differs from the one before. -/
def updateCameraObstructionStatus (obstructed : Bool) (cameraId : String) (confidenceScore : ℚ)
    (now : ℕ) (m : ChangeMonitor) : ChangeEmitting :=
  gated (!m.hasLastCameraObstruction || decide (m.lastCameraObstruction ≠ obstructed))
    (cameraRecord obstructed cameraId confidenceScore now)
    { m with lastCameraObstruction := obstructed, hasLastCameraObstruction := true } m

/-- A row where the status of the sensor changes. -/
def updateSensorHealthStatus (sensorId status diagnosticCode : String) (now : ℕ)
    (m : ChangeMonitor) : ChangeEmitting :=
  gated (decide (m.lastSensorHealth sensorId ≠ status))
    (sensorHealthRecord sensorId status diagnosticCode now)
    { m with lastSensorHealth := Function.update m.lastSensorHealth sensorId status } m

def updateSensorCommunicationStatus (sensorId status busInterface : String) (now : ℕ)
    (m : ChangeMonitor) : ChangeEmitting :=
  gated (decide (m.lastSensorComm sensorId ≠ status))
    (sensorCommunicationRecord sensorId status busInterface now)
    { m with lastSensorComm := Function.update m.lastSensorComm sensorId status } m

/-- A row where the version of the component changes. -/
def updateFirmwareVersion (componentName version buildId : String) (now : ℕ)
    (m : ChangeMonitor) : ChangeEmitting :=
  gated (decide (m.firmwareVersions componentName ≠ version))
    (firmwareVersionRecord componentName version buildId now)
    { m with firmwareVersions := Function.update m.firmwareVersions componentName version } m

/-- A row where the latest version of the component changes. -/
def updateLatestFirmwareAvailable (componentName version source : String) (now : ℕ)
    (m : ChangeMonitor) : ChangeEmitting :=
  gated (decide (m.latestFirmwareAvailable componentName ≠ version))
    (latestFirmwareRecord componentName version source now)
    { m with
      latestFirmwareAvailable :=
        Function.update m.latestFirmwareAvailable componentName version } m

/-- A row where the flag of the component changes. -/
def updateFirmwareUpdateAvailable (componentName : String) (available : Bool)
    (currentVersion : String) (now : ℕ) (m : ChangeMonitor) : ChangeEmitting :=
  gated (decide (m.firmwareUpdateFlags componentName ≠ some available))
    (firmwareUpdateRecord componentName available currentVersion now)
    { m with
      firmwareUpdateFlags :=
        Function.update m.firmwareUpdateFlags componentName (some available) } m

end ChangeMonitor

/-! ## Calls -/

/-- The operations of the monitor, with these six. -/
inductive ChangeCall
  | base (call : Call)
  | cameraObstruction (obstructed : Bool) (cameraId : String) (confidenceScore : ℚ) (now : ℕ)
  | sensorHealth (sensorId status diagnosticCode : String) (now : ℕ)
  | sensorCommunication (sensorId status busInterface : String) (now : ℕ)
  | firmwareVersion (componentName version buildId : String) (now : ℕ)
  | latestFirmware (componentName version source : String) (now : ℕ)
  | firmwareUpdate (componentName : String) (available : Bool) (currentVersion : String) (now : ℕ)
  deriving DecidableEq, Repr

def ChangeMonitor.call (m : ChangeMonitor) : ChangeCall → ChangeEmitting
  | .base call =>
      ({ m with toHealthMonitor := (m.toHealthMonitor.call call).1 },
        (m.toHealthMonitor.call call).2.map withoutConfidence)
  | .cameraObstruction obstructed cameraId confidenceScore now =>
      m.updateCameraObstructionStatus obstructed cameraId confidenceScore now
  | .sensorHealth sensorId status diagnosticCode now =>
      m.updateSensorHealthStatus sensorId status diagnosticCode now
  | .sensorCommunication sensorId status busInterface now =>
      m.updateSensorCommunicationStatus sensorId status busInterface now
  | .firmwareVersion componentName version buildId now =>
      m.updateFirmwareVersion componentName version buildId now
  | .latestFirmware componentName version source now =>
      m.updateLatestFirmwareAvailable componentName version source now
  | .firmwareUpdate componentName available currentVersion now =>
      m.updateFirmwareUpdateAvailable componentName available currentVersion now

def changeStep (m : ChangeMonitor) (call : ChangeCall) : ChangeMonitor := (m.call call).1

/-- The monitor after the calls. -/
def ChangeMonitor.after (start : ℕ) (calls : List ChangeCall) : ChangeMonitor :=
  run changeStep (ChangeMonitor.construct start) calls

/-- What a call hands to the writer after the `earlier` ones. -/
def attempted (start : ℕ) (earlier : List ChangeCall) (call : ChangeCall) : List ChangeRecord :=
  ((ChangeMonitor.after start earlier).call call).2

/-! ## Reports -/

/-- What a report is about.  The names are those of the operations. -/
inductive Kind
  | cameraObstruction
  | sensorHealth
  | sensorCommunication
  | firmwareVersion
  | latestFirmware
  | firmwareUpdate
  | timeoutConfig
  | batteryLowConfig
  | pumpState
  deriving DecidableEq, Repr

/-- One memory for all entities. -/
def Kind.shared : Kind → Bool
  | .cameraObstruction | .timeoutConfig | .batteryLowConfig | .pumpState => true
  | _ => false

/-- What a report can say. -/
inductive Value
  | flag (b : Bool)
  | text (s : String)
  | number (q : ℚ)
  deriving DecidableEq, Repr

/-- What a call reports of an entity, and the row that is written for it. -/
structure Report where
  kind : Kind
  entity : String
  value : Value
  record : ChangeRecord
  deriving DecidableEq, Repr

def timeoutRecord (threshold : ℚ) (componentName configuredBy : String) (now : ℕ) :
    SignalRecord :=
  numericRecord "communication_timeout_threshold" threshold "seconds" now
    ("\x7b\"component_name\":\"" ++ componentName ++ "\",\"configured_by\":\"" ++
      configuredBy ++ "\",\"updated_at\":" ++ toString now ++ "\x7d")

def batteryLowRecord (threshold : ℚ) (batteryId configuredBy : String) (now : ℕ) : SignalRecord :=
  numericRecord "battery_low_threshold" threshold "percentage" now
    ("\x7b\"battery_id\":\"" ++ batteryId ++ "\",\"configured_by\":\"" ++ configuredBy ++
      "\",\"updated_at\":" ++ toString now ++ "\x7d")

/-- What a call reports, with the record that it writes if it does. -/
def report : ChangeCall → Option Report
  | .cameraObstruction obstructed cameraId confidenceScore now =>
      some ⟨.cameraObstruction, cameraId, .flag obstructed,
        cameraRecord obstructed cameraId confidenceScore now⟩
  | .sensorHealth sensorId status diagnosticCode now =>
      some ⟨.sensorHealth, sensorId, .text status,
        sensorHealthRecord sensorId status diagnosticCode now⟩
  | .sensorCommunication sensorId status busInterface now =>
      some ⟨.sensorCommunication, sensorId, .text status,
        sensorCommunicationRecord sensorId status busInterface now⟩
  | .firmwareVersion componentName version buildId now =>
      some ⟨.firmwareVersion, componentName, .text version,
        firmwareVersionRecord componentName version buildId now⟩
  | .latestFirmware componentName version source now =>
      some ⟨.latestFirmware, componentName, .text version,
        latestFirmwareRecord componentName version source now⟩
  | .firmwareUpdate componentName available currentVersion now =>
      some ⟨.firmwareUpdate, componentName, .flag available,
        firmwareUpdateRecord componentName available currentVersion now⟩
  | .base (.timeoutConfig threshold componentName configuredBy now) =>
      some ⟨.timeoutConfig, componentName, .number threshold,
        withoutConfidence (timeoutRecord threshold componentName configuredBy now)⟩
  | .base (.batteryLowConfig threshold batteryId configuredBy now) =>
      some ⟨.batteryLowConfig, batteryId, .number threshold,
        withoutConfidence (batteryLowRecord threshold batteryId configuredBy now)⟩
  | .base (.waterPumpState status now) =>
      some ⟨.pumpState, "fountain_0", .text status,
        withoutConfidence (HealthMonitor.fountainRecord status now)⟩
  | .base _ => none

/-- What is remembered for an entity; an entity of a shared memory finds what was
remembered for any other. -/
def held (kind : Kind) (entity : String) (m : ChangeMonitor) : Option Value :=
  match kind with
  | .cameraObstruction =>
      if m.hasLastCameraObstruction then some (.flag m.lastCameraObstruction) else none
  | .sensorHealth => some (.text (m.lastSensorHealth entity))
  | .sensorCommunication => some (.text (m.lastSensorComm entity))
  | .firmwareVersion => some (.text (m.firmwareVersions entity))
  | .latestFirmware => some (.text (m.latestFirmwareAvailable entity))
  | .firmwareUpdate => (m.firmwareUpdateFlags entity).map .flag
  | .timeoutConfig => some (.number m.timeoutConfig)
  | .batteryLowConfig => some (.number m.batteryLowConfig)
  | .pumpState => some (.text m.lastPumpState)

/-- Numbers differ if they are more than `0.0001` apart. -/
def differs : Option Value → Value → Bool
  | some (.number old), .number new => decide (1 / 10000 < |new - old|)
  | remembered, value => decide (remembered ≠ some value)

/-- The report is one of the kind, and its entity has its memory in common with
`entity`. -/
def Report.Reaches (r : Report) (kind : Kind) (entity : String) : Prop :=
  r.kind = kind ∧ (kind.shared = true ∨ r.entity = entity)

instance (r : Report) (kind : Kind) (entity : String) : Decidable (r.Reaches kind entity) :=
  inferInstanceAs (Decidable (_ ∧ _))

/-! ### What one call does -/

/-- The memory of the base monitor. -/
theorem base_memory {call : Call} (hreport : report (.base call) = none) (m : HealthMonitor) :
    (m.call call).1.timeoutConfig = m.timeoutConfig ∧
      (m.call call).1.batteryLowConfig = m.batteryLowConfig ∧
      (m.call call).1.lastPumpState = m.lastPumpState := by
  cases call with
  | tick sysInfo now =>
      have hconfigs := HealthMonitor.tick_configs sysInfo now m
      exact ⟨hconfigs.1, hconfigs.2, (HealthMonitor.ticked_tick sysInfo now m).pumpState⟩
  | timeoutConfig threshold componentName configuredBy now => cases hreport
  | batteryLowConfig threshold batteryId configuredBy now => cases hreport
  | waterPumpState status now => cases hreport
  | deviceHeartbeat seqNum now =>
      simp only [HealthMonitor.call, HealthMonitor.updateDeviceHeartbeat]
      split <;> exact ⟨rfl, rfl, rfl⟩
  | batteryLevel level batteryId powerMode now =>
      simp only [HealthMonitor.call, HealthMonitor.updateBatteryLevel]
      split <;> exact ⟨rfl, rfl, rfl⟩
  | connectivityStatus status sysInfo now =>
      simp only [HealthMonitor.call, HealthMonitor.updateDeviceConnectivityStatus]
      split <;> exact ⟨rfl, rfl, rfl⟩
  | frameQuality quality cameraId frameId now =>
      simp only [HealthMonitor.call, HealthMonitor.updateFrameQuality]
      split <;> exact ⟨rfl, rfl, rfl⟩
  | powerSupplyStatus status sourceType voltageState => exact ⟨rfl, rfl, rfl⟩
  | bowlWaterLevel state => exact ⟨rfl, rfl, rfl⟩

/-- A call that reports nothing leaves the memory alone. -/
theorem held_call_of_none {call : ChangeCall} (hreport : report call = none) (kind : Kind)
    (entity : String) (m : ChangeMonitor) :
    held kind entity (m.call call).1 = held kind entity m := by
  cases call with
  | base call =>
      obtain ⟨htimeout, hlow, hpump⟩ := base_memory hreport m.toHealthMonitor
      cases kind with
      | timeoutConfig => exact congrArg (fun q => some (Value.number q)) htimeout
      | batteryLowConfig => exact congrArg (fun q => some (Value.number q)) hlow
      | pumpState => exact congrArg (fun s => some (Value.text s)) hpump
      | _ => rfl
  | _ => cases hreport

/-- What is remembered after a report that is written. -/
def Remembers (m m' : ChangeMonitor) (r : Report) : Prop :=
  ∀ kind entity, held kind entity m' =
    if r.Reaches kind entity then some r.value else held kind entity m

theorem differs_text (old new : String) :
    differs (some (.text old)) (.text new) = decide (old ≠ new) := by
  simp [differs]

/-- A memory of texts that is written for one entity. -/
theorem remembers_text {m m' : ChangeMonitor} {kind : Kind} {entity status : String}
    {record : ChangeRecord} (memory : String → String) (hshared : kind.shared = false)
    (hbefore : ∀ other, held kind other m = some (.text (memory other)))
    (hafter : ∀ other,
      held kind other m' = some (.text (Function.update memory entity status other)))
    (hkinds : ∀ kind' ≠ kind, ∀ other, held kind' other m' = held kind' other m) :
    Remembers m m' ⟨kind, entity, .text status, record⟩ := by
  intro kind' other
  by_cases hkind : kind = kind'
  · subst hkind
    rw [hafter, hbefore]
    by_cases hsame : entity = other
    · subst hsame
      simp [Report.Reaches]
    · simp [Report.Reaches, hshared, hsame, Function.update_of_ne (Ne.symm hsame)]
  · rw [hkinds kind' (Ne.symm hkind)]
    simp [Report.Reaches, hkind]

/-- A report of a threshold. -/
theorem base_call_of_report {call : Call} {r : Report} (hreport : report (.base call) = some r)
    (hkind : r.kind ≠ .pumpState) (m : ChangeMonitor) : ∃ m', Remembers m m' r ∧
      m.call (.base call) =
        ChangeMonitor.gated (differs (held r.kind r.entity m) r.value) r.record m' m := by
  cases call with
  | timeoutConfig threshold componentName configuredBy now =>
      obtain rfl := Option.some.inj hreport
      refine ⟨{ m with timeoutConfig := threshold }, ?_, ?_⟩
      · intro kind entity
        cases kind <;> simp [held, Report.Reaches, Kind.shared]
      · show _ = ChangeMonitor.gated (decide (1 / 10000 < |threshold - m.timeoutConfig|)) _ _ _
        rw [ChangeMonitor.call, HealthMonitor.call, HealthMonitor.updateTimeoutConfig]
        by_cases hfar : 1 / 10000 < |threshold - m.timeoutConfig|
        · rw [if_pos hfar, decide_eq_true hfar]
          rfl
        · rw [if_neg hfar, decide_eq_false hfar]
          rfl
  | batteryLowConfig threshold batteryId configuredBy now =>
      obtain rfl := Option.some.inj hreport
      refine ⟨{ m with batteryLowConfig := threshold }, ?_, ?_⟩
      · intro kind entity
        cases kind <;> simp [held, Report.Reaches, Kind.shared]
      · show _ = ChangeMonitor.gated (m.changesLowConfig threshold) _ _ _
        rw [ChangeMonitor.call, HealthMonitor.call, HealthMonitor.updateBatteryLowConfig]
        cases m.changesLowConfig threshold <;> rfl
  | waterPumpState status now =>
      obtain rfl := Option.some.inj hreport
      exact absurd rfl hkind
  | _ => cases hreport

/-- **A report.**  It is written and remembered if it differs from what is remembered
for its entity. -/
theorem call_of_report {call : ChangeCall} {r : Report} (hreport : report call = some r)
    (hkind : r.kind ≠ .pumpState) (m : ChangeMonitor) : ∃ m', Remembers m m' r ∧
      m.call call = ChangeMonitor.gated (differs (held r.kind r.entity m) r.value) r.record m' m := by
  cases call with
  | cameraObstruction obstructed cameraId confidenceScore now =>
      obtain rfl := Option.some.inj hreport
      refine ⟨{ m with lastCameraObstruction := obstructed, hasLastCameraObstruction := true },
        ?_, ?_⟩
      · intro kind entity
        cases kind <;> simp [held, Report.Reaches, Kind.shared]
      · have hdiffers : differs (held .cameraObstruction cameraId m) (.flag obstructed) =
            (!m.hasLastCameraObstruction || decide (m.lastCameraObstruction ≠ obstructed)) := by
          cases hhas : m.hasLastCameraObstruction <;> simp [held, differs, hhas]
        rw [hdiffers]
        rfl
  | sensorHealth sensorId status diagnosticCode now =>
      obtain rfl := Option.some.inj hreport
      refine ⟨{ m with lastSensorHealth := Function.update m.lastSensorHealth sensorId status },
        remembers_text m.lastSensorHealth rfl (fun _ => rfl) (fun _ => rfl) ?_,
        by rw [held, differs_text]; rfl⟩
      intro kind hkind other
      cases kind <;> first | rfl | exact absurd rfl hkind
  | sensorCommunication sensorId status busInterface now =>
      obtain rfl := Option.some.inj hreport
      refine ⟨{ m with lastSensorComm := Function.update m.lastSensorComm sensorId status },
        remembers_text m.lastSensorComm rfl (fun _ => rfl) (fun _ => rfl) ?_,
        by rw [held, differs_text]; rfl⟩
      intro kind hkind other
      cases kind <;> first | rfl | exact absurd rfl hkind
  | firmwareVersion componentName version buildId now =>
      obtain rfl := Option.some.inj hreport
      refine ⟨{ m with
        firmwareVersions := Function.update m.firmwareVersions componentName version },
        remembers_text m.firmwareVersions rfl (fun _ => rfl) (fun _ => rfl) ?_,
        by rw [held, differs_text]; rfl⟩
      intro kind hkind other
      cases kind <;> first | rfl | exact absurd rfl hkind
  | latestFirmware componentName version source now =>
      obtain rfl := Option.some.inj hreport
      refine ⟨{ m with
        latestFirmwareAvailable :=
          Function.update m.latestFirmwareAvailable componentName version },
        remembers_text m.latestFirmwareAvailable rfl (fun _ => rfl) (fun _ => rfl) ?_,
        by rw [held, differs_text]; rfl⟩
      intro kind hkind other
      cases kind <;> first | rfl | exact absurd rfl hkind
  | firmwareUpdate componentName available currentVersion now =>
      obtain rfl := Option.some.inj hreport
      refine ⟨{ m with
        firmwareUpdateFlags :=
          Function.update m.firmwareUpdateFlags componentName (some available) }, ?_, ?_⟩
      · intro kind entity
        cases kind with
        | firmwareUpdate =>
            by_cases hsame : componentName = entity
            · subst hsame
              simp [held, Report.Reaches]
            · simp [held, Report.Reaches, Kind.shared, hsame, Function.update_of_ne (Ne.symm hsame)]
        | _ => simp [held, Report.Reaches]
      · have hdiffers : differs (held .firmwareUpdate componentName m) (.flag available) =
            decide (m.firmwareUpdateFlags componentName ≠ some available) := by
          cases hflag : m.firmwareUpdateFlags componentName <;> simp [held, differs, hflag]
        rw [hdiffers]
        rfl
  | base call => exact base_call_of_report hreport hkind m

/-- A report of the state of the pump may write a verdict on the run as well. -/
theorem call_of_pump (status : String) (now : ℕ) (m : ChangeMonitor) :
    (∃ others, (∀ other ∈ others, other.signalType = "fountain_pump_health_status") ∧
      (m.call (.base (.waterPumpState status now))).2 =
        if m.lastPumpState = status then []
        else withoutConfidence (HealthMonitor.fountainRecord status now) :: others) ∧
    (m.call (.base (.waterPumpState status now))).1.lastPumpState = status ∧
      (m.call (.base (.waterPumpState status now))).1.timeoutConfig = m.timeoutConfig ∧
      (m.call (.base (.waterPumpState status now))).1.batteryLowConfig = m.batteryLowConfig := by
  rw [ChangeMonitor.call, HealthMonitor.call, HealthMonitor.updateWaterPumpState]
  by_cases hsame : status = m.lastPumpState
  · rw [if_neg (not_not.mpr hsame)]
    refine ⟨⟨[], by simp, ?_⟩, hsame.symm, rfl, rfl⟩
    rw [if_pos hsame.symm]
    rfl
  · rw [if_pos hsame]
    simp only [if_neg (Ne.symm hsame)]
    split
    · exact ⟨⟨[], by simp, rfl⟩, rfl, rfl, rfl⟩
    · refine ⟨⟨_, ?_, rfl⟩, rfl, rfl, rfl⟩
      cases m.pumpDamageReported <;>
        simp [withoutConfidence, HealthMonitor.pumpHealthyRecord, textRecord]

/-- What any report leaves in the memory. -/
theorem held_call_of_report {call : ChangeCall} {r : Report} (hreport : report call = some r)
    (kind : Kind) (entity : String) (m : ChangeMonitor) :
    held kind entity (m.call call).1 =
      if r.Reaches kind entity ∧ differs (held r.kind r.entity m) r.value then some r.value
      else held kind entity m := by
  by_cases hkind : r.kind = .pumpState
  · cases call with
    | base call =>
        cases call with
        | waterPumpState status now =>
            obtain rfl := Option.some.inj hreport
            obtain ⟨-, hstate, htimeout, hlow⟩ := call_of_pump status now m
            cases kind with
            | pumpState =>
                rw [held, hstate]
                by_cases hsame : m.lastPumpState = status <;>
                  simp [Report.Reaches, Kind.shared, held, differs, hsame]
            | timeoutConfig => simp [held, htimeout, Report.Reaches]
            | batteryLowConfig => simp [held, hlow, Report.Reaches]
            | _ =>
                rw [if_neg (by simp [Report.Reaches])]
                rfl
        | timeoutConfig threshold componentName configuredBy now =>
            obtain rfl := Option.some.inj hreport
            cases hkind
        | batteryLowConfig threshold batteryId configuredBy now =>
            obtain rfl := Option.some.inj hreport
            cases hkind
        | _ => cases hreport
    | _ =>
        obtain rfl := Option.some.inj hreport
        cases hkind
  · obtain ⟨m', hremembers, hcall⟩ := call_of_report hreport hkind m
    rw [hcall]
    cases differs (held r.kind r.entity m) r.value with
    | true => simpa [ChangeMonitor.gated] using hremembers kind entity
    | false => simp [ChangeMonitor.gated]

/-! ### Histories -/

theorem changeAfter_append_singleton (start : ℕ) (calls : List ChangeCall) (call : ChangeCall) :
    ChangeMonitor.after start (calls ++ [call]) =
      ((ChangeMonitor.after start calls).call call).1 := by
  unfold ChangeMonitor.after
  rw [run_append]
  rfl

/-- The reports that reach the memory of an entity. -/
def reaching (kind : Kind) (entity : String) (calls : List ChangeCall) : List Report :=
  (calls.filterMap report).filter fun r => decide (r.Reaches kind entity)

/-- The reports about an entity. -/
def reportsOf (kind : Kind) (entity : String) (calls : List ChangeCall) : List Report :=
  (calls.filterMap report).filter fun r => decide (r.kind = kind) && decide (r.entity = entity)

/-- What is remembered at first. -/
def initial : Kind → Option Value
  | .cameraObstruction | .firmwareUpdate => none
  | .timeoutConfig | .batteryLowConfig => some (.number (-1))
  | .pumpState => some (.text "unknown")
  | _ => some (.text "")

/-- The value last reported to the memory of an entity. -/
def lastReaching (kind : Kind) (entity : String) (calls : List ChangeCall) : Option Value :=
  ((reaching kind entity calls).getLast?.map Report.value).or (initial kind)

/-- Reports of the kind differ from what they find exactly if they are of another value. -/
def Sharp (kind : Kind) (calls : List ChangeCall) : Prop :=
  ∀ earlier call later, calls = earlier ++ call :: later → ∀ r ∈ report call, r.kind = kind →
    differs (lastReaching kind r.entity earlier) r.value =
      decide (lastReaching kind r.entity earlier ≠ some r.value)

theorem Sharp.of_append {kind : Kind} {first second : List ChangeCall}
    (hsharp : Sharp kind (first ++ second)) : Sharp kind first := by
  intro earlier call later hsplit
  exact hsharp earlier call (later ++ second) (by simp [hsplit])

theorem lastReaching_append_singleton (kind : Kind) (entity : String) (calls : List ChangeCall)
    (call : ChangeCall) : lastReaching kind entity (calls ++ [call]) =
      match report call with
      | some r => if r.Reaches kind entity then some r.value else lastReaching kind entity calls
      | none => lastReaching kind entity calls := by
  unfold lastReaching reaching
  rw [List.filterMap_append, List.filter_append]
  cases hreport : report call with
  | none => simp [hreport]
  | some r => by_cases hreaches : r.Reaches kind entity <;> simp [hreport, hreaches]

/-- An entity of a shared memory finds what any other would find. -/
theorem held_of_reaches {r : Report} {kind : Kind} {entity : String}
    (hreaches : r.Reaches kind entity) (m : ChangeMonitor) :
    held r.kind r.entity m = held kind entity m := by
  obtain ⟨rfl, hshared | rfl⟩ := hreaches
  · cases hkind : r.kind <;> simp_all [Kind.shared, held]
  · rfl

theorem lastReaching_of_reaches {r : Report} {kind : Kind} {entity : String}
    (hreaches : r.Reaches kind entity) (calls : List ChangeCall) :
    lastReaching kind r.entity calls = lastReaching kind entity calls := by
  obtain ⟨rfl, hshared | rfl⟩ := hreaches
  · have hsame : ∀ other : Report, other.Reaches r.kind r.entity ↔ other.Reaches r.kind entity := by
      intro other
      simp [Report.Reaches, hshared]
    simp only [lastReaching, reaching, hsame]
  · rfl

/-- The memory of an entity is the value last reported to it. -/
theorem held_after {kind : Kind} {calls : List ChangeCall} (hsharp : Sharp kind calls) (start : ℕ)
    (entity : String) :
    held kind entity (ChangeMonitor.after start calls) = lastReaching kind entity calls := by
  induction calls using List.reverseRecOn generalizing entity with
  | nil => cases kind <;> rfl
  | append_singleton calls call ih =>
      have hbefore := ih hsharp.of_append
      rw [changeAfter_append_singleton, lastReaching_append_singleton]
      cases hreport : report call with
      | none =>
          rw [held_call_of_none hreport]
          exact hbefore entity
      | some r =>
          rw [held_call_of_report hreport]
          by_cases hreaches : r.Reaches kind entity
          · have hsame := hsharp calls call [] rfl r hreport hreaches.1
            rw [lastReaching_of_reaches hreaches, ← hbefore entity] at hsame
            rw [held_of_reaches hreaches, hsame]
            by_cases hvalue : held kind entity (ChangeMonitor.after start calls) = some r.value <;>
              simp [hreaches, hvalue]
          · simp [hreaches, hbefore entity]

/-- A report writes its record exactly if its value is another one than the last. -/
theorem record_mem_attempted_iff {earlier : List ChangeCall} {call : ChangeCall} {r : Report}
    (hreport : report call = some r) (hsharp : Sharp r.kind (earlier ++ [call])) (start : ℕ) :
    r.record ∈ attempted start earlier call ↔
      lastReaching r.kind r.entity earlier ≠ some r.value := by
  have hheld := held_after hsharp.of_append start r.entity
  have hdiffers := hsharp earlier call [] rfl r hreport rfl
  rw [← hheld] at hdiffers
  rw [← hheld, attempted]
  by_cases hkind : r.kind = .pumpState
  · cases call with
    | base call =>
        cases call with
        | waterPumpState status now =>
            obtain rfl := Option.some.inj hreport
            obtain ⟨⟨others, -, hrecords⟩, -⟩ := call_of_pump status now
              (ChangeMonitor.after start earlier)
            rw [hrecords]
            by_cases hstate : (ChangeMonitor.after start earlier).lastPumpState = status <;>
              simp [held, hstate]
        | timeoutConfig threshold componentName configuredBy now =>
            obtain rfl := Option.some.inj hreport
            cases hkind
        | batteryLowConfig threshold batteryId configuredBy now =>
            obtain rfl := Option.some.inj hreport
            cases hkind
        | _ => cases hreport
    | _ =>
        obtain rfl := Option.some.inj hreport
        cases hkind
  · obtain ⟨m', -, hcall⟩ := call_of_report hreport hkind (ChangeMonitor.after start earlier)
    rw [hcall, hdiffers]
    by_cases hvalue : held r.kind r.entity (ChangeMonitor.after start earlier) = some r.value <;>
      simp [ChangeMonitor.gated, hvalue]

theorem attempted_eq {earlier : List ChangeCall} {call : ChangeCall} {r : Report}
    (hreport : report call = some r) (hkind : r.kind ≠ .pumpState)
    (hsharp : Sharp r.kind (earlier ++ [call])) (start : ℕ) :
    attempted start earlier call =
      if lastReaching r.kind r.entity earlier = some r.value then [] else [r.record] := by
  have hheld := held_after hsharp.of_append start r.entity
  have hdiffers := hsharp earlier call [] rfl r hreport rfl
  obtain ⟨m', -, hcall⟩ := call_of_report hreport hkind (ChangeMonitor.after start earlier)
  rw [attempted, hcall, hheld, hdiffers]
  by_cases hvalue : lastReaching r.kind r.entity earlier = some r.value <;>
    simp [ChangeMonitor.gated, hvalue]

/-! ### Texts and flags -/

theorem differs_of_not_number {value : Value} (hvalue : ∀ q, value ≠ .number q)
    (remembered : Option Value) : differs remembered value = decide (remembered ≠ some value) := by
  cases value with
  | number q => exact absurd rfl (hvalue q)
  | flag b => rcases remembered with _ | (_ | _ | _) <;> rfl
  | text s => rcases remembered with _ | (_ | _ | _) <;> rfl

theorem not_number_of_report {call : ChangeCall} {r : Report} (hreport : report call = some r)
    (htimeout : r.kind ≠ .timeoutConfig) (hlow : r.kind ≠ .batteryLowConfig) (q : ℚ) :
    r.value ≠ .number q := by
  cases call with
  | base call =>
      cases call with
      | timeoutConfig threshold componentName configuredBy now =>
          obtain rfl := Option.some.inj hreport
          exact absurd rfl htimeout
      | batteryLowConfig threshold batteryId configuredBy now =>
          obtain rfl := Option.some.inj hreport
          exact absurd rfl hlow
      | waterPumpState status now =>
          obtain rfl := Option.some.inj hreport
          simp
      | _ => cases hreport
  | _ =>
      obtain rfl := Option.some.inj hreport
      simp

/-- The operations that report no numbers need no tolerance. -/
theorem sharp_of_kind {kind : Kind} (htimeout : kind ≠ .timeoutConfig)
    (hlow : kind ≠ .batteryLowConfig) (calls : List ChangeCall) : Sharp kind calls := by
  rintro earlier call later - r hreport rfl
  exact differs_of_not_number (not_number_of_report hreport htimeout hlow) _

end OroEdge.Health
