import OroEdge.Health.Changes

/-!
# Signal numbers

The operations of the health monitor that the modules before this one leave out: the two
reports about the fountain, which have a memory per entity, and the applied settings.
`WholeMonitor` extends the monitor by the memory, and `WholeCall` its calls.

Every record that the whole monitor hands over has a type with a number of its own in
`emit_signal` (`types_wholeRows`).

The proof is one lemma for each operation, that its records have types with a number, and one
for how operations are put together (`Numbered.andThen`, `numbered_gated`).  The types are
constants of the records, so that each of these is closed by a computation over the table of
`emit_signal`.  The sections of a `tick` come first, then the operations of the base monitor,
those with a memory, and the two that are added here.

A row whose type has no number would be written with the number 0, which no reader asks for.
-/

namespace OroEdge.Health

open OroEdge.Lib OroEdge.Storage

/-! ## The whole monitor -/

/-- With the last two maps, the monitor is complete. -/
structure WholeMonitor extends ChangeMonitor where
  fountainPumpHealth : String → String
  waterFountainStatus : String → String

def WholeMonitor.construct (now : ℕ) : WholeMonitor where
  toChangeMonitor := .construct now
  fountainPumpHealth _ := ""
  waterFountainStatus _ := ""

/-- The monitor after an operation, and the rows that the operation has handed over. -/
abbrev WholeEmitting := WholeMonitor × List ChangeRecord

namespace WholeMonitor

def fountainPumpHealthRecord (pumpId status diagnosticCode : String) (now : ℕ) : ChangeRecord :=
  withoutConfidence (textRecord "fountain_pump_health_status" status "categorical" now
    ("\x7b\"pump_id\":\"" ++ pumpId ++ "\",\"event_time\":" ++ toString now ++
      ",\"diagnostic_code\":\"" ++ diagnosticCode ++ "\"\x7d"))

def waterFountainRecord (fountainId status operatingMode : String) (now : ℕ) : ChangeRecord :=
  withoutConfidence (textRecord "water_fountain_status" status "categorical" now
    ("\x7b\"fountain_id\":\"" ++ fountainId ++ "\",\"event_time\":" ++ toString now ++
      ",\"operating_mode\":\"" ++ operatingMode ++ "\"\x7d"))

def settingsApplyRecord (settingsProfileId : String) (success : Bool) (failureReason : String)
    (now : ℕ) : ChangeRecord :=
  withoutConfidence (booleanRecord "settings_apply_success_status" success now
    ("\x7b\"settings_profile_id\":\"" ++ settingsProfileId ++ "\",\"applied_at\":" ++
      toString now ++ ",\"failure_reason\":\"" ++ failureReason ++ "\"\x7d"))

/-- A row where the status of the pump changes. -/
def updateFountainPumpHealth (pumpId status diagnosticCode : String) (now : ℕ)
    (m : WholeMonitor) : WholeEmitting :=
  if m.fountainPumpHealth pumpId ≠ status then
    ({ m with fountainPumpHealth := Function.update m.fountainPumpHealth pumpId status },
      [fountainPumpHealthRecord pumpId status diagnosticCode now])
  else (m, [])

/-- A row where the status of the fountain changes. -/
def updateWaterFountainStatus (fountainId status operatingMode : String) (now : ℕ)
    (m : WholeMonitor) : WholeEmitting :=
  if m.waterFountainStatus fountainId ≠ status then
    ({ m with waterFountainStatus := Function.update m.waterFountainStatus fountainId status },
      [waterFountainRecord fountainId status operatingMode now])
  else (m, [])

/-- A row for each report. -/
def updateSettingsApplyStatus (settingsProfileId : String) (success : Bool)
    (failureReason : String) (now : ℕ) (m : WholeMonitor) : WholeEmitting :=
  (m, [settingsApplyRecord settingsProfileId success failureReason now])

end WholeMonitor

/-! ## Calls -/

/-- All operations of the monitor. -/
inductive WholeCall
  | change (call : ChangeCall)
  | fountainPumpHealth (pumpId status diagnosticCode : String) (now : ℕ)
  | waterFountainStatus (fountainId status operatingMode : String) (now : ℕ)
  | settingsApplyStatus (settingsProfileId : String) (success : Bool) (failureReason : String)
      (now : ℕ)
  deriving DecidableEq, Repr

def WholeMonitor.call (m : WholeMonitor) : WholeCall → WholeEmitting
  | .change call =>
      ({ m with toChangeMonitor := (m.toChangeMonitor.call call).1 },
        (m.toChangeMonitor.call call).2)
  | .fountainPumpHealth pumpId status diagnosticCode now =>
      m.updateFountainPumpHealth pumpId status diagnosticCode now
  | .waterFountainStatus fountainId status operatingMode now =>
      m.updateWaterFountainStatus fountainId status operatingMode now
  | .settingsApplyStatus settingsProfileId success failureReason now =>
      m.updateSettingsApplyStatus settingsProfileId success failureReason now

/-- The monitor, and the records that it has handed over. -/
structure WholeNode where
  monitor : WholeMonitor
  emitted : List ChangeRecord

def WholeNode.construct (now : ℕ) : WholeNode := ⟨.construct now, []⟩

/-- One call; the records of the node are those of all its calls. -/
def wholeStep (node : WholeNode) (call : WholeCall) : WholeNode where
  monitor := (node.monitor.call call).1
  emitted := node.emitted ++ (node.monitor.call call).2

/-- The signals that the node has inserted after the calls. -/
def wholeRows (start : ℕ) (calls : List WholeCall) : List Signal :=
  (run wholeStep (WholeNode.construct start) calls).emitted.map fun record =>
    emitSignal record.toSignalRecord

/-! ## The types of the records -/

/-- The types to which `emit_signal` gives a number. -/
def numberedTypes : List String := signalNumbers.map Prod.fst

/-- The records have types with a number. -/
def Numbered (records : List SignalRecord) : Prop :=
  ∀ record ∈ records, record.signalType ∈ numberedTypes

theorem numbered_nil : Numbered [] := by simp [Numbered]

theorem numbered_textRecord {signalType : String} (htype : signalType ∈ numberedTypes)
    (value unit : String) (now : ℕ) (metadata : String) :
    Numbered [textRecord signalType value unit now metadata] := by
  simpa [Numbered, textRecord] using htype

theorem numbered_numericRecord {signalType : String} (htype : signalType ∈ numberedTypes)
    (value : ℚ) (unit : String) (now : ℕ) (metadata : String) :
    Numbered [numericRecord signalType value unit now metadata] := by
  simpa [Numbered, numericRecord] using htype

theorem numbered_booleanRecord {signalType : String} (htype : signalType ∈ numberedTypes)
    (value : Bool) (now : ℕ) (metadata : String) :
    Numbered [booleanRecord signalType value now metadata] := by
  simpa [Numbered, booleanRecord] using htype

theorem Numbered.andThen {first : Emitting} {second : HealthMonitor → Emitting}
    (hfirst : Numbered first.2) (hsecond : ∀ m, Numbered (second m).2) :
    Numbered (first.andThen second).2 := by
  rw [Emitting.andThen_snd]
  exact List.forall_mem_append.mpr ⟨hfirst, hsecond first.1⟩

namespace HealthMonitor

variable (now : ℕ) (m : HealthMonitor)

theorem numbered_tickHeartbeat : Numbered (m.tickHeartbeat now).2 := by
  unfold tickHeartbeat
  split
  · exact numbered_textRecord (by decide) _ _ _ _
  · exact numbered_nil

theorem numbered_tickHeartbeatMissed : Numbered (m.tickHeartbeatMissed now).2 := by
  unfold tickHeartbeatMissed
  split
  · exact numbered_textRecord (by decide) _ _ _ _
  · exact numbered_nil

theorem numbered_tickBattery : Numbered (m.tickBattery now).2 := by
  unfold tickBattery
  dsimp only
  split_ifs
  · exact numbered_numericRecord (by decide) _ _ _ _
  · exact numbered_nil
  · exact numbered_numericRecord (by decide) _ _ _ _
  · exact numbered_nil
  · exact numbered_nil

theorem numbered_tickPowerSupply : Numbered (m.tickPowerSupply now).2 := by
  unfold tickPowerSupply
  split
  · exact numbered_textRecord (by decide) _ _ _ _
  · exact numbered_nil

theorem numbered_updateDeviceConnectivityStatus (status : String) (sysInfo : NetworkInfo) :
    Numbered (m.updateDeviceConnectivityStatus status sysInfo now).2 := by
  unfold updateDeviceConnectivityStatus
  split
  · exact numbered_textRecord (by decide) _ _ _ _
  · exact numbered_nil

theorem numbered_tickConnectivity (sysInfo : NetworkInfo) :
    Numbered (m.tickConnectivity sysInfo now).2 := by
  unfold tickConnectivity
  split
  · exact numbered_updateDeviceConnectivityStatus now m m.lastConnectivityStatus sysInfo
  · exact numbered_nil

theorem numbered_tickPump : Numbered (m.tickPump now).2 := by
  unfold tickPump
  split
  · exact numbered_textRecord (by decide) _ _ _ _
  · exact numbered_nil

theorem numbered_tickFrameQuality : Numbered (m.tickFrameQuality now).2 := by
  unfold tickFrameQuality
  split
  · exact numbered_numericRecord (by decide) _ _ _ _
  · exact numbered_nil

theorem numbered_tick (sysInfo : NetworkInfo) : Numbered (m.tick sysInfo now).2 := by
  unfold tick
  refine Numbered.andThen ?_ (numbered_tickFrameQuality now)
  refine Numbered.andThen ?_ (numbered_tickPump now)
  refine Numbered.andThen ?_ fun m => numbered_tickConnectivity now m sysInfo
  refine Numbered.andThen ?_ (numbered_tickPowerSupply now)
  refine Numbered.andThen ?_ (numbered_tickBattery now)
  exact Numbered.andThen (numbered_tickHeartbeat now m) (numbered_tickHeartbeatMissed now)

theorem numbered_updateWaterPumpState (status : String) :
    Numbered (m.updateWaterPumpState status now).2 := by
  unfold updateWaterPumpState
  split_ifs
  · exact numbered_textRecord (by decide) _ _ _ _
  · exact List.forall_mem_cons.mpr ⟨numbered_textRecord (by decide) status _ now _ _
      List.mem_cons_self, numbered_textRecord (by decide) _ _ _ _⟩
  · exact numbered_textRecord (by decide) _ _ _ _
  · exact numbered_nil

theorem numbered_call (call : Call) : Numbered (m.call call).2 := by
  cases call with
  | tick sysInfo now => exact numbered_tick now m sysInfo
  | deviceHeartbeat seqNum now =>
      simp only [HealthMonitor.call, updateDeviceHeartbeat]
      split <;> exact numbered_nil
  | batteryLevel level batteryId powerMode now =>
      simp only [HealthMonitor.call, updateBatteryLevel]
      split
      · exact numbered_numericRecord (by decide) _ _ _ _
      · exact numbered_nil
  | batteryLowConfig threshold batteryId configuredBy now =>
      simp only [HealthMonitor.call, updateBatteryLowConfig]
      split
      · exact numbered_numericRecord (by decide) _ _ _ _
      · exact numbered_nil
  | timeoutConfig threshold componentName configuredBy now =>
      simp only [HealthMonitor.call, updateTimeoutConfig]
      split
      · exact numbered_numericRecord (by decide) _ _ _ _
      · exact numbered_nil
  | powerSupplyStatus status sourceType voltageState => exact numbered_nil
  | connectivityStatus status sysInfo now =>
      exact numbered_updateDeviceConnectivityStatus now m status sysInfo
  | waterPumpState status now => exact numbered_updateWaterPumpState now m status
  | bowlWaterLevel state => exact numbered_nil
  | frameQuality quality cameraId frameId now =>
      simp only [HealthMonitor.call, updateFrameQuality]
      split
      · exact numbered_numericRecord (by decide) _ _ _ _
      · exact numbered_nil

end HealthMonitor

/-! ### The change-gated operations -/

/-- The records, without their confidence. -/
def plain (records : List ChangeRecord) : List SignalRecord :=
  records.map ChangeRecord.toSignalRecord

theorem numbered_gated {record : ChangeRecord} (hrecord : Numbered [record.toSignalRecord])
    (differs : Bool) (remembering m : ChangeMonitor) :
    Numbered (plain (ChangeMonitor.gated differs record remembering m).2) := by
  unfold ChangeMonitor.gated
  split
  · exact hrecord
  · exact numbered_nil

theorem ChangeMonitor.numbered_call (m : ChangeMonitor) (call : ChangeCall) :
    Numbered (plain (m.call call).2) := by
  cases call with
  | base call =>
      have hplain : plain ((m.toHealthMonitor.call call).2.map withoutConfidence) =
          (m.toHealthMonitor.call call).2 := by
        simp [plain, withoutConfidence, Function.comp_def]
      rw [ChangeMonitor.call, hplain]
      exact HealthMonitor.numbered_call m.toHealthMonitor call
  | cameraObstruction obstructed cameraId confidenceScore now =>
      exact numbered_gated (numbered_booleanRecord (by decide) _ _ _) _ _ _
  | sensorHealth sensorId status diagnosticCode now =>
      exact numbered_gated (numbered_textRecord (by decide) _ _ _ _) _ _ _
  | sensorCommunication sensorId status busInterface now =>
      exact numbered_gated (numbered_textRecord (by decide) _ _ _ _) _ _ _
  | firmwareVersion componentName version buildId now =>
      exact numbered_gated (numbered_textRecord (by decide) _ _ _ _) _ _ _
  | latestFirmware componentName version source now =>
      exact numbered_gated (numbered_textRecord (by decide) _ _ _ _) _ _ _
  | firmwareUpdate componentName available currentVersion now =>
      exact numbered_gated (numbered_booleanRecord (by decide) _ _ _) _ _ _

theorem WholeMonitor.numbered_call (m : WholeMonitor) (call : WholeCall) :
    Numbered (plain (m.call call).2) := by
  cases call with
  | change call => exact ChangeMonitor.numbered_call m.toChangeMonitor call
  | fountainPumpHealth pumpId status diagnosticCode now =>
      simp only [WholeMonitor.call, updateFountainPumpHealth]
      split
      · exact numbered_textRecord (by decide) _ _ _ _
      · exact numbered_nil
  | waterFountainStatus fountainId status operatingMode now =>
      simp only [WholeMonitor.call, updateWaterFountainStatus]
      split
      · exact numbered_textRecord (by decide) _ _ _ _
      · exact numbered_nil
  | settingsApplyStatus settingsProfileId success failureReason now =>
      exact numbered_booleanRecord (by decide) _ _ _

/-- All records so far have types with a number. -/
def WholeNode.Numbered (node : WholeNode) : Prop := Health.Numbered (plain node.emitted)

theorem WholeNode.numbered_step {node : WholeNode} {call : WholeCall} (hnode : node.Numbered) :
    (wholeStep node call).Numbered := by
  have hplain : plain (wholeStep node call).emitted =
      plain node.emitted ++ plain (node.monitor.call call).2 := List.map_append ..
  unfold WholeNode.Numbered
  rw [hplain]
  exact List.forall_mem_append.mpr ⟨hnode, WholeMonitor.numbered_call node.monitor call⟩

/-- The rows of the node have types with a number. -/
theorem types_wholeRows (start : ℕ) (calls : List WholeCall) :
    ∀ row ∈ wholeRows start calls, row.signalType ∈ numberedTypes := by
  have hstart : (WholeNode.construct start).Numbered := numbered_nil
  have hall : (run wholeStep (WholeNode.construct start) calls).Numbered :=
    run_induction (fun _ _ => WholeNode.numbered_step) hstart calls
  intro row hrow
  obtain ⟨record, hrecord, rfl⟩ := List.mem_map.mp hrow
  exact hall record.toSignalRecord (List.mem_map_of_mem hrecord)

end OroEdge.Health
