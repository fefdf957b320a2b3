import Mathlib.Data.List.Induction
import OroEdge.Health.History
import OroEdge.Jobs.Device

/-!
# The battery alert, from producer to checker

The health monitor writes `battery_level` and `battery_low_threshold` rows;
`device_health_check` compares the latest of each.  The alert should follow the
last recorded level and the threshold that was last configured
(`AlertFollows`).

It does not in general, since `tick` also writes `battery_low_threshold` rows: when
the held level is below the fixed `BATTERY_LOW_THRESHOLD`, it records that level
under this type, and the checker takes it for the threshold
(`not_alertFollows_low_tick`).  The other ways to fail are a threshold that moves by
no more than the tolerance, which is not written, and a row that is not later than
those before it, which need not be the latest.

`Undisturbed` excludes these for one call.  Such calls keep `Consistent`: the last
record of each type is strictly the newest row of its type, and the last threshold
record carries the configured threshold.

Most calls do nothing to the battery, and `Quiet` says this of each of them once, so that the
invariant is about three calls only: a level, a threshold, and the battery section of a `tick`
(`tick_battery`).  The checker may take any row of the latest time.  That is why the invariant
asks for a newest row that is strictly the latest of its type (`Newest.latestColumn`), and
`Fresh` for one that is later than all before it.
-/

namespace OroEdge.Health

open OroEdge.Lib OroEdge.Storage OroEdge.Jobs

/-! ## The property -/

/-- The signal table: rows from before, then those of the monitor. -/
def table (stored : List Signal) (node : Node) : List Signal :=
  stored ++ node.emitted.map emitSignal

/-- The most recent record of a type. -/
def lastOf (signalType : String) (node : Node) : Option SignalRecord :=
  (recordsOf signalType node.emitted).getLast?

/-- The threshold that a call sets. -/
def configuredThreshold : Call → Option ℚ
  | .batteryLowConfig threshold _ _ _ => some threshold
  | _ => none

/-- The threshold last passed to `update_battery_low_config`. -/
def lastConfigured (calls : List Call) : Option ℚ :=
  (calls.filterMap configuredThreshold).getLast?

/-- Once a threshold and a level have been recorded, a check raises a battery event
exactly when the last recorded level is positive and below the threshold that was
last configured, whatever the queries may return. -/
def AlertFollows (stored : List Signal) (node : Node) (calls : List Call) : Prop :=
  ∀ level threshold, lastOf "battery_level" node = some level →
    lastOf "battery_low_threshold" node ≠ none → lastConfigured calls = some threshold →
      ∀ status now q, Answers ⟨table stored node, status⟩ deviceId now q →
        ((∃ eventType ∈ ["low_battery", "critical_battery"],
          (deviceHealthCheck deviceId q).Emits eventType) ↔
            ∃ b ∈ level.signalValueNumeric, 0 < b ∧ b < threshold)

/-! ## The condition -/

/-- A row of the type, written now, is later than every stored row of the type. -/
def Fresh (stored : List Signal) (node : Node) (signalType : String) (now : ℕ) : Prop :=
  ∀ row ∈ signalsOf deviceId signalType (table stored node), row.observedAt < unixMsToMicros now

/-- A new threshold is far enough from the old one to be written; no `tick` finds the
held level below the fixed threshold; what is written is later than what was. -/
def Undisturbed (stored : List Signal) (node : Node) : Call → Prop
  | .batteryLowConfig threshold _ _ now =>
      threshold = node.monitor.batteryLowConfig ∨
        node.monitor.changesLowConfig threshold ∧ Fresh stored node "battery_low_threshold" now
  | .batteryLevel level _ _ now =>
      node.monitor.recordsLevel level now → Fresh stored node "battery_level" now
  | .tick _ now =>
      node.monitor.heldLow = false ∧
        (batteryLowThreshold ≤ node.monitor.lastBatteryLevel → node.monitor.batteryElapsed now →
          Fresh stored node "battery_level" now)
  | _ => True

instance (stored : List Signal) (node : Node) (signalType : String) (now : ℕ) :
    Decidable (Fresh stored node signalType now) := by
  unfold Fresh
  infer_instance

instance (stored : List Signal) (node : Node) : ∀ call, Decidable (Undisturbed stored node call)
  | .batteryLowConfig .. => inferInstanceAs (Decidable (_ ∨ _ ∧ _))
  | .batteryLevel .. => inferInstanceAs (Decidable (_ → _))
  | .tick .. => inferInstanceAs (Decidable (_ ∧ (_ → _ → _)))
  | .deviceHeartbeat .. | .timeoutConfig .. | .powerSupplyStatus .. | .connectivityStatus ..
  | .waterPumpState .. | .bowlWaterLevel .. | .frameQuality .. => inferInstanceAs (Decidable True)

/-! ## Calls that leave the battery alone -/

/-- Neither the battery fields change nor a record of the two types is written. -/
structure Quiet (m : HealthMonitor) (out : Emitting) : Prop where
  level : out.1.lastBatteryLevel = m.lastBatteryLevel
  emit : out.1.lastBatteryEmit = m.lastBatteryEmit
  config : out.1.batteryLowConfig = m.batteryLowConfig
  levels : recordsOf "battery_level" out.2 = []
  thresholds : recordsOf "battery_low_threshold" out.2 = []

namespace Quiet

variable {m : HealthMonitor} {now : ℕ}

theorem andThen {out : Emitting} {second : HealthMonitor → Emitting} (hfirst : Quiet m out)
    (hsecond : ∀ m', Quiet m' (second m')) : Quiet m (out.andThen second) where
  level := (hsecond out.1).level.trans hfirst.level
  emit := (hsecond out.1).emit.trans hfirst.emit
  config := (hsecond out.1).config.trans hfirst.config
  levels := by
    simp only [Emitting.andThen_snd, recordsOf, List.filter_append]
    exact List.append_eq_nil_iff.mpr ⟨hfirst.levels, (hsecond out.1).levels⟩
  thresholds := by
    simp only [Emitting.andThen_snd, recordsOf, List.filter_append]
    exact List.append_eq_nil_iff.mpr ⟨hfirst.thresholds, (hsecond out.1).thresholds⟩

/-- Nothing is written at all. -/
theorem of_nil {m' : HealthMonitor} (hlevel : m'.lastBatteryLevel = m.lastBatteryLevel)
    (hemit : m'.lastBatteryEmit = m.lastBatteryEmit)
    (hconfig : m'.batteryLowConfig = m.batteryLowConfig) : Quiet m (m', []) :=
  ⟨hlevel, hemit, hconfig, rfl, rfl⟩

theorem tickHeartbeat : Quiet m (m.tickHeartbeat now) := by
  unfold HealthMonitor.tickHeartbeat
  split
  · exact ⟨rfl, rfl, rfl, rfl, rfl⟩
  · exact of_nil rfl rfl rfl

theorem tickHeartbeatMissed : Quiet m (m.tickHeartbeatMissed now) := by
  unfold HealthMonitor.tickHeartbeatMissed
  split
  · exact ⟨rfl, rfl, rfl, rfl, rfl⟩
  · exact of_nil rfl rfl rfl

theorem updateDeviceHeartbeat {seqNum : ℕ} : Quiet m (m.updateDeviceHeartbeat seqNum now) := by
  simp only [HealthMonitor.updateDeviceHeartbeat]
  split <;> exact of_nil rfl rfl rfl

theorem tickPowerSupply : Quiet m (m.tickPowerSupply now) := by
  unfold HealthMonitor.tickPowerSupply
  split
  · exact ⟨rfl, rfl, rfl, rfl, rfl⟩
  · exact of_nil rfl rfl rfl

theorem updateDeviceConnectivityStatus {status : String} {sysInfo : HealthMonitor.NetworkInfo} :
    Quiet m (m.updateDeviceConnectivityStatus status sysInfo now) := by
  unfold HealthMonitor.updateDeviceConnectivityStatus
  split
  · exact ⟨rfl, rfl, rfl, rfl, rfl⟩
  · exact of_nil rfl rfl rfl

theorem tickConnectivity {sysInfo : HealthMonitor.NetworkInfo} :
    Quiet m (m.tickConnectivity sysInfo now) := by
  unfold HealthMonitor.tickConnectivity
  split
  · exact updateDeviceConnectivityStatus
  · exact of_nil rfl rfl rfl

theorem tickPump : Quiet m (m.tickPump now) := by
  unfold HealthMonitor.tickPump
  split
  · exact ⟨rfl, rfl, rfl, rfl, rfl⟩
  · exact of_nil rfl rfl rfl

theorem updateWaterPumpState {status : String} : Quiet m (m.updateWaterPumpState status now) := by
  unfold HealthMonitor.updateWaterPumpState
  split
  · split
    · exact ⟨rfl, rfl, rfl, rfl, rfl⟩
    · cases m.pumpDamageReported <;> exact ⟨rfl, rfl, rfl, rfl, rfl⟩
  · exact of_nil rfl rfl rfl

theorem tickFrameQuality : Quiet m (m.tickFrameQuality now) := by
  unfold HealthMonitor.tickFrameQuality
  split
  · exact ⟨rfl, rfl, rfl, rfl, rfl⟩
  · exact of_nil rfl rfl rfl

theorem updateFrameQuality {quality : ℚ} {cameraId frameId : String} :
    Quiet m (m.updateFrameQuality quality cameraId frameId now) := by
  simp only [HealthMonitor.updateFrameQuality]
  split
  · exact ⟨rfl, rfl, rfl, rfl, rfl⟩
  · exact of_nil rfl rfl rfl

theorem updateTimeoutConfig {threshold : ℚ} {componentName configuredBy : String} :
    Quiet m (m.updateTimeoutConfig threshold componentName configuredBy now) := by
  unfold HealthMonitor.updateTimeoutConfig
  split
  · exact ⟨rfl, rfl, rfl, rfl, rfl⟩
  · exact of_nil rfl rfl rfl

end Quiet

/-! ## What one call does to the battery -/

section Suffix

variable {out : Emitting} {second : HealthMonitor → Emitting}
  (hsecond : ∀ m, Quiet m (second m))

include hsecond

theorem levels_andThen :
    recordsOf "battery_level" (out.andThen second).2 = recordsOf "battery_level" out.2 := by
  simp only [Emitting.andThen_snd, recordsOf_append, (hsecond out.1).levels, List.append_nil]

theorem thresholds_andThen :
    recordsOf "battery_low_threshold" (out.andThen second).2 =
      recordsOf "battery_low_threshold" out.2 := by
  simp only [Emitting.andThen_snd, recordsOf_append, (hsecond out.1).thresholds, List.append_nil]

theorem config_andThen : (out.andThen second).1.batteryLowConfig = out.1.batteryLowConfig :=
  (hsecond out.1).config

end Suffix

/-- The sections of a `tick` after its battery section leave the battery alone, and
so do those before it. -/
theorem tick_battery (sysInfo : HealthMonitor.NetworkInfo) (now : ℕ) (m : HealthMonitor) :
    ∃ m' : HealthMonitor, m'.lastBatteryLevel = m.lastBatteryLevel ∧
      m'.lastBatteryEmit = m.lastBatteryEmit ∧ m'.batteryLowConfig = m.batteryLowConfig ∧
      (m.tick sysInfo now).1.batteryLowConfig = (m'.tickBattery now).1.batteryLowConfig ∧
      recordsOf "battery_level" (m.tick sysInfo now).2 =
        recordsOf "battery_level" (m'.tickBattery now).2 ∧
      recordsOf "battery_low_threshold" (m.tick sysInfo now).2 =
        recordsOf "battery_low_threshold" (m'.tickBattery now).2 := by
  have hbefore : Quiet m ((m.tickHeartbeat now).andThen (HealthMonitor.tickHeartbeatMissed now)) :=
    Quiet.tickHeartbeat.andThen fun _ => Quiet.tickHeartbeatMissed
  refine ⟨_, hbefore.level, hbefore.emit, hbefore.config, ?_, ?_, ?_⟩
  · rw [HealthMonitor.tick, config_andThen fun _ => Quiet.tickFrameQuality,
      config_andThen fun _ => Quiet.tickPump, config_andThen fun _ => Quiet.tickConnectivity,
      config_andThen fun _ => Quiet.tickPowerSupply, Emitting.andThen_fst]
  · rw [HealthMonitor.tick, levels_andThen fun _ => Quiet.tickFrameQuality,
      levels_andThen fun _ => Quiet.tickPump, levels_andThen fun _ => Quiet.tickConnectivity,
      levels_andThen fun _ => Quiet.tickPowerSupply, Emitting.andThen_snd, recordsOf_append,
      hbefore.levels, List.nil_append]
  · rw [HealthMonitor.tick, thresholds_andThen fun _ => Quiet.tickFrameQuality,
      thresholds_andThen fun _ => Quiet.tickPump,
      thresholds_andThen fun _ => Quiet.tickConnectivity,
      thresholds_andThen fun _ => Quiet.tickPowerSupply, Emitting.andThen_snd, recordsOf_append,
      hbefore.thresholds, List.nil_append]

/-- The battery section above the fixed threshold, or before the first level: at most
a snapshot of the held level. -/
theorem tickBattery_of_not_heldLow {m : HealthMonitor} (now : ℕ) (hlow : m.heldLow = false) :
    (m.tickBattery now).1.batteryLowConfig = m.batteryLowConfig ∧
      recordsOf "battery_low_threshold" (m.tickBattery now).2 = [] ∧
      (recordsOf "battery_level" (m.tickBattery now).2 = [] ∨
        batteryLowThreshold ≤ m.lastBatteryLevel ∧ m.batteryElapsed now ∧ ∃ metadata,
          recordsOf "battery_level" (m.tickBattery now).2 =
            [numericRecord "battery_level" m.lastBatteryLevel "percentage" now metadata]) := by
  simp only [HealthMonitor.tickBattery, hlow, Bool.false_eq_true, if_false]
  split
  · rename_i hlevel
    split
    · rename_i helapsed
      exact ⟨rfl, rfl, Or.inr ⟨hlevel, helapsed, _, rfl⟩⟩
    · exact ⟨rfl, rfl, Or.inl rfl⟩
  · exact ⟨rfl, rfl, Or.inl rfl⟩

/-- The levels that an allowed call records: none, or one that is fresh. -/
theorem levels_call {stored : List Signal} {node : Node} {call : Call}
    (hallowed : Undisturbed stored node call) :
    recordsOf "battery_level" (node.monitor.call call).2 = [] ∨
      ∃ value now metadata, recordsOf "battery_level" (node.monitor.call call).2 =
        [numericRecord "battery_level" value "percentage" now metadata] ∧
          Fresh stored node "battery_level" now := by
  cases call with
  | tick sysInfo now =>
      obtain ⟨hlow, hfresh⟩ := hallowed
      -- what the tick records is what its battery section records in some `m'`
      obtain ⟨m', hlevel, hemit, -, -, hlevels, -⟩ := tick_battery sysInfo now node.monitor
      have hlow' : m'.heldLow = false := by
        rw [← hlow]
        simp [HealthMonitor.heldLow, hlevel]
      obtain ⟨-, -, hnone | ⟨habove, helapsed, metadata, hone⟩⟩ :=
        tickBattery_of_not_heldLow now hlow'
      · exact Or.inl (hlevels.trans hnone)
      · rw [hlevel] at habove
        have helapsed' : node.monitor.batteryElapsed now := by
          rw [← helapsed]
          simp [HealthMonitor.batteryElapsed, hemit]
        exact Or.inr ⟨_, now, metadata, hlevels.trans hone, hfresh habove helapsed'⟩
  | batteryLevel level batteryId powerMode now =>
      simp only [HealthMonitor.call, HealthMonitor.updateBatteryLevel]
      split
      · rename_i hrecords
        exact Or.inr ⟨level, now, _, rfl, hallowed hrecords⟩
      · exact Or.inl rfl
  | batteryLowConfig threshold batteryId configuredBy now =>
      simp only [HealthMonitor.call, HealthMonitor.updateBatteryLowConfig]
      split <;> exact Or.inl rfl
  | deviceHeartbeat seqNum now => exact Or.inl Quiet.updateDeviceHeartbeat.levels
  | timeoutConfig threshold componentName configuredBy now =>
      exact Or.inl Quiet.updateTimeoutConfig.levels
  | powerSupplyStatus status sourceType voltageState => exact Or.inl rfl
  | connectivityStatus status sysInfo now =>
      exact Or.inl Quiet.updateDeviceConnectivityStatus.levels
  | waterPumpState status now => exact Or.inl Quiet.updateWaterPumpState.levels
  | bowlWaterLevel state => exact Or.inl rfl
  | frameQuality quality cameraId frameId now => exact Or.inl Quiet.updateFrameQuality.levels

/-- The thresholds that an allowed call records: none, and the configuration stays as
it is, or the new one. -/
theorem thresholds_call {stored : List Signal} {node : Node} {call : Call}
    (hallowed : Undisturbed stored node call) :
    (recordsOf "battery_low_threshold" (node.monitor.call call).2 = [] ∧
      (node.monitor.call call).1.batteryLowConfig = node.monitor.batteryLowConfig ∧
      ∀ threshold ∈ configuredThreshold call, threshold = node.monitor.batteryLowConfig) ∨
    ∃ threshold now metadata, configuredThreshold call = some threshold ∧
      (node.monitor.call call).1.batteryLowConfig = threshold ∧
      recordsOf "battery_low_threshold" (node.monitor.call call).2 =
        [numericRecord "battery_low_threshold" threshold "percentage" now metadata] ∧
      Fresh stored node "battery_low_threshold" now := by
  have hquiet : ∀ {out : Emitting}, Quiet node.monitor out → configuredThreshold call = none →
      (recordsOf "battery_low_threshold" out.2 = [] ∧
        out.1.batteryLowConfig = node.monitor.batteryLowConfig ∧
        ∀ threshold ∈ configuredThreshold call, threshold = node.monitor.batteryLowConfig) := by
    intro out hout hnone
    exact ⟨hout.thresholds, hout.config, by simp [hnone]⟩
  cases call with
  | tick sysInfo now =>
      obtain ⟨m', hlevel, -, hconfig, hconfig', -, hthresholds⟩ :=
        tick_battery sysInfo now node.monitor
      have hlow' : m'.heldLow = false := by
        rw [← hallowed.1]
        simp [HealthMonitor.heldLow, hlevel]
      obtain ⟨hkept, hnone, -⟩ := tickBattery_of_not_heldLow now hlow'
      have hsame : (node.monitor.tick sysInfo now).1.batteryLowConfig =
          node.monitor.batteryLowConfig := by
        rw [hconfig', hkept, hconfig]
      exact Or.inl ⟨hthresholds.trans hnone, hsame, by simp [configuredThreshold]⟩
  | batteryLevel level batteryId powerMode now =>
      simp only [HealthMonitor.call, HealthMonitor.updateBatteryLevel]
      split <;> exact Or.inl ⟨rfl, rfl, by simp [configuredThreshold]⟩
  | batteryLowConfig threshold batteryId configuredBy now =>
      simp only [HealthMonitor.call, HealthMonitor.updateBatteryLowConfig]
      -- the old value again is not written; a value within the tolerance is not allowed
      rcases hallowed with hsame | ⟨hchanges, hfresh⟩
      · have hnot : node.monitor.changesLowConfig threshold = false := by
          simp [HealthMonitor.changesLowConfig, hsame]
        rw [hnot]
        exact Or.inl ⟨rfl, rfl, by simpa [configuredThreshold] using hsame⟩
      · rw [hchanges]
        exact Or.inr ⟨threshold, now, _, rfl, rfl, rfl, hfresh⟩
  | deviceHeartbeat seqNum now => exact Or.inl (hquiet Quiet.updateDeviceHeartbeat rfl)
  | timeoutConfig threshold componentName configuredBy now =>
      exact Or.inl (hquiet Quiet.updateTimeoutConfig rfl)
  | powerSupplyStatus status sourceType voltageState =>
      exact Or.inl (hquiet (Quiet.of_nil rfl rfl rfl) rfl)
  | connectivityStatus status sysInfo now =>
      exact Or.inl (hquiet Quiet.updateDeviceConnectivityStatus rfl)
  | waterPumpState status now => exact Or.inl (hquiet Quiet.updateWaterPumpState rfl)
  | bowlWaterLevel state => exact Or.inl (hquiet (Quiet.of_nil rfl rfl rfl) rfl)
  | frameQuality quality cameraId frameId now =>
      exact Or.inl (hquiet Quiet.updateFrameQuality rfl)

/-! ## The newest rows -/

/-- The row of a record is the only one of its type that is as late as it is. -/
structure Newest (stored : List Signal) (node : Node) (signalType : String)
    (record : SignalRecord) : Prop where
  mem : emitSignal record ∈ signalsOf deviceId signalType (table stored node)
  later : ∀ row ∈ signalsOf deviceId signalType (table stored node),
    row = emitSignal record ∨ row.observedAt < (emitSignal record).observedAt

/-- Whatever row the engine takes as the latest, it is that of the newest record. -/
theorem Newest.latestColumn {stored : List Signal} {node : Node} {signalType : String}
    {record : SignalRecord} (hnewest : Newest stored node signalType record) {answer : Option ℚ}
    (hanswer : LatestColumn Signal.valueNumeric
      (signalsOf deviceId signalType (table stored node)) answer) :
    answer = record.signalValueNumeric := by
  rcases hanswer with ⟨hempty, -⟩ | ⟨row, hlatest, rfl⟩
  · have hmem := hnewest.mem
    rw [hempty] at hmem
    cases hmem
  · have hrow : row = emitSignal record := hlatest.eq_of_newest hnewest.mem fun other hother hne =>
      (hnewest.later other hother).resolve_left hne
    rw [hrow]
    rfl

theorem signalsOf_map_emitSignal (signalType : String) (records : List SignalRecord) :
    signalsOf deviceId signalType (records.map emitSignal) =
      ((recordsOf signalType records).filter fun record =>
        decide (record.deviceId = deviceId)).map emitSignal := by
  simp only [signalsOf, recordsOf, List.filter_map, List.filter_filter]
  rfl

theorem signalsOf_step (stored : List Signal) (node : Node) (call : Call) (signalType : String) :
    signalsOf deviceId signalType (table stored (step node call)) =
      signalsOf deviceId signalType (table stored node) ++
        ((recordsOf signalType (node.monitor.call call).2).filter fun record =>
          decide (record.deviceId = deviceId)).map emitSignal := by
  rw [← signalsOf_map_emitSignal]
  simp only [table, step, signalsOf, List.map_append, List.filter_append, List.append_assoc]

theorem lastOf_step (node : Node) (call : Call) (signalType : String) :
    lastOf signalType (step node call) =
      (recordsOf signalType node.emitted ++
        recordsOf signalType (node.monitor.call call).2).getLast? := by
  rw [lastOf, step, recordsOf_append]

section Step

variable {stored : List Signal} {node : Node} {call : Call} {signalType : String}

/-- A call that records nothing of a type keeps the last record and the newest row. -/
theorem newest_step_of_nil (stored : List Signal)
    (hnone : recordsOf signalType (node.monitor.call call).2 = []) :
    lastOf signalType (step node call) = lastOf signalType node ∧
      ∀ record, Newest stored node signalType record →
        Newest stored (step node call) signalType record := by
  refine ⟨by rw [lastOf_step, hnone, List.append_nil, lastOf], fun record hnewest => ?_⟩
  have hrows : signalsOf deviceId signalType (table stored (step node call)) =
      signalsOf deviceId signalType (table stored node) := by
    rw [signalsOf_step, hnone]
    exact List.append_nil _
  exact ⟨by rw [hrows]; exact hnewest.mem, by rw [hrows]; exact hnewest.later⟩

/-- A fresh record becomes the last one, and its row the newest. -/
theorem newest_step_of_singleton {value : ℚ} {now : ℕ} {metadata : String}
    (hone : recordsOf signalType (node.monitor.call call).2 =
      [numericRecord signalType value "percentage" now metadata])
    (hfresh : Fresh stored node signalType now) :
    lastOf signalType (step node call) =
        some (numericRecord signalType value "percentage" now metadata) ∧
      Newest stored (step node call) signalType
        (numericRecord signalType value "percentage" now metadata) := by
  refine ⟨by rw [lastOf_step, hone, List.getLast?_concat], ?_⟩
  have hrows : signalsOf deviceId signalType (table stored (step node call)) =
      signalsOf deviceId signalType (table stored node) ++
        [emitSignal (numericRecord signalType value "percentage" now metadata)] := by
    rw [signalsOf_step, hone]
    rfl
  constructor
  · rw [hrows]
    exact List.mem_append_right _ (List.mem_singleton_self _)
  · rw [hrows]
    intro row hrow
    rcases List.mem_append.mp hrow with hrow | hrow
    · exact Or.inr (hfresh row hrow)
    · exact Or.inl (List.mem_singleton.mp hrow)

end Step

/-! ## The invariant -/

/-- The last records of the two types have the newest rows, and the last threshold
record carries the configured threshold. -/
structure Consistent (stored : List Signal) (node : Node) (configured : Option ℚ) : Prop where
  level : ∀ record, lastOf "battery_level" node = some record →
    Newest stored node "battery_level" record
  threshold : ∀ record, lastOf "battery_low_threshold" node = some record →
    Newest stored node "battery_low_threshold" record ∧
      record.signalValueNumeric = some node.monitor.batteryLowConfig
  config : ∀ threshold ∈ configured, threshold = node.monitor.batteryLowConfig

theorem consistent_construct (stored : List Signal) (start : ℕ) :
    Consistent stored (Node.construct start) none :=
  ⟨by simp [lastOf, recordsOf, Node.construct], by simp [lastOf, recordsOf, Node.construct],
    by simp⟩

theorem consistent_step {stored : List Signal} {node : Node} {configured : Option ℚ} {call : Call}
    (hallowed : Undisturbed stored node call) (hnode : Consistent stored node configured) :
    Consistent stored (step node call) ((configuredThreshold call).or configured) := by
  have hlevel : ∀ record, lastOf "battery_level" (step node call) = some record →
      Newest stored (step node call) "battery_level" record := by
    intro record hlast
    rcases levels_call hallowed with hnone | ⟨value, now, metadata, hone, hfresh⟩
    · obtain ⟨hkept, hnewest⟩ := newest_step_of_nil stored hnone
      exact hnewest record (hnode.level record (hkept ▸ hlast))
    · obtain ⟨hlast', hnewest⟩ := newest_step_of_singleton hone hfresh
      rw [hlast', Option.some.injEq] at hlast
      exact hlast ▸ hnewest
  rcases thresholds_call hallowed with ⟨hnone, hkept, hsame⟩ |
    ⟨threshold, now, metadata, hconfigured, hconfig, hone, hfresh⟩
  · obtain ⟨hlast, hnewest⟩ := newest_step_of_nil stored hnone
    refine ⟨hlevel, fun record hrecord => ?_, fun threshold hthreshold => ?_⟩
    · obtain ⟨hnewest', hvalue⟩ := hnode.threshold record (hlast ▸ hrecord)
      exact ⟨hnewest record hnewest', hvalue.trans (congrArg some hkept.symm)⟩
    · refine Eq.trans ?_ hkept.symm
      cases hcall : configuredThreshold call with
      | none => exact hnode.config threshold (by simpa [hcall] using hthreshold)
      | some other =>
          obtain rfl : other = threshold := by simpa [hcall] using hthreshold
          exact hsame other hcall
  · obtain ⟨hlast, hnewest⟩ := newest_step_of_singleton hone hfresh
    refine ⟨hlevel, fun record hrecord => ?_, fun other hother => ?_⟩
    · rw [hlast, Option.some.injEq] at hrecord
      exact ⟨hrecord ▸ hnewest, by rw [← hrecord]; exact congrArg some hconfig.symm⟩
    · obtain rfl : threshold = other := by simpa [hconfigured] using hother
      exact hconfig.symm

/-! ## Every run -/

theorem lastConfigured_append_singleton (calls : List Call) (call : Call) :
    lastConfigured (calls ++ [call]) = (configuredThreshold call).or (lastConfigured calls) := by
  unfold lastConfigured
  rw [List.filterMap_append]
  cases hcall : configuredThreshold call <;> simp [hcall]

theorem consistent_run (stored : List Signal) (start : ℕ) {calls : List Call}
    (hallowed : AllSteps step (Undisturbed stored) (Node.construct start) calls) :
    Consistent stored (run step (Node.construct start) calls) (lastConfigured calls) := by
  induction calls using List.reverseRecOn with
  | nil => exact consistent_construct stored start
  | append_singleton calls call ih =>
      obtain ⟨hbefore, hcall, -⟩ := AllSteps.append_iff.mp hallowed
      rw [run_append, lastConfigured_append_singleton]
      exact consistent_step hcall (ih hbefore)

theorem alertFollows_of_consistent {stored : List Signal} {node : Node} {calls : List Call}
    (hnode : Consistent stored node (lastConfigured calls)) : AlertFollows stored node calls := by
  intro level threshold hlevel hthreshold hconfigured status now q hq
  obtain ⟨last, hlast⟩ := Option.ne_none_iff_exists'.mp hthreshold
  -- both queries return the newest rows: the configured threshold and the last level
  obtain ⟨hnewest, hvalue⟩ := hnode.threshold last hlast
  obtain ⟨answer, hanswer, hq_threshold⟩ := hq.batteryLowThreshold
  obtain ⟨answer', hanswer', hq_battery⟩ := hq.battery
  rw [hnewest.latestColumn hanswer, hvalue,
    ← hnode.config threshold hconfigured] at hq_threshold
  rw [(hnode.level level hlevel).latestColumn hanswer'] at hq_battery
  rw [emits_battery_iff (by decide), hq_threshold, hq_battery]
  cases level.signalValueNumeric with
  | none => simp
  | some b => simp

/-- **Undisturbed, the alert follows the configured threshold.**  In every run of calls
in which each new threshold is written, each record is later than those before it, and
no `tick` finds the held level below the fixed threshold, a following check raises a
battery event exactly when the last recorded level is positive and below the threshold
last configured. -/
theorem alertFollows_of_undisturbed (stored : List Signal) (start : ℕ) (calls : List Call)
    (hallowed : AllSteps step (Undisturbed stored) (Node.construct start) calls) :
    AlertFollows stored (run step (Node.construct start) calls) calls :=
  alertFollows_of_consistent (consistent_run stored start hallowed)

/-! ## A run of each kind -/

/-- The threshold 20 is configured, then a level arrives, then the monitor ticks. -/
def lowBatteryCalls (level : ℚ) : List Call :=
  [.batteryLowConfig 20 "default" "boot_default" 1000, .batteryLevel level "default" "unknown" 2000,
    .tick ⟨"unknown", "N/A"⟩ 2100]

/-- A level of 15 is below the configured threshold but not below the fixed one. -/
theorem alertFollows_level_fifteen :
    AlertFollows [] (run step (Node.construct 0) (lowBatteryCalls 15)) (lowBatteryCalls 15) :=
  alertFollows_of_undisturbed [] 0 (lowBatteryCalls 15) (by decide +kernel)

/-- What a check is told after a level of 8: the `tick` has made 8 the threshold. -/
def answersAfterLevelEight : DeviceAnswers where
  timeoutThreshold := 15
  freshnessMinutes signalType := freshness 3000000 (signalsOf deviceId signalType
    (table [] (run step (Node.construct 0) (lowBatteryCalls 8))))
  batteryLowThreshold := 8
  battery := 8
  waterRefill := 0
  status := ""

theorem answers_level_eight :
    Answers ⟨table [] (run step (Node.construct 0) (lowBatteryCalls 8)), none⟩ deviceId
      (fun _ => 3000000) answersAfterLevelEight where
  timeoutThreshold := ⟨none, Or.inl ⟨by decide +kernel, rfl⟩, rfl⟩
  freshnessMinutes := fun _ => rfl
  batteryLowThreshold := ⟨some 8, Or.inr
    ⟨⟨deviceId, some 110, "battery_low_threshold", some 8, none, none, 2100000⟩,
      ⟨by decide +kernel, by decide +kernel⟩, rfl⟩, rfl⟩
  battery := ⟨some 8, Or.inr ⟨⟨deviceId, some 73, "battery_level", some 8, none, none, 2000000⟩,
    ⟨by decide +kernel, by decide +kernel⟩, rfl⟩, rfl⟩
  waterRefill := ⟨none, Or.inl ⟨by decide +kernel, rfl⟩, rfl⟩
  status := rfl

/-- A level of 8 with the threshold 20 configured raises nothing. -/
theorem not_alertFollows_low_tick :
    ¬ AlertFollows [] (run step (Node.construct 0) (lowBatteryCalls 8)) (lowBatteryCalls 8) := by
  intro hfollows
  have hlevel : (lastOf "battery_level" (run step (Node.construct 0) (lowBatteryCalls 8))).map
      SignalRecord.signalValueNumeric = some (some 8) := by decide +kernel
  obtain ⟨level, hlast, hvalue⟩ := Option.map_eq_some_iff.mp hlevel
  have hiff := hfollows level 20 hlast (by decide +kernel) rfl none _ _ answers_level_eight
  rw [emits_battery_iff (by decide), hvalue] at hiff
  have hraised := hiff.mpr ⟨8, rfl, by decide +kernel, by decide +kernel⟩
  exact absurd hraised.2 (by decide)

end OroEdge.Health
