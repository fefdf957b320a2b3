import Mathlib.Data.List.DropRight
import OroEdge.Health.Monitor
import OroEdge.Lib.Run

/-!
# Histories of the health monitor

What a call hands over depends on the calls before it.  `HealthMonitor.after` is
the monitor that they leave, `handedOver` what the next call hands over, and
`sent` what a stretch of calls does.

The sections of a `tick` read and write fields of their own and write records of
their own types.  `tick_cases` says so once: the monitor and the records after a
`tick` are put together from those of the sections on the monitor before it.

The first half is about one `tick`.  Each of the three sections that the properties are about is
put into a closed form, with its condition, its record and the fields after it as definitions of
their own; the other four sections are `Aside`, as they change no field of these three and write
none of their types.  `tick_cases` then adds them up, and the lemmas after it pick out the
records of one type.

The second half is about what has been received.  The monitor keeps less than the history: the
number and the time of a heartbeat, and the start of a run of the pump.  `Follows` says how the
ones come from the other, and is preserved by every call, one case for each kind of call and one
for all that are `Unrelated`.
-/

namespace OroEdge.Health

open OroEdge.Lib OroEdge.Storage

/-- The rows of one type. -/
def recordsOf (signalType : String) (records : List SignalRecord) : List SignalRecord :=
  records.filter fun record => decide (record.signalType = signalType)

theorem recordsOf_append (signalType : String) (first second : List SignalRecord) :
    recordsOf signalType (first ++ second) =
      recordsOf signalType first ++ recordsOf signalType second :=
  List.filter_append ..

theorem recordsOf_ite (signalType : String) (record : SignalRecord) (written : Bool) :
    recordsOf signalType (if written then [record] else []) =
      if written && decide (record.signalType = signalType) then [record] else [] := by
  cases written <;> simp [recordsOf, List.filter_cons]

/-! ## Calls before a call -/

/-- The monitor after the calls. -/
def HealthMonitor.after (start : ℕ) (calls : List Call) : HealthMonitor :=
  (run step (Node.construct start) calls).monitor

/-- What a call hands over after the `earlier` ones. -/
def handedOver (start : ℕ) (earlier : List Call) (call : Call) : List SignalRecord :=
  ((HealthMonitor.after start earlier).call call).2

/-- What a stretch of calls hands over after the `earlier` ones. -/
def sent (start : ℕ) (earlier stretch : List Call) : List SignalRecord :=
  (run step ⟨HealthMonitor.after start earlier, []⟩ stretch).emitted

/-- The time that a call is given. -/
def Call.now? : Call → Option ℕ
  | .tick _ now | .deviceHeartbeat _ now | .batteryLevel _ _ _ now | .batteryLowConfig _ _ _ now
  | .timeoutConfig _ _ _ now | .connectivityStatus _ _ now | .waterPumpState _ now
  | .frameQuality _ _ _ now => some now
  | .powerSupplyStatus _ _ _ | .bowlWaterLevel _ => none

/-- The call writes a record of the type with the text. -/
def Writes (start : ℕ) (earlier : List Call) (call : Call) (signalType text : String) : Prop :=
  ∃ record ∈ recordsOf signalType (handedOver start earlier call),
    record.signalValueText = some text

theorem after_append_singleton (start : ℕ) (calls : List Call) (call : Call) :
    HealthMonitor.after start (calls ++ [call]) =
      ((HealthMonitor.after start calls).call call).1 := by
  unfold HealthMonitor.after
  rw [run_append]
  rfl

/-- The records of earlier calls do not matter. -/
theorem monitor_run_eq {node other : Node} (hmonitor : node.monitor = other.monitor)
    (calls : List Call) : (run step node calls).monitor = (run step other calls).monitor := by
  induction calls generalizing node other with
  | nil => exact hmonitor
  | cons call rest ih =>
      apply ih
      show (node.monitor.call call).1 = (other.monitor.call call).1
      rw [hmonitor]

theorem sent_nil (start : ℕ) (earlier : List Call) : sent start earlier [] = [] := rfl

theorem sent_append_singleton (start : ℕ) (earlier stretch : List Call) (call : Call) :
    sent start earlier (stretch ++ [call]) =
      sent start earlier stretch ++ handedOver start (earlier ++ stretch) call := by
  have hmonitor : (run step ⟨HealthMonitor.after start earlier, []⟩ stretch).monitor =
      HealthMonitor.after start (earlier ++ stretch) := by
    unfold HealthMonitor.after
    rw [run_append]
    apply monitor_run_eq
    rfl
  unfold sent handedOver
  rw [run_append, ← hmonitor]
  rfl

/-! ## The sections of a tick -/

theorem Emitting.andThen_mk (m : HealthMonitor) (records : List SignalRecord)
    (second : HealthMonitor → Emitting) :
    Emitting.andThen (m, records) second = ((second m).1, records ++ (second m).2) := rfl

namespace HealthMonitor

/-- Only the flag of the missed heartbeats is another. -/
def withStale (m : HealthMonitor) (stale : Bool) : HealthMonitor := { m with hbStale := stale }

def withBattery (m : HealthMonitor) (emit : ℕ) (logged : Bool) : HealthMonitor :=
  { m with lastBatteryEmit := emit, batteryLowEventLogged := logged }

def withReported (m : HealthMonitor) (reported : Bool) : HealthMonitor :=
  { m with pumpDamageReported := reported }

/-- The watchdog has something to say. -/
def raisesMissed (m : HealthMonitor) (now : ℕ) : Bool :=
  decide (0 < m.lastHbArrivalTimeMs) && (m.heartbeatSilent now || m.heartbeatStagnant now) &&
    !m.hbStale

/-- The row of a missed heartbeat. -/
def missedRecord (m : HealthMonitor) (now : ℕ) : SignalRecord :=
  textRecord "device_heartbeat_missed_event"
    (if m.heartbeatSilent now then "silent" else "stagnant") "event" now
    ("\x7b\"event_time\":" ++ toString now ++ ",\"device_id\":\"" ++ deviceId ++
      "\",\"uptime_seconds\":" ++ m.uptimeText now ++ ",\"issue\":\"" ++
      (if m.heartbeatSilent now then "SILENT" else "STAGNANT") ++ "\"\x7d")

theorem tickHeartbeatMissed_eq (m : HealthMonitor) (now : ℕ) :
    m.tickHeartbeatMissed now = (m.withStale (m.hbStale || m.raisesMissed now),
      if m.raisesMissed now then [m.missedRecord now] else []) := by
  by_cases hraises : m.raisesMissed now
  · have hcond : 0 < m.lastHbArrivalTimeMs ∧
        (m.heartbeatSilent now || m.heartbeatStagnant now) ∧ !m.hbStale := by
      simpa [raisesMissed, and_assoc] using hraises
    rw [tickHeartbeatMissed, if_pos hcond, if_pos hraises, hraises, Bool.or_true]
    rfl
  · have hcond : ¬ (0 < m.lastHbArrivalTimeMs ∧
        (m.heartbeatSilent now || m.heartbeatStagnant now) ∧ !m.hbStale) := by
      simpa [raisesMissed, and_assoc] using hraises
    rw [tickHeartbeatMissed, if_neg hcond, if_neg hraises, Bool.eq_false_of_not_eq_true hraises,
      Bool.or_false]
    rfl

/-- The low battery is due to be recorded. -/
def raisesLow (m : HealthMonitor) : Bool := m.heldLow && !m.batteryLowEventLogged

/-- A snapshot of the held level is due. -/
def raisesSnapshot (m : HealthMonitor) (now : ℕ) : Bool :=
  decide (batteryLowThreshold ≤ m.lastBatteryLevel) && m.batteryElapsed now

def lowRecord (m : HealthMonitor) (now : ℕ) : SignalRecord :=
  numericRecord "battery_low_threshold" m.lastBatteryLevel "percentage" now
    ("\x7b\"battery_id\":\"default\",\"configured_by\":\"system\",\"updated_at\":" ++
      toString now ++ "\x7d")

def snapshotRecord (m : HealthMonitor) (now : ℕ) : SignalRecord :=
  numericRecord "battery_level" m.lastBatteryLevel "percentage" now
    ("\x7b\"event_time\":" ++ toString now ++
      ",\"battery_id\":\"default\",\"power_mode\":\"unknown\"\x7d")

theorem not_heldLow_of_le {m : HealthMonitor} (hlevel : batteryLowThreshold ≤ m.lastBatteryLevel) :
    m.heldLow = false := by
  simp [heldLow, not_lt.mpr hlevel]

/-- The battery fields after the battery section. -/
def nextBatteryEmit (m : HealthMonitor) (now : ℕ) : ℕ :=
  if m.raisesLow || m.raisesSnapshot now then now else m.lastBatteryEmit

/-- Whether the low event counts as logged after the tick. -/
def nextLogged (m : HealthMonitor) : Bool :=
  m.heldLow || (m.batteryLowEventLogged && decide (m.lastBatteryLevel < batteryLowThreshold))

theorem tickBattery_eq (m : HealthMonitor) (now : ℕ) :
    m.tickBattery now = (m.withBattery (m.nextBatteryEmit now) m.nextLogged,
      (if m.raisesLow then [m.lowRecord now] else []) ++
        if m.raisesSnapshot now then [m.snapshotRecord now] else []) := by
  by_cases hlow : m.heldLow
  · have hlevel : ¬ batteryLowThreshold ≤ m.lastBatteryLevel := by
      intro hle
      rw [not_heldLow_of_le hle] at hlow
      cases hlow
    cases hlogged : m.batteryLowEventLogged
    · simp [tickBattery, raisesLow, raisesSnapshot, hlow, hlevel, hlogged, lowRecord, withBattery,
        nextBatteryEmit, nextLogged]
    · have hsame : { m with batteryLowEventLogged := true } = m := by rw [← hlogged]
      simpa [tickBattery, raisesLow, raisesSnapshot, hlow, hlevel, hlogged, withBattery,
        nextBatteryEmit, nextLogged] using hsame.symm
  · by_cases hlevel : batteryLowThreshold ≤ m.lastBatteryLevel
    · have hreset : ({ m with batteryLowEventLogged := false } : HealthMonitor).batteryElapsed now =
          m.batteryElapsed now := rfl
      cases helapsed : m.batteryElapsed now <;>
        simp [tickBattery, raisesLow, raisesSnapshot, hlow, hlevel, hreset, helapsed,
          not_lt.mpr hlevel, snapshotRecord, withBattery, nextBatteryEmit, nextLogged]
    · simp [tickBattery, raisesLow, raisesSnapshot, hlow, hlevel, not_le.mp hlevel, withBattery,
        nextBatteryEmit, nextLogged]

/-- A dry run is to be reported. -/
def raisesFailed (m : HealthMonitor) (now : ℕ) : Bool :=
  m.isPumpRunning && !m.pumpDamageReported &&
    decide (waterPumpHealthTimeoutMs ≤ sub64 now m.pumpOnStartTimeMs) &&
    decide (m.lastBowlLevel ≠ 1)

/-- The row of a pump that runs dry. -/
def pumpFailedRecord (now : ℕ) : SignalRecord :=
  textRecord "fountain_pump_health_status" "failed" "categorical" now
    ("\x7b\"pump_id\":\"pump_0\",\"event_time\":" ++ toString now ++
      ",\"diagnostic_code\":\"PUMP_DRY_RUN_TIMEOUT\"\x7d")

theorem tickPump_eq (m : HealthMonitor) (now : ℕ) :
    m.tickPump now = (m.withReported (m.pumpDamageReported || m.raisesFailed now),
      if m.raisesFailed now then [pumpFailedRecord now] else []) := by
  by_cases hraises : m.raisesFailed now
  · have hcond : m.isPumpRunning ∧ !m.pumpDamageReported ∧
        waterPumpHealthTimeoutMs ≤ sub64 now m.pumpOnStartTimeMs ∧ m.lastBowlLevel ≠ 1 := by
      simpa [raisesFailed, and_assoc] using hraises
    rw [tickPump, if_pos hcond, if_pos hraises, hraises, Bool.or_true]
    rfl
  · have hcond : ¬ (m.isPumpRunning ∧ !m.pumpDamageReported ∧
        waterPumpHealthTimeoutMs ≤ sub64 now m.pumpOnStartTimeMs ∧ m.lastBowlLevel ≠ 1) := by
      simpa [raisesFailed, and_assoc] using hraises
    rw [tickPump, if_neg hcond, if_neg hraises, Bool.eq_false_of_not_eq_true hraises,
      Bool.or_false]
    rfl

end HealthMonitor

/-! ### All sections -/

namespace HealthMonitor

/-- The monitor without what the other four sections of a tick change. -/
def core (m : HealthMonitor) : HealthMonitor :=
  { m with
    nodeHeartbeatSeq := 0
    lastNodeHeartbeatEmit := 0
    lastPowerEmitMs := 0
    lastConnectivityStatus := ""
    lastConnectivityEmit := 0
    lastFrameQualityEmit := 0 }

/-- The types that these sections write. -/
def otherTypes : List String :=
  ["device_heartbeat", "power_supply_status", "device_connectivity_status",
    "frame_brightness_contrast_quality"]

/-- A section that only does what the other four do. -/
structure Aside (m : HealthMonitor) (out : Emitting) : Prop where
  core : out.1.core = m.core
  types : ∀ record ∈ out.2, record.signalType ∈ otherTypes

section

variable (now : ℕ) (m : HealthMonitor)

theorem aside_nil : Aside m (m, []) := ⟨rfl, by simp⟩

theorem aside_tickHeartbeat : Aside m (m.tickHeartbeat now) := by
  unfold tickHeartbeat
  split
  · exact ⟨rfl, by simp [textRecord, otherTypes]⟩
  · exact aside_nil m

theorem aside_tickPowerSupply : Aside m (m.tickPowerSupply now) := by
  unfold tickPowerSupply
  split
  · exact ⟨rfl, by simp [textRecord, otherTypes]⟩
  · exact aside_nil m

theorem aside_updateDeviceConnectivityStatus (status : String) (sysInfo : NetworkInfo) :
    Aside m (m.updateDeviceConnectivityStatus status sysInfo now) := by
  unfold updateDeviceConnectivityStatus
  split
  · exact ⟨rfl, by simp [textRecord, otherTypes]⟩
  · exact aside_nil m

theorem aside_tickConnectivity (sysInfo : NetworkInfo) :
    Aside m (m.tickConnectivity sysInfo now) := by
  unfold tickConnectivity
  split
  · exact aside_updateDeviceConnectivityStatus now m m.lastConnectivityStatus sysInfo
  · exact aside_nil m

theorem aside_tickFrameQuality : Aside m (m.tickFrameQuality now) := by
  unfold tickFrameQuality
  split
  · exact ⟨rfl, by simp [frameQualityRecord, numericRecord, otherTypes]⟩
  · exact aside_nil m

end

theorem recordsOf_of_aside {signalType : String} (htype : signalType ∉ otherTypes)
    {records : List SignalRecord} (haside : ∀ record ∈ records, record.signalType ∈ otherTypes) :
    recordsOf signalType records = [] := by
  apply List.filter_eq_nil_iff.mpr
  intro record hrecord
  have hne : record.signalType ≠ signalType := by
    rintro rfl
    exact htype (haside record hrecord)
  simpa using hne

section Congr

variable {m m' : HealthMonitor} (now : ℕ)

theorem raisesMissed_congr (harrival : m'.lastHbArrivalTimeMs = m.lastHbArrivalTimeMs)
    (hchange : m'.lastHbChangeTimeMs = m.lastHbChangeTimeMs) (hstale : m'.hbStale = m.hbStale) :
    m'.raisesMissed now = m.raisesMissed now := by
  simp only [raisesMissed, heartbeatSilent, heartbeatStagnant, harrival, hchange, hstale]

theorem missedRecord_congr (hstart : m'.nodeStartTimeMs = m.nodeStartTimeMs)
    (harrival : m'.lastHbArrivalTimeMs = m.lastHbArrivalTimeMs) :
    m'.missedRecord now = m.missedRecord now := by
  have hsilent : m'.heartbeatSilent now = m.heartbeatSilent now := by
    simp only [heartbeatSilent, harrival]
  have huptime : m'.uptimeText now = m.uptimeText now := by
    simp only [uptimeText, hstart]
  simp only [missedRecord, hsilent, huptime]

theorem heldLow_congr (hlevel : m'.lastBatteryLevel = m.lastBatteryLevel) :
    m'.heldLow = m.heldLow := by
  simp only [heldLow, hlevel]

theorem raisesLow_congr (hlevel : m'.lastBatteryLevel = m.lastBatteryLevel)
    (hlogged : m'.batteryLowEventLogged = m.batteryLowEventLogged) :
    m'.raisesLow = m.raisesLow := by
  simp only [raisesLow, heldLow, hlevel, hlogged]

theorem raisesSnapshot_congr (hlevel : m'.lastBatteryLevel = m.lastBatteryLevel)
    (hemit : m'.lastBatteryEmit = m.lastBatteryEmit) :
    m'.raisesSnapshot now = m.raisesSnapshot now := by
  simp only [raisesSnapshot, batteryElapsed, hlevel, hemit]

theorem lowRecord_congr (hlevel : m'.lastBatteryLevel = m.lastBatteryLevel) :
    m'.lowRecord now = m.lowRecord now := by
  simp only [lowRecord, hlevel]

theorem snapshotRecord_congr (hlevel : m'.lastBatteryLevel = m.lastBatteryLevel) :
    m'.snapshotRecord now = m.snapshotRecord now := by
  simp only [snapshotRecord, hlevel]

theorem raisesFailed_congr (hrunning : m'.isPumpRunning = m.isPumpRunning)
    (hstart : m'.pumpOnStartTimeMs = m.pumpOnStartTimeMs)
    (hreported : m'.pumpDamageReported = m.pumpDamageReported)
    (hbowl : m'.lastBowlLevel = m.lastBowlLevel) : m'.raisesFailed now = m.raisesFailed now := by
  simp only [raisesFailed, hrunning, hstart, hreported, hbowl]

theorem tickHeartbeatMissed_of_core (hcore : m'.core = m.core) :
    (m'.tickHeartbeatMissed now).1.core = m.core.withStale (m.hbStale || m.raisesMissed now) ∧
      (m'.tickHeartbeatMissed now).2 =
        if m.raisesMissed now then [m.missedRecord now] else [] := by
  have hstart : m'.nodeStartTimeMs = m.nodeStartTimeMs := (congrArg nodeStartTimeMs hcore :)
  have harrival : m'.lastHbArrivalTimeMs = m.lastHbArrivalTimeMs :=
    (congrArg lastHbArrivalTimeMs hcore :)
  have hchange : m'.lastHbChangeTimeMs = m.lastHbChangeTimeMs :=
    (congrArg lastHbChangeTimeMs hcore :)
  have hstale : m'.hbStale = m.hbStale := (congrArg hbStale hcore :)
  rw [← raisesMissed_congr now harrival hchange hstale, ← missedRecord_congr now hstart harrival,
    ← hcore, ← hstale, tickHeartbeatMissed_eq]
  exact ⟨rfl, rfl⟩

theorem tickBattery_of_core {stale : Bool} (hcore : m'.core = m.core.withStale stale) :
    (m'.tickBattery now).1.core =
        (m.core.withStale stale).withBattery (m.nextBatteryEmit now) m.nextLogged ∧
      (m'.tickBattery now).2 = (if m.raisesLow then [m.lowRecord now] else []) ++
        if m.raisesSnapshot now then [m.snapshotRecord now] else [] := by
  have hlevel : m'.lastBatteryLevel = m.lastBatteryLevel := (congrArg lastBatteryLevel hcore :)
  have hemit : m'.lastBatteryEmit = m.lastBatteryEmit := (congrArg lastBatteryEmit hcore :)
  have hlogged : m'.batteryLowEventLogged = m.batteryLowEventLogged :=
    (congrArg batteryLowEventLogged hcore :)
  have hnext : m'.nextBatteryEmit now = m.nextBatteryEmit now := by
    simp only [nextBatteryEmit, raisesLow_congr hlevel hlogged,
      raisesSnapshot_congr now hlevel hemit, hemit]
  have hnextLogged : m'.nextLogged = m.nextLogged := by
    simp only [nextLogged, heldLow, hlevel, hlogged]
  rw [← raisesLow_congr hlevel hlogged, ← raisesSnapshot_congr now hlevel hemit,
    ← lowRecord_congr now hlevel, ← snapshotRecord_congr now hlevel, ← hnext, ← hnextLogged,
    ← hcore, tickBattery_eq]
  exact ⟨rfl, rfl⟩

theorem tickPump_of_core {stale logged : Bool} {emit : ℕ}
    (hcore : m'.core = (m.core.withStale stale).withBattery emit logged) :
    (m'.tickPump now).1.core = ((m.core.withStale stale).withBattery emit logged).withReported
        (m.pumpDamageReported || m.raisesFailed now) ∧
      (m'.tickPump now).2 = if m.raisesFailed now then [pumpFailedRecord now] else [] := by
  have hrunning : m'.isPumpRunning = m.isPumpRunning := (congrArg isPumpRunning hcore :)
  have hstart : m'.pumpOnStartTimeMs = m.pumpOnStartTimeMs := (congrArg pumpOnStartTimeMs hcore :)
  have hreported : m'.pumpDamageReported = m.pumpDamageReported :=
    (congrArg pumpDamageReported hcore :)
  have hbowl : m'.lastBowlLevel = m.lastBowlLevel := (congrArg lastBowlLevel hcore :)
  rw [← raisesFailed_congr now hrunning hstart hreported hbowl, ← hreported, ← hcore,
    tickPump_eq]
  exact ⟨rfl, rfl⟩

end Congr

/-- What the three sections of a tick write. -/
def tickRecords (m : HealthMonitor) (now : ℕ) : List SignalRecord :=
  (if m.raisesMissed now then [m.missedRecord now] else []) ++
    ((if m.raisesLow then [m.lowRecord now] else []) ++
      if m.raisesSnapshot now then [m.snapshotRecord now] else []) ++
    if m.raisesFailed now then [pumpFailedRecord now] else []

/-- **What a tick does.**  Each of the three sections reads fields that no section
before it has changed. -/
theorem tick_cases (sysInfo : NetworkInfo) (now : ℕ) (m : HealthMonitor) :
    (m.tick sysInfo now).1.core =
        ((m.core.withStale (m.hbStale || m.raisesMissed now)).withBattery (m.nextBatteryEmit now)
          m.nextLogged).withReported (m.pumpDamageReported || m.raisesFailed now) ∧
      ∀ signalType ∉ otherTypes,
        recordsOf signalType (m.tick sysInfo now).2 =
          recordsOf signalType (m.tickRecords now) := by
  rw [tick]
  -- 1. the heartbeat of the node
  obtain ⟨hcore₁, hrecords₁⟩ := aside_tickHeartbeat now m
  generalize m.tickHeartbeat now = out₁ at hcore₁ hrecords₁ ⊢
  obtain ⟨m₁, records₁⟩ := out₁
  rw [Emitting.andThen_mk m₁]
  -- 2. the watchdog
  obtain ⟨hcore₂, hrecords₂⟩ := tickHeartbeatMissed_of_core now hcore₁
  rw [hrecords₂]
  generalize (m₁.tickHeartbeatMissed now).1 = m₂ at hcore₂ ⊢
  rw [Emitting.andThen_mk m₂]
  -- 3. the battery
  obtain ⟨hcore₃, hrecords₃⟩ := tickBattery_of_core now hcore₂
  rw [hrecords₃]
  generalize (m₂.tickBattery now).1 = m₃ at hcore₃ ⊢
  rw [Emitting.andThen_mk m₃]
  -- 4. the power supply and the connectivity
  obtain ⟨hcore₄, hrecords₄⟩ := aside_tickPowerSupply now m₃
  generalize m₃.tickPowerSupply now = out₄ at hcore₄ hrecords₄ ⊢
  obtain ⟨m₄, records₄⟩ := out₄
  rw [Emitting.andThen_mk m₄]
  obtain ⟨hcore₅, hrecords₅⟩ := aside_tickConnectivity now m₄ sysInfo
  generalize m₄.tickConnectivity sysInfo now = out₅ at hcore₅ hrecords₅ ⊢
  obtain ⟨m₅, records₅⟩ := out₅
  rw [Emitting.andThen_mk m₅]
  -- 5. the pump and the frames
  obtain ⟨hcore₆, hrecords₆⟩ := tickPump_of_core now (hcore₅.trans (hcore₄.trans hcore₃))
  rw [hrecords₆]
  generalize (m₅.tickPump now).1 = m₆ at hcore₆ ⊢
  obtain ⟨hcore₇, hrecords₇⟩ := aside_tickFrameQuality now m₆
  rw [Emitting.andThen_mk m₆]
  refine ⟨hcore₇.trans hcore₆, fun signalType htype => ?_⟩
  simp only [tickRecords, recordsOf_append, recordsOf_of_aside htype hrecords₁,
    recordsOf_of_aside htype hrecords₄, recordsOf_of_aside htype hrecords₅,
    recordsOf_of_aside htype hrecords₇, List.nil_append, List.append_nil]

/-- The fields of the three sections after a tick. -/
structure Ticked (m : HealthMonitor) (stale logged reported : Bool) (m' : HealthMonitor) :
    Prop where
  arrival : m'.lastHbArrivalTimeMs = m.lastHbArrivalTimeMs
  change : m'.lastHbChangeTimeMs = m.lastHbChangeTimeMs
  seq : m'.lastHbSeq = m.lastHbSeq
  stale : m'.hbStale = stale
  level : m'.lastBatteryLevel = m.lastBatteryLevel
  logged : m'.batteryLowEventLogged = logged
  pumpState : m'.lastPumpState = m.lastPumpState
  running : m'.isPumpRunning = m.isPumpRunning
  pumpStart : m'.pumpOnStartTimeMs = m.pumpOnStartTimeMs
  bowl : m'.lastBowlLevel = m.lastBowlLevel
  reported : m'.pumpDamageReported = reported

theorem Ticked.of_core {m m' : HealthMonitor} {stale logged reported : Bool} {emit : ℕ}
    (hcore : m'.core =
      ((m.core.withStale stale).withBattery emit logged).withReported reported) :
    Ticked m stale logged reported m' where
  arrival := (congrArg lastHbArrivalTimeMs hcore :)
  change := (congrArg lastHbChangeTimeMs hcore :)
  seq := (congrArg lastHbSeq hcore :)
  stale := (congrArg hbStale hcore :)
  level := (congrArg lastBatteryLevel hcore :)
  logged := (congrArg batteryLowEventLogged hcore :)
  pumpState := (congrArg lastPumpState hcore :)
  running := (congrArg isPumpRunning hcore :)
  pumpStart := (congrArg pumpOnStartTimeMs hcore :)
  bowl := (congrArg lastBowlLevel hcore :)
  reported := (congrArg pumpDamageReported hcore :)

section Tick

variable (sysInfo : NetworkInfo) (now : ℕ) (m : HealthMonitor)

theorem ticked_tick : Ticked m (m.hbStale || m.raisesMissed now) m.nextLogged
    (m.pumpDamageReported || m.raisesFailed now) (m.tick sysInfo now).1 :=
  Ticked.of_core (tick_cases sysInfo now m).1

theorem configs_of_core {m' : HealthMonitor} {stale logged reported : Bool} {emit : ℕ}
    (hcore : m'.core =
      ((m.core.withStale stale).withBattery emit logged).withReported reported) :
    m'.timeoutConfig = m.timeoutConfig ∧ m'.batteryLowConfig = m.batteryLowConfig :=
  ⟨(congrArg timeoutConfig hcore :), (congrArg batteryLowConfig hcore :)⟩

theorem tick_configs : (m.tick sysInfo now).1.timeoutConfig = m.timeoutConfig ∧
    (m.tick sysInfo now).1.batteryLowConfig = m.batteryLowConfig :=
  configs_of_core m (tick_cases sysInfo now m).1

theorem recordsOf_missed_tick :
    recordsOf "device_heartbeat_missed_event" (m.tick sysInfo now).2 =
      if m.raisesMissed now then [m.missedRecord now] else [] := by
  rw [(tick_cases sysInfo now m).2 _ (by decide)]
  simp [tickRecords, recordsOf_append, recordsOf_ite, missedRecord, lowRecord, snapshotRecord,
    pumpFailedRecord, textRecord, numericRecord]

theorem recordsOf_low_tick :
    recordsOf "battery_low_threshold" (m.tick sysInfo now).2 =
      if m.raisesLow then [m.lowRecord now] else [] := by
  rw [(tick_cases sysInfo now m).2 _ (by decide)]
  simp [tickRecords, recordsOf_append, recordsOf_ite, missedRecord, lowRecord, snapshotRecord,
    pumpFailedRecord, textRecord, numericRecord]

theorem recordsOf_snapshot_tick :
    recordsOf "battery_level" (m.tick sysInfo now).2 =
      if m.raisesSnapshot now then [m.snapshotRecord now] else [] := by
  rw [(tick_cases sysInfo now m).2 _ (by decide)]
  simp [tickRecords, recordsOf_append, recordsOf_ite, missedRecord, lowRecord, snapshotRecord,
    pumpFailedRecord, textRecord, numericRecord]

theorem recordsOf_pump_tick :
    recordsOf "fountain_pump_health_status" (m.tick sysInfo now).2 =
      if m.raisesFailed now then [pumpFailedRecord now] else [] := by
  rw [(tick_cases sysInfo now m).2 _ (by decide)]
  simp [tickRecords, recordsOf_append, recordsOf_ite, missedRecord, lowRecord, snapshotRecord,
    pumpFailedRecord, textRecord, numericRecord]

end Tick

end HealthMonitor

/-! ## What has been received -/

/-- The number and the time of a heartbeat. -/
def heartbeat : Call → Option (ℕ × ℕ)
  | .deviceHeartbeat seqNum now => some (seqNum, now)
  | _ => none

/-- The heartbeats of a run, with their times. -/
def heartbeats (calls : List Call) : List (ℕ × ℕ) := calls.filterMap heartbeat

theorem mem_of_mem_heartbeats {calls : List Call} {received : ℕ × ℕ}
    (hmem : received ∈ heartbeats calls) : .deviceHeartbeat received.1 received.2 ∈ calls := by
  obtain ⟨call, hcall, hreceived⟩ := List.mem_filterMap.mp hmem
  cases call with
  | deviceHeartbeat seqNum now =>
      obtain rfl := Option.some.inj hreceived
      exact hcall
  | _ => cases hreceived

/-- A report of the state of the pump, and its time. -/
def pumpReport : Call → Option (String × ℕ)
  | .waterPumpState status now => some (status, now)
  | _ => none

def pumpReports (calls : List Call) : List (String × ℕ) := calls.filterMap pumpReport

/-- The time of the first of the last reports that all say `running`. -/
def pumpRunStart (calls : List Call) : Option ℕ :=
  ((pumpReports calls).rtakeWhile fun report => decide (report.1 = "running")).head?.map Prod.snd

/-- The level of the bowl that a call tells. -/
def bowlLevel : Call → Option ℤ
  | .bowlWaterLevel state => some state
  | _ => none

/-- The level of the bowl, as last reported. -/
def lastBowl (calls : List Call) : ℤ := (calls.filterMap bowlLevel).getLast?.getD 0

/-- A reading of the battery level. -/
def reading : Call → Option ℚ
  | .batteryLevel level _ _ _ => some level
  | _ => none

/-- A call that brings nothing for the three sections of a tick. -/
structure Unrelated (m : HealthMonitor) (call : Call) : Prop where
  heartbeat : heartbeat call = none
  report : pumpReport call = none
  bowl : bowlLevel call = none
  reading : reading call = none
  same : m.Ticked m.hbStale m.batteryLowEventLogged m.pumpDamageReported (m.call call).1
  types : ∀ record ∈ (m.call call).2, record.signalType ∈
    ["battery_low_threshold", "communication_timeout_threshold", "device_connectivity_status",
      "frame_brightness_contrast_quality"]

theorem call_cases (m : HealthMonitor) (call : Call) :
    (∃ sysInfo now, call = .tick sysInfo now) ∨
      (∃ seqNum now, call = .deviceHeartbeat seqNum now) ∨
      (∃ status now, call = .waterPumpState status now) ∨
      (∃ state, call = .bowlWaterLevel state) ∨
      (∃ level batteryId powerMode now, call = .batteryLevel level batteryId powerMode now) ∨
      Unrelated m call := by
  cases call with
  | tick sysInfo now => exact Or.inl ⟨sysInfo, now, rfl⟩
  | deviceHeartbeat seqNum now => exact Or.inr (Or.inl ⟨seqNum, now, rfl⟩)
  | waterPumpState status now => exact Or.inr (Or.inr (Or.inl ⟨status, now, rfl⟩))
  | bowlWaterLevel state => exact Or.inr (Or.inr (Or.inr (Or.inl ⟨state, rfl⟩)))
  | batteryLevel level batteryId powerMode now =>
      exact Or.inr (Or.inr (Or.inr (Or.inr (Or.inl ⟨level, batteryId, powerMode, now, rfl⟩))))
  | batteryLowConfig threshold batteryId configuredBy now =>
      refine Or.inr (Or.inr (Or.inr (Or.inr (Or.inr ⟨rfl, rfl, rfl, rfl, ?_, ?_⟩))))
      all_goals simp only [HealthMonitor.call, HealthMonitor.updateBatteryLowConfig]
      · split <;> constructor <;> rfl
      · split <;> simp [numericRecord]
  | timeoutConfig threshold componentName configuredBy now =>
      refine Or.inr (Or.inr (Or.inr (Or.inr (Or.inr ⟨rfl, rfl, rfl, rfl, ?_, ?_⟩))))
      all_goals simp only [HealthMonitor.call, HealthMonitor.updateTimeoutConfig]
      · split <;> constructor <;> rfl
      · split <;> simp [numericRecord]
  | powerSupplyStatus status sourceType voltageState =>
      refine Or.inr (Or.inr (Or.inr (Or.inr (Or.inr ⟨rfl, rfl, rfl, rfl, ?_, ?_⟩))))
      · constructor <;> rfl
      · simp [HealthMonitor.call, HealthMonitor.updatePowerSupplyStatus]
  | connectivityStatus status sysInfo now =>
      refine Or.inr (Or.inr (Or.inr (Or.inr (Or.inr ⟨rfl, rfl, rfl, rfl, ?_, ?_⟩))))
      all_goals simp only [HealthMonitor.call, HealthMonitor.updateDeviceConnectivityStatus]
      · split <;> constructor <;> rfl
      · split <;> simp [textRecord]
  | frameQuality quality cameraId frameId now =>
      refine Or.inr (Or.inr (Or.inr (Or.inr (Or.inr ⟨rfl, rfl, rfl, rfl, ?_, ?_⟩))))
      all_goals simp only [HealthMonitor.call, HealthMonitor.updateFrameQuality]
      · split <;> constructor <;> rfl
      · split <;> simp [HealthMonitor.frameQualityRecord, numericRecord]

/-- The call writes nothing of a type of the three sections. -/
theorem Unrelated.recordsOf_eq_nil {m : HealthMonitor} {call : Call} (hunrelated : Unrelated m call)
    {signalType : String} (htype : signalType ∉ ["battery_low_threshold",
      "communication_timeout_threshold", "device_connectivity_status",
      "frame_brightness_contrast_quality"]) : recordsOf signalType (m.call call).2 = [] := by
  apply List.filter_eq_nil_iff.mpr
  intro record hrecord
  have hne : record.signalType ≠ signalType := by
    rintro rfl
    exact htype (hunrelated.types record hrecord)
  simpa using hne

/-- What the monitor keeps of the heartbeats, of the pump and of the bowl. -/
structure Follows (calls : List Call) (m : HealthMonitor) : Prop where
  arrival : m.lastHbArrivalTimeMs = ((heartbeats calls).getLast?.map Prod.snd).getD 0
  seq : m.lastHbSeq = ((heartbeats calls).getLast?.map Prod.fst).getD 0
  pumpState : m.lastPumpState = ((pumpReports calls).getLast?.map Prod.fst).getD "unknown"
  running : m.isPumpRunning = decide (m.lastPumpState = "running")
  pumpStart : m.isPumpRunning → pumpRunStart calls = some m.pumpOnStartTimeMs
  bowl : m.lastBowlLevel = lastBowl calls

theorem follows_construct (start : ℕ) : Follows [] (HealthMonitor.construct start) :=
  ⟨rfl, rfl, rfl, by simp [HealthMonitor.construct], nofun, rfl⟩

/-- Other calls, which leave these fields alone. -/
theorem Follows.frame {calls : List Call} {call : Call} {m m' : HealthMonitor}
    (hfollows : Follows calls m) (hheartbeat : heartbeat call = none)
    (hreport : pumpReport call = none) (hbowl : bowlLevel call = none)
    (harrival : m'.lastHbArrivalTimeMs = m.lastHbArrivalTimeMs) (hseq : m'.lastHbSeq = m.lastHbSeq)
    (hstate : m'.lastPumpState = m.lastPumpState) (hrunning : m'.isPumpRunning = m.isPumpRunning)
    (hstart : m'.pumpOnStartTimeMs = m.pumpOnStartTimeMs)
    (hlevel : m'.lastBowlLevel = m.lastBowlLevel) : Follows (calls ++ [call]) m' := by
  have hheartbeats : heartbeats (calls ++ [call]) = heartbeats calls := by
    simp [heartbeats, hheartbeat]
  have hreports : pumpReports (calls ++ [call]) = pumpReports calls := by
    simp [pumpReports, hreport]
  have hbowls : lastBowl (calls ++ [call]) = lastBowl calls := by
    simp [lastBowl, hbowl]
  constructor
  · rw [harrival, hheartbeats, hfollows.arrival]
  · rw [hseq, hheartbeats, hfollows.seq]
  · rw [hstate, hreports, hfollows.pumpState]
  · rw [hrunning, hstate, hfollows.running]
  · rw [hrunning, hstart, pumpRunStart, hreports]
    exact hfollows.pumpStart
  · rw [hlevel, hbowls, hfollows.bowl]

theorem Follows.heartbeat {calls : List Call} {m : HealthMonitor} (hfollows : Follows calls m)
    (seqNum now : ℕ) : Follows (calls ++ [.deviceHeartbeat seqNum now])
      (m.updateDeviceHeartbeat seqNum now).1 := by
  have hheartbeats : heartbeats (calls ++ [.deviceHeartbeat seqNum now]) =
      heartbeats calls ++ [(seqNum, now)] := by
    simp [heartbeats, Health.heartbeat]
  have hreports : pumpReports (calls ++ [.deviceHeartbeat seqNum now]) = pumpReports calls := by
    simp [pumpReports, pumpReport]
  have hbowls : lastBowl (calls ++ [.deviceHeartbeat seqNum now]) = lastBowl calls := by
    simp [lastBowl, bowlLevel]
  unfold HealthMonitor.updateDeviceHeartbeat
  dsimp only
  split
  · refine ⟨?_, ?_, ?_, hfollows.running, ?_, ?_⟩
    · simp [hheartbeats]
    · simp [hheartbeats]
    · rw [hreports]
      exact hfollows.pumpState
    · rw [pumpRunStart, hreports]
      exact hfollows.pumpStart
    · rw [hbowls]
      exact hfollows.bowl
  · rename_i hseq
    refine ⟨?_, ?_, ?_, hfollows.running, ?_, ?_⟩
    · simp [hheartbeats]
    · simpa [hheartbeats] using (not_not.mp hseq).symm
    · rw [hreports]
      exact hfollows.pumpState
    · rw [pumpRunStart, hreports]
      exact hfollows.pumpStart
    · rw [hbowls]
      exact hfollows.bowl

theorem mem_of_pumpRunStart {calls : List Call} {now : ℕ} (hstart : pumpRunStart calls = some now) :
    .waterPumpState "running" now ∈ calls := by
  obtain ⟨⟨status, now'⟩, hhead, rfl⟩ := Option.map_eq_some_iff.mp hstart
  have hmem := List.mem_of_mem_head? hhead
  have hstatus : status = "running" := by
    simpa using List.mem_rtakeWhile_imp hmem
  subst hstatus
  obtain ⟨call, hcall, hreport⟩ :=
    List.mem_filterMap.mp ((List.rtakeWhile_suffix _ _).subset hmem)
  cases call with
  | waterPumpState status now =>
      obtain ⟨rfl, rfl⟩ := Prod.mk.inj (Option.some.inj hreport)
      exact hcall
  | _ => cases hreport

/-- A report that says `running` starts a run, or belongs to the one that goes on. -/
theorem pumpRunStart_append_running (calls : List Call) (now : ℕ) :
    pumpRunStart (calls ++ [.waterPumpState "running" now]) =
      some ((pumpRunStart calls).getD now) := by
  unfold pumpRunStart pumpReports
  rw [List.filterMap_append]
  simp only [pumpReport, List.filterMap_cons, List.filterMap_nil]
  rw [List.rtakeWhile_concat_pos _ _ _ (by simp)]
  cases ((calls.filterMap pumpReport).rtakeWhile _) <;> simp

/-- No run goes on unless the last report says `running`. -/
theorem pumpRunStart_eq_none_iff (calls : List Call) :
    pumpRunStart calls = none ↔
      ∀ report ∈ (pumpReports calls).getLast?, report.1 ≠ "running" := by
  unfold pumpRunStart
  rw [Option.map_eq_none_iff, List.head?_eq_none_iff]
  rcases List.eq_nil_or_concat (pumpReports calls) with hnil | ⟨reports, report, hreports⟩
  · simp [hnil]
  · rw [hreports, List.concat_eq_append, List.rtakeWhile_concat, List.getLast?_concat]
    by_cases hrunning : report.1 = "running" <;> simp [hrunning]

theorem Follows.pumpRunStart_eq_none {calls : List Call} {m : HealthMonitor}
    (hfollows : Follows calls m) (hstate : m.lastPumpState ≠ "running") :
    pumpRunStart calls = none := by
  rw [pumpRunStart_eq_none_iff]
  intro report hlast hrunning
  apply hstate
  rw [hfollows.pumpState, Option.mem_def.mp hlast]
  exact hrunning

theorem Follows.waterPump {calls : List Call} {m : HealthMonitor} (hfollows : Follows calls m)
    (status : String) (now : ℕ) : Follows (calls ++ [.waterPumpState status now])
      (m.updateWaterPumpState status now).1 := by
  have hheartbeats : heartbeats (calls ++ [.waterPumpState status now]) = heartbeats calls := by
    simp [heartbeats, Health.heartbeat]
  have hreports : pumpReports (calls ++ [.waterPumpState status now]) =
      pumpReports calls ++ [(status, now)] := by
    simp [pumpReports, pumpReport]
  have hbowls : lastBowl (calls ++ [.waterPumpState status now]) = lastBowl calls := by
    simp [lastBowl, bowlLevel]
  have hkept : ∀ m' : HealthMonitor, m'.lastHbArrivalTimeMs = m.lastHbArrivalTimeMs →
      m'.lastHbSeq = m.lastHbSeq → m'.lastBowlLevel = m.lastBowlLevel →
      m'.lastPumpState = status → m'.isPumpRunning = decide (status = "running") →
      (m'.isPumpRunning → pumpRunStart (calls ++ [.waterPumpState status now]) =
        some m'.pumpOnStartTimeMs) → Follows (calls ++ [.waterPumpState status now]) m' := by
    intro m' harrival hseq hbowl hstate hrunning hstart
    constructor
    · rw [harrival, hheartbeats, hfollows.arrival]
    · rw [hseq, hheartbeats, hfollows.seq]
    · simp [hstate, hreports]
    · rw [hrunning, hstate]
    · exact hstart
    · rw [hbowl, hbowls, hfollows.bowl]
  unfold HealthMonitor.updateWaterPumpState
  split
  · rename_i hchanged
    split
    · rename_i hrunning
      subst hrunning
      -- a new run: the state was another one
      refine hkept _ rfl rfl rfl rfl (by simp) fun _ => ?_
      rw [pumpRunStart_append_running, hfollows.pumpRunStart_eq_none hchanged.symm]
      rfl
    · rename_i hstopped
      exact hkept _ rfl rfl rfl rfl (by simpa using hstopped) (by simp)
  · rename_i hsame
    have hstatus : status = m.lastPumpState := not_not.mp hsame
    refine hkept m rfl rfl rfl hstatus.symm (by rw [hfollows.running, hstatus]) fun hrunning => ?_
    have hstate : m.lastPumpState = "running" := by
      simpa [hfollows.running] using hrunning
    rw [hstatus, hstate, pumpRunStart_append_running, hfollows.pumpStart hrunning]
    rfl

theorem Follows.call {calls : List Call} {m : HealthMonitor} (hfollows : Follows calls m)
    (call : Call) : Follows (calls ++ [call]) (m.call call).1 := by
  rcases call_cases m call with ⟨sysInfo, now, rfl⟩ | ⟨seqNum, now, rfl⟩ | ⟨status, now, rfl⟩ |
    ⟨state, rfl⟩ | ⟨level, batteryId, powerMode, now, rfl⟩ | hunrelated
  · have hticked := HealthMonitor.ticked_tick sysInfo now m
    exact hfollows.frame rfl rfl rfl hticked.arrival hticked.seq hticked.pumpState
      hticked.running hticked.pumpStart hticked.bowl
  · exact hfollows.heartbeat seqNum now
  · exact hfollows.waterPump status now
  · have hheartbeats : heartbeats (calls ++ [.bowlWaterLevel state]) = heartbeats calls := by
      simp [heartbeats, Health.heartbeat]
    have hreports : pumpReports (calls ++ [.bowlWaterLevel state]) = pumpReports calls := by
      simp [pumpReports, pumpReport]
    constructor
    · rw [hheartbeats]
      exact hfollows.arrival
    · rw [hheartbeats]
      exact hfollows.seq
    · rw [hreports]
      exact hfollows.pumpState
    · exact hfollows.running
    · rw [pumpRunStart, hreports]
      exact hfollows.pumpStart
    · simp [lastBowl, bowlLevel, HealthMonitor.call, HealthMonitor.updateBowlWaterLevel]
  · simp only [HealthMonitor.call, HealthMonitor.updateBatteryLevel]
    split <;> exact hfollows.frame rfl rfl rfl rfl rfl rfl rfl rfl rfl
  · exact hfollows.frame hunrelated.heartbeat hunrelated.report hunrelated.bowl
      hunrelated.same.arrival hunrelated.same.seq hunrelated.same.pumpState
      hunrelated.same.running hunrelated.same.pumpStart hunrelated.same.bowl

theorem follows_after (start : ℕ) (calls : List Call) :
    Follows calls (HealthMonitor.after start calls) := by
  induction calls using List.reverseRecOn with
  | nil => exact follows_construct start
  | append_singleton calls call ih =>
      rw [after_append_singleton]
      exact ih.call call

end OroEdge.Health
