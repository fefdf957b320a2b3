import OroEdge.Health.Subscriber
import OroEdge.Health.Timeout
import OroEdge.Lib.Throttle

/-!
# The heartbeat of the node

The node inserts a `device_heartbeat` of its own from its main loop, every ten seconds, and
`device_health_check` takes the device for offline if there is none within the timeout.  A
heartbeat of the device, on the bus, is another matter: it only feeds a watchdog.

So the verdict depends on the times of the main loop and on nothing that comes over the bus
(`offline_iff`), and the timeout is the one of the start, fifteen minutes.  The launcher restarts
the node, so that the rows come from a number of lives of it.

The calls of the node are of two sorts.  A `tick` of the main loop may write a heartbeat, and
all that comes over the bus only `Spares` the time of the last one and writes neither of the two
types, so that it can be left out.  What remains of a life is a list of times, and `Beating`
describes the rows in terms of it: the heartbeats are those of `beatTimes`, each ten seconds or
more after the one before, and the only timeout is the one of the start.

The table is then a union over the lives, among rows of other types (`HoldsLives`), and the
verdict of a check is read off it (`offline_iff`).  Nothing is assumed of how lives follow one
another but that each has its own start.
-/

namespace OroEdge.Health

open OroEdge.Lib OroEdge.Sensors OroEdge.Storage OroEdge.Jobs

/-! ## Operations that leave the heartbeat alone -/

/-- The types of the two signals that the check for offline devices reads. -/
def offlineTypes : List String := ["device_heartbeat", "communication_timeout_threshold"]

/-- The operation keeps the time of the last heartbeat and writes neither of the two signals. -/
def Spares (operation : HealthMonitor → Emitting) : Prop :=
  ∀ m, (operation m).1.lastNodeHeartbeatEmit = m.lastNodeHeartbeatEmit ∧
    ∀ record ∈ (operation m).2, record.signalType ∉ offlineTypes

theorem Spares.andThen {first : HealthMonitor → Emitting} {second : HealthMonitor → Emitting}
    (hfirst : Spares first) (hsecond : Spares second) :
    Spares fun m => (first m).andThen second := by
  intro m
  obtain ⟨hkeep, hother⟩ := hfirst m
  obtain ⟨hkeep', hother'⟩ := hsecond (first m).1
  refine ⟨hkeep'.trans hkeep, ?_⟩
  rw [Emitting.andThen_snd]
  exact List.forall_mem_append.mpr ⟨hother, hother'⟩

theorem Emitting.andThen_assoc (first : Emitting) (second third : HealthMonitor → Emitting) :
    (first.andThen second).andThen third = first.andThen fun m => (second m).andThen third :=
  Prod.ext rfl (List.append_assoc _ _ _)

namespace HealthMonitor

variable (now : ℕ)

theorem spares_tickHeartbeatMissed : Spares (tickHeartbeatMissed now) := by
  intro m
  unfold tickHeartbeatMissed
  split
  · exact ⟨rfl, by simp [textRecord, offlineTypes]⟩
  · exact ⟨rfl, List.forall_mem_nil _⟩

theorem spares_tickBattery : Spares (tickBattery now) := by
  intro m
  unfold tickBattery
  dsimp only
  split_ifs
  · exact ⟨rfl, by simp [numericRecord, offlineTypes]⟩
  · exact ⟨rfl, List.forall_mem_nil _⟩
  · exact ⟨rfl, by simp [numericRecord, offlineTypes]⟩
  · exact ⟨rfl, List.forall_mem_nil _⟩
  · exact ⟨rfl, List.forall_mem_nil _⟩

theorem spares_tickPowerSupply : Spares (tickPowerSupply now) := by
  intro m
  unfold tickPowerSupply
  split
  · exact ⟨rfl, by simp [textRecord, offlineTypes]⟩
  · exact ⟨rfl, List.forall_mem_nil _⟩

theorem spares_updateDeviceConnectivityStatus (status : String) (sysInfo : NetworkInfo) :
    Spares (updateDeviceConnectivityStatus status sysInfo now) := by
  intro m
  unfold updateDeviceConnectivityStatus
  split
  · exact ⟨rfl, by simp [textRecord, offlineTypes]⟩
  · exact ⟨rfl, List.forall_mem_nil _⟩

theorem spares_tickConnectivity (sysInfo : NetworkInfo) : Spares (tickConnectivity sysInfo now) := by
  intro m
  unfold tickConnectivity
  split
  · exact spares_updateDeviceConnectivityStatus now m.lastConnectivityStatus sysInfo m
  · exact ⟨rfl, List.forall_mem_nil _⟩

theorem spares_tickPump : Spares (tickPump now) := by
  intro m
  unfold tickPump
  split
  · exact ⟨rfl, by simp [textRecord, offlineTypes]⟩
  · exact ⟨rfl, List.forall_mem_nil _⟩

theorem spares_tickFrameQuality : Spares (tickFrameQuality now) := by
  intro m
  unfold tickFrameQuality
  split
  · exact ⟨rfl, by simp [numericRecord, frameQualityRecord, offlineTypes]⟩
  · exact ⟨rfl, List.forall_mem_nil _⟩

theorem spares_updateWaterPumpState (status : String) : Spares (updateWaterPumpState status now) := by
  intro m
  unfold updateWaterPumpState
  split_ifs
  · exact ⟨rfl, by simp [fountainRecord, textRecord, offlineTypes]⟩
  · exact ⟨rfl, by simp [fountainRecord, pumpHealthyRecord, textRecord, offlineTypes]⟩
  · exact ⟨rfl, by simp [fountainRecord, textRecord, offlineTypes]⟩
  · exact ⟨rfl, List.forall_mem_nil _⟩

theorem spares_updateBatteryLevel (level : ℚ) (batteryId powerMode : String) :
    Spares (updateBatteryLevel level batteryId powerMode now) := by
  intro m
  unfold updateBatteryLevel
  split
  · exact ⟨rfl, by simp [numericRecord, offlineTypes]⟩
  · exact ⟨rfl, List.forall_mem_nil _⟩

theorem spares_updateDeviceHeartbeat (seqNum : ℕ) : Spares (updateDeviceHeartbeat seqNum now) := by
  intro m
  unfold updateDeviceHeartbeat
  dsimp only
  split <;> exact ⟨rfl, List.forall_mem_nil _⟩

/-- What follows the heartbeat in a tick. -/
def tickRest (sysInfo : NetworkInfo) (m : HealthMonitor) : Emitting :=
  (((((m.tickHeartbeatMissed now).andThen (tickBattery now)).andThen
    (tickPowerSupply now)).andThen (tickConnectivity sysInfo now)).andThen
    (tickPump now)).andThen (tickFrameQuality now)

theorem spares_tickRest (sysInfo : NetworkInfo) : Spares (tickRest now sysInfo) := by
  have hbattery := (spares_tickHeartbeatMissed now).andThen (spares_tickBattery now)
  have hpower := hbattery.andThen (spares_tickPowerSupply now)
  have hconnectivity := hpower.andThen (spares_tickConnectivity now sysInfo)
  have hpump := hconnectivity.andThen (spares_tickPump now)
  exact hpump.andThen (spares_tickFrameQuality now)

theorem tick_eq (sysInfo : NetworkInfo) (m : HealthMonitor) :
    m.tick sysInfo now = (m.tickHeartbeat now).andThen (tickRest now sysInfo) := by
  have hrest : tickRest now sysInfo = fun m => (m.tickHeartbeatMissed now).andThen fun m =>
      (m.tickBattery now).andThen fun m => (m.tickPowerSupply now).andThen fun m =>
        (m.tickConnectivity sysInfo now).andThen fun m =>
          (m.tickPump now).andThen (tickFrameQuality now) := by
    funext m
    rw [tickRest, Emitting.andThen_assoc, Emitting.andThen_assoc, Emitting.andThen_assoc,
      Emitting.andThen_assoc]
  rw [tick, hrest, Emitting.andThen_assoc, Emitting.andThen_assoc, Emitting.andThen_assoc,
    Emitting.andThen_assoc, Emitting.andThen_assoc]

theorem spares_updateBatteryLowConfig (threshold : ℚ) (batteryId configuredBy : String) :
    Spares (updateBatteryLowConfig threshold batteryId configuredBy now) := by
  intro m
  unfold updateBatteryLowConfig
  split
  · exact ⟨rfl, by simp [numericRecord, offlineTypes]⟩
  · exact ⟨rfl, List.forall_mem_nil _⟩

end HealthMonitor

/-! ## Calls -/

/-- A call that keeps the time of the last heartbeat and writes neither of the two signals. -/
def SparesCall (call : WholeCall) : Prop :=
  ∀ m : WholeMonitor, (m.call call).1.lastNodeHeartbeatEmit = m.lastNodeHeartbeatEmit ∧
    ∀ record ∈ (m.call call).2, record.signalType ∉ offlineTypes

theorem sparesCall_base {call : Call} (hspares : Spares fun m => m.call call) :
    SparesCall (.change (.base call)) := by
  intro m
  obtain ⟨hkeep, hother⟩ := hspares m.toHealthMonitor
  refine ⟨hkeep, fun record hrecord => ?_⟩
  obtain ⟨base, hbase, rfl⟩ := List.mem_map.mp hrecord
  exact hother base hbase

theorem BusCall.spares {call : WholeCall} (hcall : BusCall call) : SparesCall call := by
  cases hcall with
  | heartbeat seqNum now =>
      exact sparesCall_base (HealthMonitor.spares_updateDeviceHeartbeat now seqNum)
  | battery level now =>
      exact sparesCall_base (HealthMonitor.spares_updateBatteryLevel now level "default" "unknown")
  | power state => exact sparesCall_base fun m => ⟨rfl, List.forall_mem_nil _⟩
  | connectivity state sysInfo now =>
      exact sparesCall_base
        (HealthMonitor.spares_updateDeviceConnectivityStatus now (connectivityStatus state) sysInfo)
  | pump state now =>
      exact sparesCall_base (HealthMonitor.spares_updateWaterPumpState now (pumpStatus state))
  | bowl state => exact sparesCall_base fun m => ⟨rfl, List.forall_mem_nil _⟩
  | settings profileId success failureReason now =>
      intro m
      refine ⟨rfl, List.forall_mem_singleton.mpr ?_⟩
      simp [WholeMonitor.settingsApplyRecord, withoutConfidence, booleanRecord, offlineTypes]

theorem spares_bootLowConfig (boot : ℕ) :
    SparesCall (.change (.base (.batteryLowConfig 20 "default" "boot_default" boot))) :=
  sparesCall_base (HealthMonitor.spares_updateBatteryLowConfig boot 20 "default" "boot_default")

/-! ## The heartbeats of a life -/

/-- The heartbeats among the records, each with its device and its time. -/
def heartbeatsIn (records : List ChangeRecord) : List (String × ℕ) :=
  (records.filter fun record => decide (record.signalType = "device_heartbeat")).map fun record =>
    (record.deviceId, record.observedAt)

theorem heartbeatsIn_append (first second : List ChangeRecord) :
    heartbeatsIn (first ++ second) = heartbeatsIn first ++ heartbeatsIn second := by
  rw [heartbeatsIn, List.filter_append, List.map_append]
  rfl

/-- The timeouts among the records are those of the start. -/
def TimeoutsFromBoot (records : List ChangeRecord) : Prop :=
  ∀ record ∈ records, record.signalType = "communication_timeout_threshold" →
    record.signalValueNumeric = some 15

/-- The node after the main loop has ticked at the times. -/
structure Beating (ticks : List ℕ) (node : WholeNode) : Prop where
  beats : heartbeatsIn node.emitted =
    (throttled heartbeatIntervalMs 0 ticks).map fun time => (deviceId, time)
  last : node.monitor.lastNodeHeartbeatEmit = lastTaken heartbeatIntervalMs 0 ticks
  timeouts : TimeoutsFromBoot node.emitted

section

variable {ticks : List ℕ} {node : WholeNode}

theorem heartbeatsIn_of_spares {records : List ChangeRecord}
    (hother : ∀ record ∈ records, record.signalType ∉ offlineTypes) : heartbeatsIn records = [] := by
  rw [heartbeatsIn, List.map_eq_nil_iff, List.filter_eq_nil_iff]
  intro record hrecord
  have htypes := hother record hrecord
  simp only [offlineTypes, List.mem_cons, not_or] at htypes
  simpa using htypes.1

theorem timeoutsFromBoot_of_spares {records : List ChangeRecord}
    (hother : ∀ record ∈ records, record.signalType ∉ offlineTypes) : TimeoutsFromBoot records := by
  intro record hrecord htype
  exact absurd (by rw [htype]; decide) (hother record hrecord)

theorem TimeoutsFromBoot.append {first second : List ChangeRecord}
    (hfirst : TimeoutsFromBoot first) (hsecond : TimeoutsFromBoot second) :
    TimeoutsFromBoot (first ++ second) :=
  List.forall_mem_append.mpr ⟨hfirst, hsecond⟩

theorem Beating.spares (hnode : Beating ticks node) {call : WholeCall} (hcall : SparesCall call) :
    Beating ticks (wholeStep node call) := by
  obtain ⟨hkeep, hother⟩ := hcall node.monitor
  refine ⟨?_, hkeep.trans hnode.last, hnode.timeouts.append (timeoutsFromBoot_of_spares hother)⟩
  rw [wholeStep, heartbeatsIn_append, heartbeatsIn_of_spares hother, List.append_nil]
  exact hnode.beats

theorem Beating.run_spares (hnode : Beating ticks node) {calls : List WholeCall}
    (hcalls : ∀ call ∈ calls, SparesCall call) : Beating ticks (run wholeStep node calls) := by
  induction calls generalizing node with
  | nil => exact hnode
  | cons call calls ih =>
      obtain ⟨hcall, hrest⟩ := List.forall_mem_cons.mp hcalls
      rw [run_cons]
      exact ih (hnode.spares hcall) hrest

theorem tickHeartbeat_of_due (m : HealthMonitor) {now : ℕ}
    (hdue : heartbeatIntervalMs ≤ sub64 now m.lastNodeHeartbeatEmit) :
    ∃ record, (m.tickHeartbeat now).2 = [record] ∧ record.deviceId = deviceId ∧
      record.signalType = "device_heartbeat" ∧ record.observedAt = now ∧
      (m.tickHeartbeat now).1.lastNodeHeartbeatEmit = now := by
  unfold HealthMonitor.tickHeartbeat
  rw [if_pos hdue]
  exact ⟨_, rfl, rfl, rfl, rfl, rfl⟩

theorem monitor_wholeStep_base (call : Call) :
    (wholeStep node (.change (.base call))).monitor.toHealthMonitor =
      (node.monitor.toHealthMonitor.call call).1 := rfl

theorem emitted_wholeStep_base (call : Call) :
    (wholeStep node (.change (.base call))).emitted =
      node.emitted ++ (node.monitor.toHealthMonitor.call call).2.map withoutConfidence := rfl

variable (node) in
/-- A tick, up to what concerns neither of the two signals. -/
theorem wholeStep_tick (sysInfo : HealthMonitor.NetworkInfo) (now : ℕ) :
    let out := node.monitor.toHealthMonitor.tickHeartbeat now
    let node' := wholeStep node (.change (.base (.tick sysInfo now)))
    node'.monitor.lastNodeHeartbeatEmit = out.1.lastNodeHeartbeatEmit ∧
      ∃ rest : List ChangeRecord, (∀ record ∈ rest, record.signalType ∉ offlineTypes) ∧
        node'.emitted = node.emitted ++ (out.2.map withoutConfidence ++ rest) := by
  dsimp only
  rw [monitor_wholeStep_base, emitted_wholeStep_base, HealthMonitor.call, HealthMonitor.tick_eq,
    Emitting.andThen_fst, Emitting.andThen_snd, List.map_append]
  obtain ⟨hkeep, hother⟩ := HealthMonitor.spares_tickRest now sysInfo
    (node.monitor.toHealthMonitor.tickHeartbeat now).1
  refine ⟨hkeep, _, fun record hrecord => ?_, rfl⟩
  obtain ⟨base, hbase, rfl⟩ := List.mem_map.mp hrecord
  exact hother base hbase

/-- A tick, with the heartbeat if one is due. -/
theorem Beating.tick (hnode : Beating ticks node) (sysInfo : HealthMonitor.NetworkInfo)
    (now : ℕ) :
    Beating (ticks ++ [now]) (wholeStep node (.change (.base (.tick sysInfo now)))) := by
  obtain ⟨hlast, rest, hother, hemitted⟩ := wholeStep_tick node sysInfo now
  by_cases hdue : heartbeatIntervalMs ≤ sub64 now node.monitor.lastNodeHeartbeatEmit
  · obtain ⟨record, hrecords, hdevice, htype, htime, hemit⟩ :=
      tickHeartbeat_of_due node.monitor.toHealthMonitor hdue
    rw [hrecords, List.map_singleton] at hemitted
    rw [hemit] at hlast
    rw [hnode.last] at hdue
    have hbeat : heartbeatsIn [withoutConfidence record] = [(deviceId, now)] := by
      simp [heartbeatsIn, withoutConfidence, hdevice, htype, htime]
    have hnotTimeout : TimeoutsFromBoot [withoutConfidence record] := by
      refine List.forall_mem_singleton.mpr fun htimeout => ?_
      exact absurd (htype.symm.trans htimeout) (by decide)
    refine ⟨?_, ?_, ?_⟩
    · rw [hemitted, heartbeatsIn_append, heartbeatsIn_append, heartbeatsIn_of_spares hother,
        hnode.beats, hbeat, throttled_append, throttled, if_pos hdue, List.map_append]
      rfl
    · rw [hlast, lastTaken_append, lastTaken, if_pos hdue]
      rfl
    · rw [hemitted]
      exact hnode.timeouts.append (hnotTimeout.append (timeoutsFromBoot_of_spares hother))
  · have hnone : node.monitor.toHealthMonitor.tickHeartbeat now =
        (node.monitor.toHealthMonitor, []) := by
      rw [HealthMonitor.tickHeartbeat, if_neg hdue]
    rw [hnone] at hlast hemitted
    rw [hnode.last] at hdue
    refine ⟨?_, ?_, ?_⟩
    · rw [hemitted, heartbeatsIn_append, List.map_nil, List.nil_append,
        heartbeatsIn_of_spares hother, hnode.beats, throttled_append, throttled, if_neg hdue,
        throttled, List.append_nil, List.append_nil]
    · rw [hlast, lastTaken_append, lastTaken, if_neg hdue]
      exact hnode.last
    · rw [hemitted]
      exact hnode.timeouts.append (timeoutsFromBoot_of_spares hother)

end

/-! ### A run of the node -/

/-- The times of the main loop. -/
def tickTimes (actions : List NodeAction) : List ℕ :=
  actions.filterMap fun action =>
    match action with
    | .tick _ now => some now
    | _ => none

theorem tickTimes_append (first second : List NodeAction) :
    tickTimes (first ++ second) = tickTimes first ++ tickTimes second := List.filterMap_append

/-- The timeout of the start. -/
theorem exists_bootTimeout (start boot : ℕ) : ∃ record,
    (HealthMonitor.construct start).call (.timeoutConfig 15 "default" "boot_default" boot) =
        ({ HealthMonitor.construct start with timeoutConfig := 15 }, [record]) ∧
      record.signalType = "communication_timeout_threshold" ∧
      record.signalValueNumeric = some 15 := by
  have hchanges : (1 : ℚ) / 10000 < |15 - (HealthMonitor.construct start).timeoutConfig| := by
    norm_num [HealthMonitor.construct]
  rw [HealthMonitor.call, HealthMonitor.updateTimeoutConfig, if_pos hchanges]
  exact ⟨_, rfl, rfl, rfl⟩

theorem beating_boot (start boot : ℕ) : Beating [] (HealthNode.boot start boot).node := by
  obtain ⟨record, hcall, htype, hvalue⟩ := exists_bootTimeout start boot
  have hfirst : Beating [] (wholeStep (.construct start)
      (.change (.base (.timeoutConfig 15 "default" "boot_default" boot)))) := by
    have hemitted : (wholeStep (.construct start)
        (.change (.base (.timeoutConfig 15 "default" "boot_default" boot)))).emitted =
        [withoutConfidence record] := by
      rw [emitted_wholeStep_base]
      exact congrArg (fun out => out.2.map withoutConfidence) hcall
    refine ⟨?_, ?_, ?_⟩
    · rw [hemitted]
      simp [heartbeatsIn, withoutConfidence, htype, throttled]
    · rw [monitor_wholeStep_base]
      exact congrArg (fun out => out.1.lastNodeHeartbeatEmit) hcall
    · rw [hemitted]
      exact List.forall_mem_singleton.mpr fun _ => hvalue
  exact hfirst.spares (spares_bootLowConfig boot)

theorem beating_after (parse : Frame → Option Json) (level : Frame → ℚ) (start boot : ℕ)
    (actions : List NodeAction) :
    Beating (tickTimes actions) (HealthNode.after parse level start boot actions).node := by
  induction actions using List.reverseRecOn with
  | nil => exact beating_boot start boot
  | append_singleton earlier action ih =>
      rw [HealthNode.after, run_append, run_cons, run_nil, tickTimes_append]
      cases action with
      | publish endpoint message =>
          rw [show tickTimes [.publish endpoint message] = [] from rfl, List.append_nil]
          exact ih
      | receive endpoint sysInfo now =>
          rw [show tickTimes [.receive endpoint sysInfo now] = [] from rfl, List.append_nil]
          refine ih.run_spares fun call hcall => ?_
          obtain ⟨frames, -, hdispatch⟩ := List.mem_flatMap.mp hcall
          exact (busCall_of_mem_dispatchTopic hdispatch).spares
      | tick sysInfo now => exact ih.tick sysInfo now

/-! ## The rows of all lives -/

/-- A life of the node, from a start of the process to its end. -/
structure Life where
  start : ℕ
  boot : ℕ
  actions : List NodeAction

/-- The rows of a life. -/
def Life.rows (parse : Frame → Option Json) (level : Frame → ℚ) (life : Life) : List Signal :=
  (HealthNode.after parse level life.start life.boot life.actions).node.emitted.map fun record =>
    emitSignal record.toSignalRecord

/-- The times of the main loop in all lives. -/
def allTicks (lives : List Life) : List ℕ := lives.flatMap fun life => tickTimes life.actions

/-- The times of the heartbeats. -/
def beatTimes (lives : List Life) : List ℕ :=
  lives.flatMap fun life => throttled heartbeatIntervalMs 0 (tickTimes life.actions)

/-- The table of the signals: the rows of the lives, and rows of others of other types. -/
structure HoldsLives (parse : Frame → Option Json) (level : Frame → ℚ) (lives : List Life)
    (rows : List Signal) : Prop where
  own : ∀ life ∈ lives, ∀ row ∈ life.rows parse level, row ∈ rows
  other : ∀ row ∈ rows, row.signalType ∈ offlineTypes →
    ∃ life ∈ lives, row ∈ life.rows parse level

section

variable {parse : Frame → Option Json} {level : Frame → ℚ} {lives : List Life}
  {rows : List Signal}

variable (parse level) in
/-- The heartbeats of a life. -/
theorem Life.mem_heartbeats_iff (life : Life) (micros : ℤ) :
    (∃ row ∈ signalsOf deviceId "device_heartbeat" (life.rows parse level),
      row.observedAt = micros) ↔
      ∃ time ∈ throttled heartbeatIntervalMs 0 (tickTimes life.actions),
        unixMsToMicros time = micros := by
  have hbeats := (beating_after parse level life.start life.boot life.actions).beats
  constructor
  · rintro ⟨row, hrow, rfl⟩
    obtain ⟨hmem, htypes⟩ := List.mem_filter.mp hrow
    obtain ⟨record, hrecord, rfl⟩ := List.mem_map.mp hmem
    rw [Bool.and_eq_true, decide_eq_true_eq, decide_eq_true_eq] at htypes
    have hin : (record.deviceId, record.observedAt) ∈ heartbeatsIn
        (HealthNode.after parse level life.start life.boot life.actions).node.emitted :=
      List.mem_map_of_mem (List.mem_filter.mpr ⟨hrecord, decide_eq_true htypes.2⟩)
    rw [hbeats] at hin
    obtain ⟨time, htime, hpair⟩ := List.mem_map.mp hin
    exact ⟨time, htime, congrArg unixMsToMicros (Prod.mk.inj hpair).2⟩
  · rintro ⟨time, htime, rfl⟩
    have hin : (deviceId, time) ∈ heartbeatsIn
        (HealthNode.after parse level life.start life.boot life.actions).node.emitted := by
      rw [hbeats]
      exact List.mem_map_of_mem htime
    obtain ⟨record, hrecord, hpair⟩ := List.mem_map.mp hin
    obtain ⟨hmem, htype⟩ := List.mem_filter.mp hrecord
    obtain ⟨hdevice, hobserved⟩ := Prod.mk.inj hpair
    refine ⟨emitSignal record.toSignalRecord, ?_, congrArg unixMsToMicros hobserved⟩
    refine List.mem_filter.mpr ⟨List.mem_map_of_mem hmem, ?_⟩
    rw [Bool.and_eq_true, decide_eq_true_eq]
    exact ⟨hdevice, htype⟩

/-- The heartbeats in the table. -/
theorem mem_heartbeats_iff (hrows : HoldsLives parse level lives rows) (micros : ℤ) :
    (∃ row ∈ signalsOf deviceId "device_heartbeat" rows, row.observedAt = micros) ↔
      ∃ time ∈ beatTimes lives, unixMsToMicros time = micros := by
  constructor
  · rintro ⟨row, hrow, rfl⟩
    obtain ⟨hmem, htypes⟩ := List.mem_filter.mp hrow
    have htype : row.signalType = "device_heartbeat" := by
      rw [Bool.and_eq_true, decide_eq_true_eq, decide_eq_true_eq] at htypes
      exact htypes.2
    obtain ⟨life, hlife, hown⟩ := hrows.other row hmem (by rw [htype]; decide)
    obtain ⟨time, htime, hmicros⟩ := (life.mem_heartbeats_iff parse level row.observedAt).mp
      ⟨row, List.mem_filter.mpr ⟨hown, htypes⟩, rfl⟩
    exact ⟨time, List.mem_flatMap.mpr ⟨life, hlife, htime⟩, hmicros⟩
  · rintro ⟨time, htime, rfl⟩
    obtain ⟨life, hlife, htaken⟩ := List.mem_flatMap.mp htime
    obtain ⟨row, hrow, hmicros⟩ :=
      (life.mem_heartbeats_iff parse level _).mpr ⟨time, htaken, rfl⟩
    obtain ⟨hmem, htypes⟩ := List.mem_filter.mp hrow
    exact ⟨row, List.mem_filter.mpr ⟨hrows.own life hlife row hmem, htypes⟩, hmicros⟩

/-- The timeout is the one of the start, in every life. -/
theorem timeoutThreshold_eq (hrows : HoldsLives parse level lives rows) {status : Option String}
    {now : String → ℤ} {q : DeviceAnswers} (hanswers : Answers ⟨rows, status⟩ deviceId now q) :
    q.timeoutThreshold = 15 := by
  obtain ⟨answer, hlatest, hanswer⟩ := hanswers.timeoutThreshold
  rcases hlatest with ⟨-, rfl⟩ | ⟨row, hlatest, rfl⟩
  · exact hanswer
  · obtain ⟨hmem, htypes⟩ := List.mem_filter.mp hlatest.1
    rw [Bool.and_eq_true, decide_eq_true_eq, decide_eq_true_eq] at htypes
    obtain ⟨life, hlife, hown⟩ := hrows.other row hmem (by rw [htypes.2]; decide)
    obtain ⟨record, hrecord, rfl⟩ := List.mem_map.mp hown
    have hvalue := (beating_after parse level life.start life.boot life.actions).timeouts record
      hrecord htypes.2
    rw [hanswer, emitSignal, hvalue]
    rfl

/-! ## The verdict -/

/-- A check at the time `now` takes the device for offline exactly if the last heartbeat of the
node is older than fifteen minutes, with severity "high" from thirty on. -/
theorem offline_iff (hrows : HoldsLives parse level lives rows) {status : Option String}
    {now : String → ℤ} {q : DeviceAnswers} (hanswers : Answers ⟨rows, status⟩ deviceId now q) :
    ((deviceHealthCheck deviceId q).Emits "device_offline" ↔ ∀ time ∈ beatTimes lives,
        15 * 60000000 < now "device_heartbeat" - unixMsToMicros time) ∧
      ((deviceHealthCheck deviceId q).EmitsAs "device_offline" "high" ↔ ∀ time ∈ beatTimes lives,
        30 * 60000000 < now "device_heartbeat" - unixMsToMicros time) := by
  have hdevice : deviceId ≠ "" := by decide
  have holder (minutes : ℕ) (hminutes : minutes < 9999) :
      (minutes : ℚ) < q.freshnessMinutes "device_heartbeat" ↔ ∀ time ∈ beatTimes lives,
        (minutes : ℤ) * 60000000 < now "device_heartbeat" - unixMsToMicros time := by
    rw [hanswers.freshnessMinutes, lt_freshness_iff (by exact_mod_cast hminutes)]
    constructor
    · intro hall time htime
      obtain ⟨row, hrow, hmicros⟩ := (mem_heartbeats_iff hrows _).mpr ⟨time, htime, rfl⟩
      have hold := hall row hrow
      rw [hmicros] at hold
      exact_mod_cast hold
    · intro hall row hrow
      obtain ⟨time, htime, hmicros⟩ := (mem_heartbeats_iff hrows _).mp ⟨row, hrow, rfl⟩
      have hold := hall time htime
      rw [hmicros] at hold
      exact_mod_cast hold
  have hfifteen := holder 15 (by decide)
  have hthirty := holder 30 (by decide)
  rw [emits_offline_iff hdevice, emitsAs_offline_high_iff hdevice, timeoutThreshold_eq hrows hanswers]
  push_cast at hfifteen hthirty
  refine ⟨hfifteen, ?_⟩
  rw [show (15 : ℚ) * 2 = 30 by norm_num, hfifteen, hthirty]
  refine ⟨And.right, fun hall => ⟨fun time htime => ?_, hall⟩⟩
  have hold := hall time htime
  omega

end

/-- **The check for offline devices watches the main loop of the node**, and nothing that comes
over the bus: in every history of lives of the node it raises the alarm if the loop has not run
for fifteen minutes, and does not if the loop has run in the last fifteen minutes less ten
seconds. -/
theorem offline_watches_loop (parse : Frame → Option Json) (level : Frame → ℚ)
    (lives : List Life) (rows : List Signal) (hrows : HoldsLives parse level lives rows)
    (hbound : ∀ time ∈ allTicks lives, time < 9223372036854) (status : Option String)
    (now : String → ℤ) (q : DeviceAnswers) (hanswers : Answers ⟨rows, status⟩ deviceId now q) :
    ((∀ time ∈ allTicks lives, 15 * 60000000 < now "device_heartbeat" - (time : ℤ) * 1000) →
        (deviceHealthCheck deviceId q).Emits "device_offline") ∧
      ((∃ time ∈ allTicks lives, heartbeatIntervalMs ≤ time ∧
          now "device_heartbeat" - (time : ℤ) * 1000 ≤ 15 * 60000000 - 10000000) →
        ¬(deviceHealthCheck deviceId q).Emits "device_offline") := by
  rw [(offline_iff hrows hanswers).1]
  constructor
  · intro hold time htime
    obtain ⟨life, hlife, htaken⟩ := List.mem_flatMap.mp htime
    have htick : time ∈ allTicks lives :=
      List.mem_flatMap.mpr ⟨life, hlife, (throttled_sublist _ _ _).subset htaken⟩
    rw [unixMsToMicros_of_lt (hbound time htick)]
    exact hold time htick
  · rintro ⟨time, htime, hlate, hyoung⟩ hall
    obtain ⟨life, hlife, htick⟩ := List.mem_flatMap.mp htime
    have hticks : ∀ other ∈ tickTimes life.actions, other < 9223372036854 := fun other hother =>
      hbound other (List.mem_flatMap.mpr ⟨life, hlife, hother⟩)
    have hinterval : heartbeatIntervalMs = 10000 := rfl
    have hfits : ∀ other ∈ 0 :: tickTimes life.actions,
        other + heartbeatIntervalMs ≤ 18446744073709551616 := by
      refine List.forall_mem_cons.mpr ⟨by decide, fun other hother => ?_⟩
      have hlt := hticks other hother
      omega
    obtain ⟨taken, htaken, hle, hrecent⟩ := exists_recent (by decide) hfits htick
    rcases List.mem_cons.mp htaken with rfl | htaken
    · omega
    · have hold := hall taken (List.mem_flatMap.mpr ⟨life, hlife, htaken⟩)
      rw [unixMsToMicros_of_lt (hticks taken ((throttled_sublist _ _ _).subset htaken))] at hold
      omega

/-- A node that ticked once, twenty seconds after the epoch. -/
def oneTick : Life := ⟨0, 0, [.tick ⟨"", ""⟩ 20000]⟩

/-- A minute later the device is not taken for offline. -/
theorem offline_watches_loop_oneTick :
    ∃ q, Answers ⟨oneTick.rows (fun _ => none) (fun _ => 0), none⟩ deviceId (fun _ => 80000000) q ∧
      ((∀ time ∈ allTicks [oneTick], 15 * 60000000 < 80000000 - (time : ℤ) * 1000) →
          (deviceHealthCheck deviceId q).Emits "device_offline") ∧
        ((∃ time ∈ allTicks [oneTick], heartbeatIntervalMs ≤ time ∧
            80000000 - (time : ℤ) * 1000 ≤ 15 * 60000000 - 10000000) →
          ¬(deviceHealthCheck deviceId q).Emits "device_offline") := by
  obtain ⟨q, hanswers⟩ := exists_answers ⟨oneTick.rows (fun _ => none) (fun _ => 0), none⟩
    deviceId fun _ => 80000000
  have hrows : HoldsLives (fun _ => none) (fun _ => 0) [oneTick]
      (oneTick.rows (fun _ => none) (fun _ => 0)) := by
    refine ⟨fun life hlife row hrow => ?_, fun row hrow _ => ⟨oneTick, List.mem_cons_self, hrow⟩⟩
    rwa [List.mem_singleton.mp hlife] at hrow
  exact ⟨q, hanswers, offline_watches_loop (fun _ => none) (fun _ => 0) [oneTick] _ hrows
    (by decide) none (fun _ => 80000000) q hanswers⟩

end OroEdge.Health
