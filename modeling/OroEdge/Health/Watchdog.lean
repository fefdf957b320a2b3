import OroEdge.Health.History

/-!
# The watchdogs and the clock

`tick` and the heartbeats are handled on different threads, each with its own
reading of the wall clock, so a tick may come with an earlier time than a call
before it.  An alarm should be raised only if the time really has passed
(`AlarmsAfterTimeout`).

The elapsed time is an unsigned difference.  When the clock of the tick is behind
the start of an armed timer by any amount, it wraps to more than `2 ^ 63`, and the
alarm goes off at once.  `NotBehind` says that no armed timer starts after the time
of the tick; a run raises no false alarm exactly when all its ticks are such.

The proof looks at one `tick`, since an alarm is decided by the monitor before it and by its
clock.  Whether the watchdog is armed and when its timer started is known from the history
(`OroEdge.Health.History`), and so is the start of a run of the pump; with this the two
conditions of the code are compared with those of the property (`silent_iff`, `failed_iff`). 
The difference wraps in one case only, and a wrapped difference of times below `2 ^ 63` is
larger than any timeout.
-/

namespace OroEdge.Health

open OroEdge.Lib

/-! ## The property -/

/-- The two alarms of a tick come only after their time has passed. -/
def AlarmsAfterTimeout (start : ℕ) (calls : List Call) : Prop :=
  ∀ earlier sysInfo now later, calls = earlier ++ .tick sysInfo now :: later →
    (Writes start earlier (.tick sysInfo now) "device_heartbeat_missed_event" "silent" →
      ∃ last ∈ (heartbeats earlier).getLast?, last.2 + 3000 ≤ now) ∧
    (Writes start earlier (.tick sysInfo now) "fountain_pump_health_status" "failed" →
      ∃ runStart ∈ pumpRunStart earlier, runStart + 10000 ≤ now)

/-- The clock of a tick is not behind the last heartbeat while the watchdog is armed,
nor behind the start of a run of the pump that may still be found dry. -/
def NotBehind (node : Node) : Call → Prop
  | .tick _ now =>
      (0 < node.monitor.lastHbArrivalTimeMs → node.monitor.hbStale = false →
        node.monitor.lastHbArrivalTimeMs ≤ now) ∧
      (node.monitor.isPumpRunning = true → node.monitor.pumpDamageReported = false →
        node.monitor.lastBowlLevel ≠ 1 → node.monitor.pumpOnStartTimeMs ≤ now)
  | _ => True

instance (node : Node) : ∀ call, Decidable (NotBehind node call)
  | .tick .. => inferInstanceAs (Decidable ((_ → _ → _) ∧ (_ → _ → _ → _)))
  | .batteryLevel .. | .batteryLowConfig ..
  | .deviceHeartbeat .. | .timeoutConfig .. | .powerSupplyStatus .. | .connectivityStatus ..
  | .waterPumpState .. | .bowlWaterLevel .. | .frameQuality .. => inferInstanceAs (Decidable True)

/-! ## One tick -/

section

variable {start : ℕ} {earlier : List Call} {sysInfo : HealthMonitor.NetworkInfo} {now : ℕ}

theorem writes_missed_iff {text : String} :
    Writes start earlier (.tick sysInfo now) "device_heartbeat_missed_event" text ↔
      (HealthMonitor.after start earlier).raisesMissed now ∧
        text = if (HealthMonitor.after start earlier).heartbeatSilent now then "silent"
          else "stagnant" := by
  have hrecords := HealthMonitor.recordsOf_missed_tick sysInfo now
    (HealthMonitor.after start earlier)
  unfold Writes handedOver
  rw [HealthMonitor.call, hrecords]
  by_cases hraises : (HealthMonitor.after start earlier).raisesMissed now
  · rw [if_pos hraises]
    simp only [List.mem_singleton, exists_eq_left, HealthMonitor.missedRecord, textRecord,
      Option.some.injEq, hraises, true_and]
    exact eq_comm
  · simp [hraises]

theorem writes_failed_iff :
    Writes start earlier (.tick sysInfo now) "fountain_pump_health_status" "failed" ↔
      (HealthMonitor.after start earlier).raisesFailed now := by
  have hrecords := HealthMonitor.recordsOf_pump_tick sysInfo now
    (HealthMonitor.after start earlier)
  unfold Writes handedOver
  rw [HealthMonitor.call, hrecords]
  by_cases hraises : (HealthMonitor.after start earlier).raisesFailed now
  · simp [hraises, HealthMonitor.pumpFailedRecord, textRecord]
  · simp [hraises]

/-- The alarm for silence is false exactly if the watchdog is armed and the clock is
behind the last heartbeat. -/
theorem silent_iff (htimes : ∀ call ∈ earlier, ∀ t ∈ call.now?, t < 9223372036854775808)
    (hnow : now < 9223372036854775808) :
    (Writes start earlier (.tick sysInfo now) "device_heartbeat_missed_event" "silent" →
        ∃ last ∈ (heartbeats earlier).getLast?, last.2 + 3000 ≤ now) ↔
      (0 < (HealthMonitor.after start earlier).lastHbArrivalTimeMs →
        (HealthMonitor.after start earlier).hbStale = false →
          (HealthMonitor.after start earlier).lastHbArrivalTimeMs ≤ now) := by
  have harrival := (follows_after start earlier).arrival
  have hsilent : "silent" = (if (HealthMonitor.after start earlier).heartbeatSilent now then
      "silent" else "stagnant") ↔ (HealthMonitor.after start earlier).heartbeatSilent now := by
    split <;> simp [*]
  rw [writes_missed_iff, hsilent]
  generalize HealthMonitor.after start earlier = m at harrival ⊢
  cases hlast : (heartbeats earlier).getLast? with
  | none =>
      -- no heartbeat yet: the watchdog is not armed
      rw [hlast] at harrival
      have hunarmed : m.lastHbArrivalTimeMs = 0 := harrival
      simp [HealthMonitor.raisesMissed, hunarmed]
  | some last =>
      rw [hlast] at harrival
      have htime : m.lastHbArrivalTimeMs = last.2 := harrival
      have hbound : last.2 < 9223372036854775808 :=
        htimes _ (mem_of_mem_heartbeats (List.mem_of_mem_getLast? hlast)) _ rfl
      simp only [HealthMonitor.raisesMissed, HealthMonitor.heartbeatSilent, htime,
        Option.mem_some_iff, exists_eq_left', Bool.and_eq_true, decide_eq_true_eq,
        Bool.or_eq_true, Bool.not_eq_true']
      constructor
      · intro halarm harmed hstale
        by_contra hbehind
        have hwraps := sub64_of_lt (not_le.mp hbehind)
        have hfalse := halarm ⟨⟨⟨harmed, Or.inl (by omega)⟩, hstale⟩, by omega⟩
        omega
      · rintro hclock ⟨⟨⟨harmed, -⟩, hstale⟩, helapsed⟩
        have hle := hclock harmed hstale
        rw [sub64_of_le hle (by omega)] at helapsed
        omega

/-- The same for a pump that runs dry. -/
theorem failed_iff (htimes : ∀ call ∈ earlier, ∀ t ∈ call.now?, t < 9223372036854775808)
    (hnow : now < 9223372036854775808) :
    (Writes start earlier (.tick sysInfo now) "fountain_pump_health_status" "failed" →
        ∃ runStart ∈ pumpRunStart earlier, runStart + 10000 ≤ now) ↔
      ((HealthMonitor.after start earlier).isPumpRunning = true →
        (HealthMonitor.after start earlier).pumpDamageReported = false →
          (HealthMonitor.after start earlier).lastBowlLevel ≠ 1 →
            (HealthMonitor.after start earlier).pumpOnStartTimeMs ≤ now) := by
  have hstart := (follows_after start earlier).pumpStart
  rw [writes_failed_iff]
  generalize HealthMonitor.after start earlier = m at hstart ⊢
  simp only [HealthMonitor.raisesFailed, Bool.and_eq_true, decide_eq_true_eq,
    Bool.not_eq_true']
  have htimeout : waterPumpHealthTimeoutMs = 10000 := rfl
  by_cases hrunning : m.isPumpRunning
  · have hbound : m.pumpOnStartTimeMs < 9223372036854775808 :=
      htimes _ (mem_of_pumpRunStart (hstart hrunning)) _ rfl
    rw [hstart hrunning]
    simp only [hrunning, true_and, Option.mem_some_iff, exists_eq_left', forall_true_left]
    constructor
    · intro halarm hreported hbowl
      by_contra hbehind
      have hwraps := sub64_of_lt (not_le.mp hbehind)
      have hfalse := halarm ⟨⟨hreported, by omega⟩, hbowl⟩
      omega
    · rintro hclock ⟨⟨hreported, helapsed⟩, hbowl⟩
      have hle := hclock hreported hbowl
      rw [sub64_of_le hle (by omega)] at helapsed
      omega
  · simp [hrunning]

end

/-! ## Every run -/

/-- **No false alarm, if no tick is behind.**  The times are below `2 ^ 63`; nothing is
assumed of their order. -/
theorem alarmsAfterTimeout_iff_notBehind (start : ℕ) (calls : List Call)
    (htimes : ∀ call ∈ calls, ∀ t ∈ call.now?, t < 9223372036854775808) :
    AlarmsAfterTimeout start calls ↔ AllSteps step NotBehind (Node.construct start) calls := by
  have htick : ∀ earlier sysInfo now later, calls = earlier ++ .tick sysInfo now :: later →
      ((Writes start earlier (.tick sysInfo now) "device_heartbeat_missed_event" "silent" →
          ∃ last ∈ (heartbeats earlier).getLast?, last.2 + 3000 ≤ now) ∧
        (Writes start earlier (.tick sysInfo now) "fountain_pump_health_status" "failed" →
          ∃ runStart ∈ pumpRunStart earlier, runStart + 10000 ≤ now) ↔
        NotBehind (run step (Node.construct start) earlier) (.tick sysInfo now)) := by
    rintro earlier sysInfo now later rfl
    have hearlier : ∀ call ∈ earlier, ∀ t ∈ call.now?, t < 9223372036854775808 :=
      fun call hcall => htimes call (List.mem_append_left _ hcall)
    have hnow : now < 9223372036854775808 := htimes (.tick sysInfo now) (by simp) now rfl
    exact and_congr (silent_iff hearlier hnow) (failed_iff hearlier hnow)
  rw [allSteps_iff_forall_split]
  constructor
  · intro halarms earlier call later hsplit
    cases call with
    | tick sysInfo now =>
        exact (htick earlier sysInfo now later hsplit).mp (halarms earlier sysInfo now later hsplit)
    | _ => trivial
  · intro hclocks earlier sysInfo now later hsplit
    exact (htick earlier sysInfo now later hsplit).mpr (hclocks earlier _ later hsplit)

/-! ## A run of each kind -/

/-- A heartbeat and a start of the pump at 5 s, then a tick. -/
def tickAfterFiveSeconds (now : ℕ) : List Call :=
  [.deviceHeartbeat 1 5000, .waterPumpState "running" 5000, .tick ⟨"unknown", "N/A"⟩ now]

theorem alarmsAfterTimeout_five_seconds : AlarmsAfterTimeout 0 (tickAfterFiveSeconds 15000) :=
  (alarmsAfterTimeout_iff_notBehind 0 (tickAfterFiveSeconds 15000) (by decide)).mpr
    (by decide +kernel)

/-- The tick has read the clock one millisecond before the heartbeat did. -/
theorem not_alarmsAfterTimeout_behind : ¬ AlarmsAfterTimeout 0 (tickAfterFiveSeconds 4999) := by
  intro halarms
  obtain ⟨hsilent, -⟩ := halarms
    [.deviceHeartbeat 1 5000, .waterPumpState "running" 5000] ⟨"unknown", "N/A"⟩ 4999 [] rfl
  have hwritten : Writes 0 [.deviceHeartbeat 1 5000, .waterPumpState "running" 5000]
      (.tick ⟨"unknown", "N/A"⟩ 4999) "device_heartbeat_missed_event" "silent" := by
    rw [writes_missed_iff]
    decide +kernel
  obtain ⟨last, hlast, hle⟩ := hsilent hwritten
  obtain rfl : (1, 5000) = last := Option.some.inj hlast
  omega

end OroEdge.Health
