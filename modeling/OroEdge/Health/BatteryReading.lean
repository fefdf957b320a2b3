import OroEdge.Health.History

/-!
# The latest battery reading

What a `tick` decides about the battery should be about the latest reading
(`LatestDecides`): whether it is low, which level a snapshot carries, and that a low
battery is on record.

`update_battery_level` keeps a reading only if it records it, that is after a minute
without a record or a change of 3 points, and every snapshot of a `tick` starts that
minute again.  A battery that drains by less than 3 points a minute is therefore held
at an old level for as long as the ticks go on.  The second gap is the latch of the
low event: only a tick that sees a high level clears it, so a battery that is low
again before the next tick is not put on record again.

`Kept` excludes the two for one reading.

The invariant is `HoldsLatest`: the held level is the latest reading, and with a low one the
latch tells whether it is on record.  A tick preserves it, since it looks at the held level and
closes the latch when it writes (`HoldsLatest.tick`); a reading preserves it if it is `Kept`
(`HoldsLatest.batteryLevel`); and any other call leaves both fields alone.
-/

namespace OroEdge.Health

open OroEdge.Lib

/-! ## The property -/

def readings (calls : List Call) : List ℚ := calls.filterMap reading

/-- A tick has recorded the low battery, and all readings since are low. -/
def LowOnRecord (start : ℕ) (calls : List Call) : Prop :=
  ∃ before sysInfo now rest, calls = before ++ .tick sysInfo now :: rest ∧
    recordsOf "battery_low_threshold" (handedOver start before (.tick sysInfo now)) ≠ [] ∧
      ∀ level ∈ readings rest, level < 10

/-- Every tick decides on the latest reading. -/
def LatestDecides (start : ℕ) (calls : List Call) : Prop :=
  ∀ earlier sysInfo now later, calls = earlier ++ .tick sysInfo now :: later →
    ∀ level ∈ (readings earlier).getLast?,
      ((HealthMonitor.after start earlier).heldLow = true ↔ level < 10) ∧
      (∀ record ∈ recordsOf "battery_level" (handedOver start earlier (.tick sysInfo now)),
        record.signalValueNumeric = some level) ∧
      (level < 10 → LowOnRecord start (earlier ++ [.tick sysInfo now]))

/-- A reading is kept, or is the one that is held; and a low reading after a high one
finds the latch open. -/
def Kept (node : Node) : Call → Prop
  | .batteryLevel level _ _ now =>
      (node.monitor.recordsLevel level now = true ∨ level = node.monitor.lastBatteryLevel) ∧
        (level < 10 → 10 ≤ node.monitor.lastBatteryLevel →
          node.monitor.batteryLowEventLogged = false)
  | _ => True

instance (node : Node) : ∀ call, Decidable (Kept node call)
  | .batteryLevel .. => inferInstanceAs (Decidable ((_ ∨ _) ∧ (_ → _ → _)))
  | .tick .. | .batteryLowConfig ..
  | .deviceHeartbeat .. | .timeoutConfig .. | .powerSupplyStatus .. | .connectivityStatus ..
  | .waterPumpState .. | .bowlWaterLevel .. | .frameQuality .. => inferInstanceAs (Decidable True)

/-! ## The held level -/

theorem LowOnRecord.append_singleton {start : ℕ} {calls : List Call} {call : Call}
    (hrecord : LowOnRecord start calls) (hreading : ∀ level ∈ reading call, level < 10) :
    LowOnRecord start (calls ++ [call]) := by
  obtain ⟨before, sysInfo, now, rest, rfl, hwritten, hlow⟩ := hrecord
  refine ⟨before, sysInfo, now, rest ++ [call], by simp, hwritten, fun level hlevel => ?_⟩
  rw [readings, List.filterMap_append] at hlevel
  rcases List.mem_append.mp hlevel with hlevel | hlevel
  · exact hlow level hlevel
  · obtain ⟨call', hcall, hlevel⟩ := List.mem_filterMap.mp hlevel
    rw [List.mem_singleton.mp hcall] at hlevel
    exact hreading level hlevel

/-- The held level is the latest reading, and the latch of a low one tells the truth. -/
structure HoldsLatest (start : ℕ) (calls : List Call) (m : HealthMonitor) : Prop where
  level : m.lastBatteryLevel = (readings calls).getLast?.getD (-1)
  logged : m.batteryLowEventLogged → m.lastBatteryLevel < 10 → LowOnRecord start calls

/-- A call that brings no reading and changes neither field. -/
theorem HoldsLatest.frame {start : ℕ} {calls : List Call} {call : Call} {m m' : HealthMonitor}
    (hholds : HoldsLatest start calls m) (hreading : reading call = none)
    (hlevel : m'.lastBatteryLevel = m.lastBatteryLevel)
    (hlogged : m'.batteryLowEventLogged = m.batteryLowEventLogged) :
    HoldsLatest start (calls ++ [call]) m' := by
  constructor
  · rw [hlevel, hholds.level]
    simp [readings, hreading]
  · rw [hlevel, hlogged]
    intro hlatch hlow
    exact (hholds.logged hlatch hlow).append_singleton (by simp [hreading])

theorem recordsOf_low_handedOver (start : ℕ) (calls : List Call)
    (sysInfo : HealthMonitor.NetworkInfo) (now : ℕ) :
    recordsOf "battery_low_threshold" (handedOver start calls (.tick sysInfo now)) ≠ [] ↔
      (HealthMonitor.after start calls).raisesLow := by
  unfold handedOver
  rw [HealthMonitor.call, HealthMonitor.recordsOf_low_tick]
  simp

theorem HoldsLatest.tick {start : ℕ} {calls : List Call}
    (hholds : HoldsLatest start calls (HealthMonitor.after start calls))
    (sysInfo : HealthMonitor.NetworkInfo) (now : ℕ) :
    HoldsLatest start (calls ++ [.tick sysInfo now])
      ((HealthMonitor.after start calls).tick sysInfo now).1 := by
  have hwritten := recordsOf_low_handedOver start calls sysInfo now
  have hticked := HealthMonitor.ticked_tick sysInfo now (HealthMonitor.after start calls)
  generalize HealthMonitor.after start calls = m at hholds hticked hwritten
  constructor
  · rw [hticked.level, hholds.level]
    simp [readings, reading]
  · rw [hticked.level, hticked.logged]
    intro hnext hlow
    cases hlogged : m.batteryLowEventLogged with
    | false =>
        -- the tick records the low battery itself
        have hraises : m.raisesLow := by
          simpa [HealthMonitor.nextLogged, HealthMonitor.raisesLow, hlogged] using hnext
        exact ⟨calls, sysInfo, now, [], rfl, hwritten.mpr hraises, by simp [readings]⟩
    | true => exact (hholds.logged hlogged hlow).append_singleton (by simp [reading])

theorem HoldsLatest.batteryLevel {start : ℕ} {calls : List Call} {m : HealthMonitor}
    (hholds : HoldsLatest start calls m) {level : ℚ} {now : ℕ} (batteryId powerMode : String)
    (hrecords : m.recordsLevel level now = true ∨ level = m.lastBatteryLevel)
    (hlatch : level < 10 → 10 ≤ m.lastBatteryLevel → m.batteryLowEventLogged = false) :
    HoldsLatest start (calls ++ [.batteryLevel level batteryId powerMode now])
      (m.updateBatteryLevel level batteryId powerMode now).1 := by
  have hlast : (readings (calls ++ [.batteryLevel level batteryId powerMode now])).getLast? =
      some level := by
    simp [readings, reading]
  have hfields : (m.updateBatteryLevel level batteryId powerMode now).1.lastBatteryLevel = level ∧
      (m.updateBatteryLevel level batteryId powerMode now).1.batteryLowEventLogged =
        m.batteryLowEventLogged := by
    unfold HealthMonitor.updateBatteryLevel
    rcases hrecords with hrecords | hsame
    · rw [if_pos hrecords]
      exact ⟨rfl, rfl⟩
    · split
      · exact ⟨rfl, rfl⟩
      · exact ⟨hsame.symm, rfl⟩
  constructor
  · rw [hfields.1, hlast]
    rfl
  · rw [hfields.1, hfields.2]
    intro hlogged hlow
    have hheld : m.lastBatteryLevel < 10 := by
      by_contra hhigh
      rw [hlatch hlow (not_lt.mp hhigh)] at hlogged
      cases hlogged
    exact (hholds.logged hlogged hheld).append_singleton (by simpa [reading] using hlow)

theorem holdsLatest_after {start : ℕ} {calls : List Call}
    (hkept : AllSteps step Kept (Node.construct start) calls) :
    HoldsLatest start calls (HealthMonitor.after start calls) := by
  induction calls using List.reverseRecOn with
  | nil => exact ⟨rfl, nofun⟩
  | append_singleton calls call ih =>
      obtain ⟨hbefore, hcall, -⟩ := AllSteps.append_iff.mp hkept
      have hholds := ih hbefore
      rw [after_append_singleton]
      rcases call_cases (HealthMonitor.after start calls) call with ⟨sysInfo, now, rfl⟩ |
        ⟨seqNum, now, rfl⟩ | ⟨status, now, rfl⟩ | ⟨state, rfl⟩ |
        ⟨level, batteryId, powerMode, now, rfl⟩ | hunrelated
      · exact hholds.tick sysInfo now
      · simp only [HealthMonitor.call, HealthMonitor.updateDeviceHeartbeat]
        split <;> exact hholds.frame rfl rfl rfl
      · simp only [HealthMonitor.call, HealthMonitor.updateWaterPumpState]
        split
        · split <;> exact hholds.frame rfl rfl rfl
        · exact hholds.frame rfl rfl rfl
      · exact hholds.frame rfl rfl rfl
      · exact hholds.batteryLevel batteryId powerMode hcall.1 hcall.2
      · exact hholds.frame hunrelated.reading hunrelated.same.level hunrelated.same.logged

/-! ## Every run -/

/-- **Kept readings decide.**  In every run whose readings are all kept, or equal to the
one that is held, and find the latch open when the battery gets low, every tick
decides on the latest reading. -/
theorem latestDecides_of_kept (start : ℕ) (calls : List Call)
    (hrange : ∀ level ∈ readings calls, 0 ≤ level ∧ level ≤ 100)
    (hkept : AllSteps step Kept (Node.construct start) calls) : LatestDecides start calls := by
  rintro earlier sysInfo now later rfl level hlast
  have hholds := holdsLatest_after (AllSteps.append_iff.mp hkept).1
  have hheld : (HealthMonitor.after start earlier).lastBatteryLevel = level := by
    rw [hholds.level, Option.mem_def.mp hlast]
    rfl
  have hnonneg : 0 ≤ level := by
    apply (hrange level _).1
    rw [readings, List.filterMap_append]
    exact List.mem_append_left _ (List.mem_of_mem_getLast? hlast)
  have hlow : (HealthMonitor.after start earlier).heldLow = true ↔ level < 10 := by
    simp [HealthMonitor.heldLow, hheld, hnonneg, batteryLowThreshold]
  refine ⟨hlow, fun record hrecord => ?_, fun hlevel => ?_⟩
  · rw [handedOver, HealthMonitor.call, HealthMonitor.recordsOf_snapshot_tick] at hrecord
    split at hrecord
    · rw [List.mem_singleton.mp hrecord, ← hheld]
      rfl
    · cases hrecord
  · have hnext := hholds.tick sysInfo now
    have hticked := HealthMonitor.ticked_tick sysInfo now (HealthMonitor.after start earlier)
    refine hnext.logged ?_ ?_
    · rw [hticked.logged, HealthMonitor.nextLogged, hlow.mpr hlevel]
      rfl
    · rw [hticked.level, hheld]
      exact hlevel

/-! ## A run of each kind -/

/-- Two readings, then a tick. -/
def twoReadings (first second : ℚ) : List Call :=
  [.batteryLevel first "default" "unknown" 1000, .batteryLevel second "default" "unknown" 2000,
    .tick ⟨"unknown", "N/A"⟩ 2100]

theorem latestDecides_drop : LatestDecides 0 (twoReadings 11 8) :=
  latestDecides_of_kept 0 (twoReadings 11 8) (by decide +kernel) (by decide +kernel)

/-- A drop from 11 to 9 is not kept: the tick still holds 11. -/
theorem not_latestDecides_small_drop : ¬ LatestDecides 0 (twoReadings 11 9) := by
  intro hdecides
  obtain ⟨hlow, -⟩ := hdecides [.batteryLevel 11 "default" "unknown" 1000,
    .batteryLevel 9 "default" "unknown" 2000] ⟨"unknown", "N/A"⟩ 2100 [] rfl 9 rfl
  exact absurd (hlow.mpr (by decide +kernel)) (by decide +kernel)

end OroEdge.Health
