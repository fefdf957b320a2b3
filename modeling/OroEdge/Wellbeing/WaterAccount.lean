import OroEdge.Lib.Changes
import OroEdge.Lib.Gregorian
import OroEdge.Lib.Meter
import OroEdge.Wellbeing.History

/-!
# The account of the water tank

The fields that `update_water_level` keeps of the tank are a meter (`meter_updateWaterLevel`)
with a threshold of 15 ml.  The meter is emptied when the unit of the aggregation window
changes.  So at any time it is the meter that has been shown the readings of the current
window, and nothing else (`accounts_after`).

A meter is the library's: it is shown readings, counts falls below the peak that it has seen,
and takes a rise beyond the threshold for a refill.  Here the fields of the monitor are read as
one, each part of `update_water_level` is what it does to the meter (`meter_trackPeak`,
`meter_addIntake`), and the change of a unit puts a new one in its place (`meter_rollWindow`).

A reading outside of the configured window of the day is shown as such, since it moves the peak
without being counted.  So the run is a list of readings with a mark, cut where the unit changes
(`Accounts.currentWindow_append`).
-/

namespace OroEdge.Wellbeing

open OroEdge.Lib DogWellbeingMonitor

/-! ## Readings -/

/-- A reading of the tank: the level and the time. -/
abbrev TankReading := ℚ × ℕ

/-- The level that a call tells, with its time. -/
def Call.tankReading? : Call → Option TankReading
  | .waterLevel level now => some (level, now)
  | _ => none

def tankReadings (calls : List Call) : List TankReading := calls.filterMap Call.tankReading?

section

variable (settings : Settings)

/-- The unit of a reading: the number of its day, hour or minute. -/
def unitOf (r : TankReading) : ℤ := (windowAndUnit settings (seconds r.2)).2

/-- Whether a reading is within the window. -/
def withinWindow (r : TankReading) : Bool := (windowAndUnit settings (seconds r.2)).1

/-- The readings since the unit has changed last. -/
def currentWindow (calls : List Call) : List TankReading :=
  sinceChange (unitOf settings) (tankReadings calls)

/-- The readings as a meter is shown them. -/
def shown (readings : List TankReading) : List (ℚ × Bool) :=
  readings.map fun r => (r.1, withinWindow settings r)

end

theorem tankReadings_append_singleton (calls : List Call) (call : Call) :
    tankReadings (calls ++ [call]) = tankReadings calls ++ call.tankReading?.toList := by
  unfold tankReadings
  rw [List.filterMap_append]
  cases call <;> rfl

/-- A unit is not the number that stands for no reading. -/
theorem unitOf_ne (settings : Settings) (r : TankReading) : unitOf settings r ≠ -1 := by
  have hday := dayOfYear_nonneg (settings.clock.day (seconds r.2))
  have hsecond : 0 ≤ settings.clock.secondOfDay (seconds r.2) := Int.emod_nonneg _ (by decide)
  unfold unitOf windowAndUnit
  dsimp only
  split_ifs <;> dsimp only <;> omega

/-! ## The meter -/

namespace DogWellbeingMonitor

/-- The account of the tank. -/
def meter (m : DogWellbeingMonitor) : Meter ℚ where
  peak := m.maxWaterLevel
  last := m.lastWaterLevel
  carried := m.runningRefillAccumulatedIntake
  total := m.dailyWaterIntake

section

variable (settings : Settings) (m : DogWellbeingMonitor) (level : ℚ) (now : ℕ)

theorem meter_trackPeak :
    (m.trackPeak level).meter = (m.meter.start level).track 15 level := by
  unfold trackPeak Meter.start Meter.track meter
  dsimp only
  split_ifs <;> rfl

theorem meter_addIntake (counts : Bool) :
    (m.addIntake level counts).meter = m.meter.count level counts := by
  unfold addIntake Meter.count meter
  dsimp only
  split_ifs <;> rfl

theorem meter_checkRefill : (m.checkRefill settings level now).1.meter = m.meter ∧
    (m.checkRefill settings level now).1.lastWaterDayYday = m.lastWaterDayYday := by
  unfold checkRefill
  dsimp only
  split_ifs <;> exact ⟨rfl, rfl⟩

theorem lastWaterDayYday_trackPeak :
    (m.trackPeak level).lastWaterDayYday = m.lastWaterDayYday := by
  unfold trackPeak
  dsimp only
  split_ifs <;> rfl

theorem lastWaterDayYday_addIntake (counts : Bool) :
    (m.addIntake level counts).lastWaterDayYday = m.lastWaterDayYday := by
  unfold addIntake
  dsimp only
  split_ifs <;> rfl

/-- The unit of the reading is another one than that of the reading before. -/
def Resets (r : TankReading) : Prop :=
  m.lastWaterDayYday ≠ -1 ∧ unitOf settings r ≠ m.lastWaterDayYday

instance (r : TankReading) : Decidable (Resets settings m r) :=
  inferInstanceAs (Decidable (_ ∧ _))

/-- The end of a window empties the meter. -/
theorem meter_rollWindow (r : TankReading) :
    (m.rollWindow settings (unitOf settings r) now).1.meter =
        (if Resets settings m r then Meter.empty else m.meter) ∧
      (m.rollWindow settings (unitOf settings r) now).1.lastWaterDayYday = unitOf settings r := by
  unfold rollWindow
  by_cases hfirst : m.lastWaterDayYday = -1
  · have hnot : ¬ Resets settings m r := fun hresets => hresets.1 hfirst
    rw [if_pos hfirst, if_neg hnot]
    exact ⟨rfl, rfl⟩
  rw [if_neg hfirst]
  by_cases hunit : unitOf settings r = m.lastWaterDayYday
  · have hnot : ¬ Resets settings m r := fun hresets => hresets.2 hunit
    rw [if_neg (not_not.mpr hunit), if_neg hnot]
    exact ⟨rfl, hunit.symm⟩
  · have hresets : Resets settings m r := ⟨hfirst, hunit⟩
    rw [if_pos hunit, if_pos hresets]
    exact ⟨rfl, rfl⟩

/-- A reading is shown to the meter, or to a new one. -/
theorem meter_updateWaterLevel : (m.updateWaterLevel settings level now).1.meter =
      (if Resets settings m (level, now) then Meter.empty else m.meter).read 15
        (level, withinWindow settings (level, now)) ∧
    (m.updateWaterLevel settings level now).1.lastWaterDayYday = unitOf settings (level, now) := by
  obtain ⟨hmeter, hunit⟩ := meter_rollWindow settings m now (level, now)
  have hchecked := meter_checkRefill settings
    (((m.rollWindow settings (unitOf settings (level, now)) now).1.trackPeak level).addIntake level
      (withinWindow settings (level, now))) level now
  rw [meter_addIntake, meter_trackPeak, hmeter, lastWaterDayYday_addIntake,
    lastWaterDayYday_trackPeak, hunit] at hchecked
  refine ⟨?_, hchecked.2⟩
  unfold Meter.read
  rw [← hchecked.1]
  rfl

/-- Other calls do not touch the account. -/
theorem meter_of_not_tankReading {call : Call} (hcall : call.tankReading? = none) :
    (m.call settings call).1.meter = m.meter ∧
      (m.call settings call).1.lastWaterDayYday = m.lastWaterDayYday := by
  cases call with
  | bowlWeight bowlId weight now =>
      rw [DogWellbeingMonitor.call, updateBowlWeight_fst]
      exact ⟨rfl, rfl⟩
  | tick now previousMealsSum =>
      have hnext : (initializeNextMeal settings now m).meter = m.meter ∧
          (initializeNextMeal settings now m).lastWaterDayYday = m.lastWaterDayYday := by
        unfold initializeNextMeal
        split <;> exact ⟨rfl, rfl⟩
      rw [DogWellbeingMonitor.call]
      rcases tick_cases settings now previousMealsSum m with ⟨-, htick⟩ | ⟨-, htick⟩ |
        ⟨-, htick⟩ | ⟨-, -, -, htick⟩ <;> rw [htick]
      · exact hnext
      · exact ⟨rfl, rfl⟩
      · exact hnext
      · exact ⟨rfl, rfl⟩
  | waterLevel level now => cases hcall

end

end DogWellbeingMonitor

/-! ## Every run -/

section

variable (settings : Settings) (calls : List Call)

/-- The account knows the unit of the last reading, and the readings with that unit. -/
structure Accounts (m : DogWellbeingMonitor) : Prop where
  unit : m.lastWaterDayYday = ((tankReadings calls).getLast?.map (unitOf settings)).getD (-1)
  meter : m.meter = Meter.after 15 (shown settings (currentWindow settings calls))

variable {settings calls} {m : DogWellbeingMonitor}

theorem Accounts.resets_iff (haccounts : Accounts settings calls m) (r : TankReading) :
    Resets settings m r ↔ ∃ last ∈ (tankReadings calls).getLast?,
      unitOf settings last ≠ unitOf settings r := by
  unfold Resets
  rw [haccounts.unit]
  cases (tankReadings calls).getLast? with
  | none => simp
  | some last =>
      simp only [Option.map_some, Option.getD_some, Option.mem_some_iff, exists_eq_left']
      exact ⟨fun hresets => Ne.symm hresets.2, fun hne => ⟨unitOf_ne settings last, hne.symm⟩⟩

/-- A reading begins a window, or belongs to the one of the reading before. -/
theorem Accounts.currentWindow_append (haccounts : Accounts settings calls m) (level : ℚ)
    (now : ℕ) : currentWindow settings (calls ++ [.waterLevel level now]) =
      (if Resets settings m (level, now) then [] else currentWindow settings calls) ++
        [(level, now)] := by
  have hreadings : tankReadings (calls ++ [.waterLevel level now]) =
      tankReadings calls ++ [(level, now)] :=
    tankReadings_append_singleton calls (.waterLevel level now)
  have hresets := haccounts.resets_iff (level, now)
  unfold currentWindow
  rw [hreadings, sinceChange_append_singleton]
  congr 1
  cases hlast : (tankReadings calls).getLast? with
  | none =>
      have hnil : tankReadings calls = [] := List.getLast?_eq_none_iff.mp hlast
      simp [hnil]
  | some last =>
      rw [hlast] at hresets
      by_cases hsame : unitOf settings last = unitOf settings (level, now)
      · have hnot : ¬ Resets settings m (level, now) := by
          rw [hresets]
          simpa using hsame
        rw [if_neg hnot, Option.map_some, if_pos (congrArg some hsame)]
      · have hreset : Resets settings m (level, now) := by
          rw [hresets]
          simpa using hsame
        rw [if_pos hreset, Option.map_some, if_neg (by simpa using hsame)]

end

/-- The account is that of the current window. -/
theorem accounts_after (settings : Settings) (calls : List Call) :
    Accounts settings calls (Node.after settings calls).monitor := by
  induction calls using List.reverseRecOn with
  | nil => exact ⟨rfl, rfl⟩
  | append_singleton calls call ih =>
      rw [after_append_singleton, step]
      dsimp only
      generalize (Node.after settings calls).monitor = m at ih ⊢
      have hother : call.tankReading? = none →
          Accounts settings (calls ++ [call]) (m.call settings call).1 := by
        intro hcall
        have hreadings : tankReadings (calls ++ [call]) = tankReadings calls := by
          rw [tankReadings_append_singleton, hcall]
          exact List.append_nil _
        obtain ⟨hmeter, hunit⟩ := meter_of_not_tankReading settings m hcall
        constructor
        · rw [hunit, hreadings]
          exact ih.unit
        · rw [hmeter, currentWindow, hreadings]
          exact ih.meter
      cases call with
      | bowlWeight bowlId weight now => exact hother rfl
      | tick now previousMealsSum => exact hother rfl
      | waterLevel level now =>
          obtain ⟨hmeter, hunit⟩ := meter_updateWaterLevel settings m level now
          rw [DogWellbeingMonitor.call]
          constructor
          · rw [hunit, tankReadings_append_singleton, Call.tankReading?, Option.toList_some,
              List.getLast?_concat]
            rfl
          · rw [hmeter, ih.currentWindow_append, shown, List.map_append, List.map_singleton,
              Meter.after_append_singleton]
            congr 1
            split_ifs
            · rfl
            · exact ih.meter

end OroEdge.Wellbeing
