import OroEdge.Wellbeing.Refill
import OroEdge.Wellbeing.WaterAccount

/-!
# The water intake

The monitor reconstructs what the dog drinks from the readings of the level.

It never counts more than the level has fallen in the window, and does not take back what it
has counted before the window ends (`noPhantomIntake`).

It should count all of that where every rise of the level is a refill of more than 15 ml
(`CountsAllFalls`).  But a refill is recognised by the peak, and not by the reading before: a
tank that is filled up to less than the peak of the window, or little above, looks as if the
dog had given back what it drank.  So all falls are counted exactly as long as the dog does not
drink after such a refill (`countsAllFalls_iff`).

Both statements are about the meter of the current window (`intake_eq`) and are taken from the
library, the bound for any readings and the exact condition for readings that fall and are
refilled.  What is left is to say them of the monitor: that the readings shown to the meter are
the levels since the window was reset (`levels_shown`), and that readings which all count are
shown with their marks set.
-/

namespace OroEdge.Wellbeing

open OroEdge.Lib DogWellbeingMonitor

/-! ## Phantom intake -/

/-- `daily_water_intake_` after the calls. -/
def intake (settings : Settings) (calls : List Call) : ℚ :=
  (Node.after settings calls).monitor.dailyWaterIntake

/-- The levels since the window was reset. -/
def windowLevels (settings : Settings) (calls : List Call) : List ℚ :=
  (currentWindow settings calls).map Prod.fst

theorem intake_eq (settings : Settings) (calls : List Call) : intake settings calls =
    (Meter.after 15 (shown settings (currentWindow settings calls))).total :=
  congrArg Meter.total (accounts_after settings calls).meter

theorem levels_shown (settings : Settings) (readings : List TankReading) :
    (shown settings readings).map Prod.fst = readings.map Prod.fst := by
  rw [shown, List.map_map]
  rfl

/-- **No phantom intake.**  The intake is at most the sum of the falls of the level since the
window was reset, and no call lowers it that does not reset the window. -/
theorem noPhantomIntake (settings : Settings) (calls : List Call) :
    intake settings calls ≤ drops (windowLevels settings calls) ∧
      ∀ call, (∀ r, call.tankReading? = some r →
          ¬ Resets settings (Node.after settings calls).monitor r) →
        intake settings calls ≤ intake settings (calls ++ [call]) := by
  constructor
  · rw [intake_eq, windowLevels, ← levels_shown settings]
    exact Meter.total_le_drops (by decide) _
  · intro call hresets
    unfold intake
    rw [after_append_singleton, step]
    dsimp only
    generalize (Node.after settings calls).monitor = m at hresets ⊢
    show m.meter.total ≤ (m.call settings call).1.meter.total
    cases hcall : call.tankReading? with
    | none => rw [(meter_of_not_tankReading settings m hcall).1]
    | some r =>
        cases call with
        | waterLevel level now =>
            have hnot := hresets (level, now) rfl
            rw [DogWellbeingMonitor.call, (meter_updateWaterLevel settings m level now).1,
              if_neg hnot]
            exact Meter.total_le_read ..
        | bowlWeight bowlId weight now => cases hcall
        | tick now previousMealsSum => cases hcall

/-! ## Refills -/

/-- The readings of the current window all count, and the level is never negative; it falls
at every step, or rises by more than 15 ml. -/
structure DrinksAndRefills (settings : Settings) (calls : List Call) : Prop where
  within : ∀ r ∈ currentWindow settings calls, withinWindow settings r = true
  nonneg : ∀ level ∈ windowLevels settings calls, 0 ≤ level
  steps : FallsOrRefills 15 (windowLevels settings calls)

/-- The intake is the sum of the falls. -/
def CountsAllFalls (settings : Settings) (calls : List Call) : Prop :=
  intake settings calls = drops (windowLevels settings calls)

/-- The dog does not drink after a refill to at most 15 ml above an earlier level of the
window. -/
def NoneDrunkAfterLowRefill (settings : Settings) (calls : List Call) : Prop :=
  NoneDrawnAfter 15 (windowLevels settings calls)

/-- **Intake over refills, exactly.** -/
theorem countsAllFalls_iff {settings : Settings} {calls : List Call}
    (hlevels : DrinksAndRefills settings calls) :
    CountsAllFalls settings calls ↔ NoneDrunkAfterLowRefill settings calls := by
  have hshown : shown settings (currentWindow settings calls) =
      (windowLevels settings calls).map fun level => (level, true) := by
    rw [shown, windowLevels, List.map_map]
    refine List.map_congr_left fun r hr => ?_
    rw [Function.comp_apply, hlevels.within r hr]
  unfold CountsAllFalls NoneDrunkAfterLowRefill
  rw [intake_eq, hshown]
  exact Meter.total_eq_drops_iff (by decide) hlevels.nonneg hlevels.steps

/-! ### A tank that is not filled up -/

/-- The dog drinks half a litre, and again after a refill of 300 ml. -/
def lowRefill : List Call :=
  [.waterLevel 1000 100000, .waterLevel 500 200000, .waterLevel 800 300000,
    .waterLevel 300 400000]

/-- The same with a refill to the top. -/
def fullRefill : List Call :=
  [.waterLevel 1000 100000, .waterLevel 500 200000, .waterLevel 1100 300000,
    .waterLevel 600 400000]

theorem drinksAndRefills_fullRefill : DrinksAndRefills tankOnly fullRefill where
  within := by decide +kernel
  nonneg := by decide +kernel
  steps := by
    have hlevels : windowLevels tankOnly fullRefill = [1000, 500, 1100, 600] := by decide +kernel
    rw [hlevels]
    unfold FallsOrRefills
    decide +kernel

theorem countsAllFalls_fullRefill : CountsAllFalls tankOnly fullRefill ↔
    NoneDrunkAfterLowRefill tankOnly fullRefill :=
  countsAllFalls_iff drinksAndRefills_fullRefill

/-- **Failing input.**  The dog has drunk a litre, and 700 ml are counted. -/
theorem not_countsAllFalls_lowRefill : DrinksAndRefills tankOnly lowRefill ∧
    ¬ CountsAllFalls tankOnly lowRefill ∧ intake tankOnly lowRefill = 700 ∧
      drops (windowLevels tankOnly lowRefill) = 1000 := by
  have hlevels : windowLevels tankOnly lowRefill = [1000, 500, 800, 300] := by decide +kernel
  have hintake : intake tankOnly lowRefill = 700 := by decide +kernel
  have hdrops : drops (windowLevels tankOnly lowRefill) = 1000 := by decide +kernel
  refine ⟨⟨by decide +kernel, by decide +kernel, ?_⟩, ?_, hintake, hdrops⟩
  · rw [hlevels]
    unfold FallsOrRefills
    decide +kernel
  · unfold CountsAllFalls
    rw [hintake, hdrops]
    decide +kernel

end OroEdge.Wellbeing
