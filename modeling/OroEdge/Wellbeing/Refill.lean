import OroEdge.Jobs.Device
import OroEdge.Wellbeing.History

/-!
# The low supply alert, from producer to checker

The wellbeing monitor writes `water_refill_required` rows, and `device_health_check`
raises a `low_supply` event if the latest of them is true.  The alert should follow the
last reading of the water level (`FollowsLevel`).

It does not: a level that has risen again is not written, "as per policy", so the latest
row stays true (`not_followsLevel_refilled`).  The alert stands from the first low
reading on (`lowSupply_iff`), whichever of the stored rows the query may return.

The proof has the two halves of the path.  In the monitor only a reading of the level moves the
flag, and it writes a row if the level is low and the one before was not
(`refill_updateWaterLevel`); so the stored rows are all true, and there is one exactly if some
reading was low (`RefillRows`).  In the checker the latest row decides, and with rows that are
all true it does not matter which of them is the latest.

The assumption on the rows from before is that those of this type are true as well; they are
arbitrary otherwise.
-/

namespace OroEdge.Wellbeing

open OroEdge.Lib OroEdge.Jobs DogWellbeingMonitor

/-! ## The property -/

/-- The level that a call tells. -/
def Call.level? : Call → Option ℚ
  | .waterLevel level _ => some level
  | _ => none

/-- The readings of the water level. -/
def levels (calls : List Call) : List ℚ := calls.filterMap Call.level?

/-- A check that follows the calls raises the alert if and only if `raised`, whatever the
queries may return. -/
def AlertsIff (settings : Settings) (stored : List Signal) (calls : List Call) (raised : Prop) :
    Prop :=
  ∀ status now q, Answers ⟨table stored (Node.after settings calls), status⟩ settings.deviceId
    now q → ((deviceHealthCheck settings.deviceId q).Emits "low_supply" ↔ raised)

/-- The alert follows the last reading. -/
def FollowsLevel (settings : Settings) (stored : List Signal) (calls : List Call) : Prop :=
  ∀ last ∈ (levels calls).getLast?, AlertsIff settings stored calls (last < 800)

/-! ## The rows -/

/-- The records of a type. -/
def recordsOf (signalType : String) (records : List SignalRecord) : List SignalRecord :=
  records.filter fun record => decide (record.signalType = signalType)

theorem recordsOf_append (signalType : String) (first second : List SignalRecord) :
    recordsOf signalType (first ++ second) =
      recordsOf signalType first ++ recordsOf signalType second :=
  List.filter_append ..

theorem levels_append_singleton (calls : List Call) (call : Call) :
    levels (calls ++ [call]) = levels calls ++ call.level?.toList := by
  unfold levels
  rw [List.filterMap_append]
  cases call <;> rfl

/-- The two flags of the check of the level. -/
def DogWellbeingMonitor.refillFlags (m : DogWellbeingMonitor) : Bool × Bool :=
  (m.firstRefillCheck, m.lastRefillRequired)

section Step

variable (settings : Settings) (m : DogWellbeingMonitor)

theorem lastRefillRequired_initializeNextMeal (now : ℕ) :
    (initializeNextMeal settings now m).lastRefillRequired = m.lastRefillRequired := by
  unfold initializeNextMeal
  split <;> rfl

/-- Only readings of the level move the flag and write about it. -/
theorem refill_of_not_level {call : Call} (hcall : call.level? = none) :
    (m.call settings call).1.lastRefillRequired = m.lastRefillRequired ∧
      recordsOf "water_refill_required" (m.call settings call).2 = [] := by
  cases call with
  | bowlWeight bowlId weight now =>
      rw [DogWellbeingMonitor.call, updateBowlWeight_fst]
      refine ⟨rfl, List.filter_eq_nil_iff.mpr fun record hrecord htype => ?_⟩
      have htypes := types_updateBowlWeight settings bowlId weight now m record hrecord
      rw [of_decide_eq_true htype] at htypes
      exact absurd htypes (by decide)
  | tick now previousMealsSum =>
      have hverdict : recordsOf "water_refill_required"
          (verdict settings m now previousMealsSum) = [] := by
        unfold verdict
        split <;> rfl
      rw [DogWellbeingMonitor.call]
      rcases tick_cases settings now previousMealsSum m with ⟨-, htick⟩ | ⟨-, htick⟩ |
        ⟨-, htick⟩ | ⟨-, -, -, htick⟩ <;> rw [htick]
      · exact ⟨lastRefillRequired_initializeNextMeal settings m now, rfl⟩
      · exact ⟨rfl, rfl⟩
      · exact ⟨lastRefillRequired_initializeNextMeal settings m now, hverdict⟩
      · exact ⟨rfl, rfl⟩
  | waterLevel level now => cases hcall

variable (level : ℚ) (now : ℕ)

theorem refillFlags_rollWindow (unit : ℤ) :
    (m.rollWindow settings unit now).1.refillFlags = m.refillFlags := by
  unfold rollWindow
  split_ifs <;> rfl

theorem refillFlags_trackPeak : (m.trackPeak level).refillFlags = m.refillFlags := by
  unfold trackPeak
  dsimp only
  split_ifs <;> rfl

theorem refillFlags_addIntake (withinWindow : Bool) :
    (m.addIntake level withinWindow).refillFlags = m.refillFlags := by
  unfold addIntake
  dsimp only
  split_ifs <;> rfl

theorem recordsOf_rollWindow (unit : ℤ) :
    recordsOf "water_refill_required" (m.rollWindow settings unit now).2 = [] := by
  unfold rollWindow
  split_ifs <;> rfl

/-- A reading remembers whether it is low, and writes if it is, unless the one before was
low too. -/
theorem refill_updateWaterLevel :
    (m.updateWaterLevel settings level now).1.lastRefillRequired = decide (level < 800) ∧
      recordsOf "water_refill_required" (m.updateWaterLevel settings level now).2 =
        if level < 800 ∧ (m.firstRefillCheck = true ∨ m.lastRefillRequired = false) then
          [refillRecord settings level now] else [] := by
  have hflags : (((m.rollWindow settings (windowAndUnit settings (seconds now)).2
      now).1.trackPeak level).addIntake level
        (windowAndUnit settings (seconds now)).1).refillFlags = m.refillFlags := by
    rw [refillFlags_addIntake, refillFlags_trackPeak, refillFlags_rollWindow]
  unfold updateWaterLevel
  dsimp only
  rw [recordsOf_append, recordsOf_rollWindow, List.nil_append]
  generalize ((m.rollWindow settings (windowAndUnit settings (seconds now)).2 now).1.trackPeak
    level).addIntake level (windowAndUnit settings (seconds now)).1 = before at hflags ⊢
  obtain ⟨hfirst, hlast⟩ := Prod.mk.inj hflags
  unfold checkRefill
  dsimp only
  rw [← hlast, ← hfirst]
  cases before.firstRefillCheck <;> cases hrequired : before.lastRefillRequired <;>
    by_cases hlow : level < 800 <;> simp [hlow, hrequired, recordsOf, refillRecord]

end Step

/-! ## Every run -/

/-- The stored alerts say that some reading was low, and no more than that. -/
structure RefillRows (settings : Settings) (calls : List Call) (node : Node) : Prop where
  flag : node.monitor.lastRefillRequired = true → ∃ level ∈ levels calls, level < 800
  written : recordsOf "water_refill_required" node.emitted ≠ [] ↔
    ∃ level ∈ levels calls, level < 800
  row : ∀ record ∈ recordsOf "water_refill_required" node.emitted,
    record.deviceId = settings.deviceId ∧ record.signalValueBoolean = some true

section

variable {settings : Settings} {calls : List Call} {node : Node}

/-- Other calls change nothing about the tank. -/
theorem RefillRows.step_of_not_level (hrows : RefillRows settings calls node) {call : Call}
    (hcall : call.level? = none) :
    RefillRows settings (calls ++ [call]) (step settings node call) := by
  obtain ⟨hflag, hnone⟩ := refill_of_not_level settings node.monitor hcall
  have hlevels : levels (calls ++ [call]) = levels calls := by
    rw [levels_append_singleton, hcall]
    exact List.append_nil _
  have hrecords : recordsOf "water_refill_required" (step settings node call).emitted =
      recordsOf "water_refill_required" node.emitted := by
    show recordsOf _ (node.emitted ++ _) = _
    rw [recordsOf_append, hnone, List.append_nil]
  constructor
  · rw [hlevels]
    show (node.monitor.call settings call).1.lastRefillRequired = true → _
    rw [hflag]
    exact hrows.flag
  · rw [hlevels, hrecords]
    exact hrows.written
  · rw [hrecords]
    exact hrows.row

theorem RefillRows.step_waterLevel (hrows : RefillRows settings calls node) (level : ℚ) (now : ℕ) :
    RefillRows settings (calls ++ [.waterLevel level now])
      (step settings node (.waterLevel level now)) := by
  obtain ⟨hflag, hnew⟩ := refill_updateWaterLevel settings node.monitor level now
  have hlevels : levels (calls ++ [.waterLevel level now]) = levels calls ++ [level] :=
    levels_append_singleton calls (.waterLevel level now)
  have hrecords : recordsOf "water_refill_required"
      (step settings node (.waterLevel level now)).emitted =
        recordsOf "water_refill_required" node.emitted ++
          if level < 800 ∧ (node.monitor.firstRefillCheck = true ∨
            node.monitor.lastRefillRequired = false) then
            [refillRecord settings level now] else [] := by
    rw [← hnew]
    exact recordsOf_append ..
  constructor
  · rw [hlevels]
    show (node.monitor.updateWaterLevel settings level now).1.lastRefillRequired = true → _
    rw [hflag]
    intro hlow
    exact ⟨level, by simp, of_decide_eq_true hlow⟩
  · rw [hlevels, hrecords]
    by_cases hlow : level < 800
    · -- a low level is written, unless the one before was low as well
      refine iff_of_true ?_ ⟨level, by simp, hlow⟩
      by_cases hquiet : node.monitor.firstRefillCheck = true ∨
          node.monitor.lastRefillRequired = false
      · rw [if_pos ⟨hlow, hquiet⟩]
        simp
      · obtain ⟨-, hlast⟩ := not_or.mp hquiet
        rw [if_neg fun h => hquiet h.2, List.append_nil]
        exact hrows.written.mpr (hrows.flag (Bool.of_not_eq_false hlast))
    · rw [if_neg fun h => hlow h.1, List.append_nil, hrows.written]
      simp [or_and_right, exists_or, hlow]
  · rw [hrecords]
    intro record hrecord
    rcases List.mem_append.mp hrecord with hearlier | hrefill
    · exact hrows.row record hearlier
    · rw [List.mem_ite_nil_right, List.mem_singleton] at hrefill
      rw [hrefill.2]
      exact ⟨rfl, rfl⟩

end

theorem refillRows_after (settings : Settings) (calls : List Call) :
    RefillRows settings calls (Node.after settings calls) := by
  induction calls using List.reverseRecOn with
  | nil =>
      exact ⟨by simp [Node.after, Node.construct, construct],
        by simp [Node.after, Node.construct, levels, recordsOf],
        by simp [Node.after, Node.construct, recordsOf]⟩
  | append_singleton calls call ih =>
      rw [after_append_singleton]
      cases call with
      | bowlWeight bowlId weight now => exact ih.step_of_not_level rfl
      | tick now previousMealsSum => exact ih.step_of_not_level rfl
      | waterLevel level now => exact ih.step_waterLevel level now

/-- The rows of the query are those that were stored, and those of the monitor. -/
theorem signalsOf_table (settings : Settings) (stored : List Signal) (calls : List Call) :
    signalsOf settings.deviceId "water_refill_required" (table stored (Node.after settings calls)) =
      signalsOf settings.deviceId "water_refill_required" stored ++
        (recordsOf "water_refill_required" (Node.after settings calls).emitted).map emitSignal := by
  have hrow := (refillRows_after settings calls).row
  unfold table signalsOf
  rw [List.filter_append, List.filter_map]
  congr 2
  apply List.filter_congr
  intro record hrecord
  by_cases htype : record.signalType = "water_refill_required"
  · have hdevice := (hrow record (List.mem_filter.mpr ⟨hrecord, by simpa using htype⟩)).1
    simp [emitSignal, htype, hdevice]
  · simp [emitSignal, htype]

/-- **The low supply alert, exactly.**  If every `water_refill_required` row of the device
that was stored before is true, a check raises the alert if and only if there was such a row
or some reading of the level has been below 800 ml. -/
theorem lowSupply_iff (settings : Settings) (stored : List Signal) (calls : List Call)
    (hdevice : settings.deviceId ≠ "")
    (hstored : ∀ row ∈ signalsOf settings.deviceId "water_refill_required" stored,
      row.valueBoolean = some true) :
    AlertsIff settings stored calls
      (signalsOf settings.deviceId "water_refill_required" stored ≠ [] ∨
        ∃ level ∈ levels calls, level < 800) := by
  intro status now q hanswers
  obtain ⟨-, hwritten, hrow⟩ := refillRows_after settings calls
  obtain ⟨answer, hlatest, hrefill⟩ := hanswers.waterRefill
  rw [emits_lowSupply_iff hdevice, hrefill, ← hwritten]
  dsimp only at hlatest
  rw [signalsOf_table] at hlatest
  generalize signalsOf settings.deviceId "water_refill_required" stored = earlier
    at hstored hlatest ⊢
  generalize recordsOf "water_refill_required" (Node.after settings calls).emitted = records
    at hrow hlatest ⊢
  rcases hlatest with ⟨hnil, rfl⟩ | ⟨row, ⟨hmem, -⟩, rfl⟩
  · obtain ⟨rfl, hmap⟩ := List.append_eq_nil_iff.mp hnil
    obtain rfl := List.map_eq_nil_iff.mp hmap
    simp
  · -- whichever row comes last, it is true
    have htrue : row.valueBoolean = some true := by
      rcases List.mem_append.mp hmem with hearlier | hnew
      · exact hstored row hearlier
      · obtain ⟨record, hrecord, rfl⟩ := List.mem_map.mp hnew
        exact (hrow record hrecord).2
    have hsome : earlier ≠ [] ∨ records ≠ [] := by
      by_contra hnone
      obtain ⟨hearlier, hrecords⟩ := not_or.mp hnone
      rw [not_not.mp hearlier, not_not.mp hrecords] at hmem
      cases hmem
    simp [htrue, hsome]

/-! ### A tank that is filled up again -/

def tankOnly : Settings where
  deviceId := "dev"
  dogId := "dog"
  mealSchedules := []
  aggregationWindow := "24h"
  clock := .fixed 0
  startLocals := ⟨0, 0, 0⟩
  endLocals := ⟨0, 0, 0⟩

/-- The tank is low, and then it is not. -/
def refilled : List Call := [.waterLevel 700 1000, .waterLevel 900 2000]

theorem lowSupply_refilled : AlertsIff tankOnly [] refilled
    (signalsOf "dev" "water_refill_required" [] ≠ [] ∨ ∃ level ∈ levels refilled, level < 800) :=
  lowSupply_iff tankOnly [] refilled (by decide) (by simp [signalsOf])

/-- What a check is told after the refill. -/
def answersRefilled : DeviceAnswers where
  timeoutThreshold := 15
  freshnessMinutes signalType := freshness 3000000 (signalsOf "dev" signalType
    (table [] (Node.after tankOnly refilled)))
  batteryLowThreshold := 20
  battery := 0
  waterRefill := 1
  status := ""

theorem answers_refilled : Answers ⟨table [] (Node.after tankOnly refilled), none⟩ "dev"
    (fun _ => 3000000) answersRefilled where
  timeoutThreshold := ⟨none, Or.inl ⟨by decide +kernel, rfl⟩, rfl⟩
  freshnessMinutes := fun _ => rfl
  batteryLowThreshold := ⟨none, Or.inl ⟨by decide +kernel, rfl⟩, rfl⟩
  battery := ⟨none, Or.inl ⟨by decide +kernel, rfl⟩, rfl⟩
  waterRefill := ⟨some true, Or.inr
    ⟨⟨"dev", some 129, "water_refill_required", none, none, some true, 1000000⟩,
      ⟨by decide +kernel, by decide +kernel⟩, rfl⟩, rfl⟩
  status := rfl

theorem not_followsLevel_refilled : ¬ FollowsLevel tankOnly [] refilled := by
  intro hfollows
  have hiff := hfollows 900 rfl none _ _ answers_refilled
  rw [emits_lowSupply_iff (by decide)] at hiff
  exact absurd (hiff.mp rfl) (by decide +kernel)

end OroEdge.Wellbeing
