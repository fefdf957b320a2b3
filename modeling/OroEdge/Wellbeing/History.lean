import Mathlib.Data.List.Induction
import OroEdge.Wellbeing.Monitor

/-!
# Histories of the wellbeing monitor

`Node.after` is the monitor that a list of calls leaves, with all the records so far;
`handedOver` what the next call hands over.  Only ticks move the meal that is followed,
and only they write records about it (`sameMeal_of_not_tick`); only readings of a bowl
move its weight (`currentWeight_after`).

The calls are of three sorts, a reading of a bowl, a reading of the tank and a tick, and each
moves its own part of the monitor.  What the other modules need is put in this form:
`sameMeal_of_not_tick` says that the first two change no field of the meal and write no record
about it, and `tick_cases` what the third does, as four cases with their guards.  A property
about meals is proved from these two, without unfolding an operation.

The rows of a table are those from before and those of the run, in this order.  Rows from before
are arbitrary unless a property says what they may not be.
-/

namespace OroEdge.Wellbeing

open OroEdge.Lib DogWellbeingMonitor

/-- The node after these calls, from its construction. -/
def Node.after (settings : Settings) (calls : List Call) : Node :=
  run (step settings) Node.construct calls

/-- What a call hands over after the `earlier` ones. -/
def handedOver (settings : Settings) (earlier : List Call) (call : Call) : List SignalRecord :=
  ((Node.after settings earlier).monitor.call settings call).2

/-- The signal table: rows from before, then those of the monitor. -/
def table (stored : List Signal) (node : Node) : List Signal :=
  stored ++ node.emitted.map emitSignal

/-- The time of a tick. -/
def Call.tickTime? : Call → Option ℕ
  | .tick now _ => some now
  | _ => none

def ticks (calls : List Call) : List ℕ := calls.filterMap Call.tickTime?

theorem after_append_singleton (settings : Settings) (calls : List Call) (call : Call) :
    Node.after settings (calls ++ [call]) = step settings (Node.after settings calls) call := by
  unfold Node.after
  rw [run_append]
  rfl

theorem ticks_append_singleton (calls : List Call) (call : Call) :
    ticks (calls ++ [call]) = ticks calls ++ call.tickTime?.toList := by
  unfold ticks
  rw [List.filterMap_append]
  cases call <;> rfl

/-! ## What a call leaves alone -/

/-- The monitor without the account of the water tank. -/
def DogWellbeingMonitor.dry (m : DogWellbeingMonitor) : DogWellbeingMonitor :=
  { m with
    lastWaterLevel := 0
    dailyWaterIntake := 0
    maxWaterLevel := 0
    runningRefillAccumulatedIntake := 0
    lastWaterDayYday := 0
    lastRefillRequired := false
    firstRefillCheck := false }

/-- The types of the records about meals. -/
def mealTypes : List String := ["food_intake_per_meal", "food_intake_per_day", "meal_skipped"]

section Water

variable (settings : Settings) (m : DogWellbeingMonitor) (level : ℚ) (now : ℕ)

theorem dry_rollWindow (unit : ℤ) : (m.rollWindow settings unit now).1.dry = m.dry := by
  unfold rollWindow
  split_ifs <;> rfl

theorem dry_trackPeak : (m.trackPeak level).dry = m.dry := by
  unfold trackPeak
  dsimp only
  split_ifs <;> rfl

theorem dry_addIntake (withinWindow : Bool) : (m.addIntake level withinWindow).dry = m.dry := by
  unfold addIntake
  dsimp only
  split_ifs <;> rfl

theorem dry_checkRefill : (m.checkRefill settings level now).1.dry = m.dry := by
  unfold checkRefill
  dsimp only
  split_ifs <;> rfl

theorem dry_updateWaterLevel : (m.updateWaterLevel settings level now).1.dry = m.dry := by
  unfold updateWaterLevel
  dsimp only
  refine Eq.trans ?_ (dry_rollWindow settings m now (windowAndUnit settings (seconds now)).2)
  refine Eq.trans ?_ (dry_trackPeak _ level)
  refine Eq.trans ?_ (dry_addIntake _ level (windowAndUnit settings (seconds now)).1)
  exact dry_checkRefill settings _ level now

theorem types_updateWaterLevel : ∀ record ∈ (m.updateWaterLevel settings level now).2,
    record.signalType ∈ ["water_intake_per_day", "water_refill_required"] := by
  intro record hrecord
  unfold updateWaterLevel at hrecord
  dsimp only at hrecord
  rcases List.mem_append.mp hrecord with hrolled | hrefill
  · unfold rollWindow at hrolled
    split_ifs at hrolled <;> simp_all [waterIntakeRecord]
  · unfold checkRefill at hrefill
    dsimp only at hrefill
    split_ifs at hrefill <;> simp_all [refillRecord]

end Water

/-- The fields of the meal are the same. -/
structure SameMeal (m m' : DogWellbeingMonitor) : Prop where
  state : m'.monitorState = m.monitorState
  sched : m'.activeSched = m.activeSched
  startMs : m'.activeMealStartMs = m.activeMealStartMs
  endMs : m'.activeMealEndMs = m.activeMealEndMs
  initialWeight : m'.initialWeightAtStart = m.initialWeightAtStart

theorem SameMeal.of_dry {m m' : DogWellbeingMonitor} (hdry : m'.dry = m.dry) : SameMeal m m' where
  state := (congrArg monitorState hdry :)
  sched := (congrArg activeSched hdry :)
  startMs := (congrArg activeMealStartMs hdry :)
  endMs := (congrArg activeMealEndMs hdry :)
  initialWeight := (congrArg initialWeightAtStart hdry :)

theorem updateBowlWeight_fst (settings : Settings) (bowlId : String) (weight : ℚ) (now : ℕ)
    (m : DogWellbeingMonitor) : (m.updateBowlWeight settings bowlId weight now).1 =
      m.track bowlId weight := by
  unfold updateBowlWeight
  dsimp only
  split_ifs <;> rfl

theorem types_updateBowlWeight (settings : Settings) (bowlId : String) (weight : ℚ) (now : ℕ)
    (m : DogWellbeingMonitor) : ∀ record ∈ (m.updateBowlWeight settings bowlId weight now).2,
      record.signalType ∈ ["served_food_quantity", "food_served_confirmation"] := by
  intro record hrecord
  unfold updateBowlWeight at hrecord
  dsimp only at hrecord
  split_ifs at hrecord <;> simp_all [servedFoodRecord, servedConfirmationRecord]
  rcases hrecord with rfl | rfl <;> simp

/-- Only ticks move the meal, and write about it. -/
theorem sameMeal_of_not_tick (settings : Settings) (m : DogWellbeingMonitor) {call : Call}
    (htick : call.tickTime? = none) : SameMeal m (m.call settings call).1 ∧
      ∀ record ∈ (m.call settings call).2, record.signalType ∉ mealTypes := by
  cases call with
  | bowlWeight bowlId weight now =>
      rw [DogWellbeingMonitor.call]
      constructor
      · rw [updateBowlWeight_fst]
        exact ⟨rfl, rfl, rfl, rfl, rfl⟩
      · intro record hrecord hmeal
        have htype := types_updateBowlWeight settings bowlId weight now m record hrecord
        simp only [List.mem_cons, List.not_mem_nil, or_false] at htype
        rcases htype with htype | htype
        all_goals
          rw [htype] at hmeal
          exact absurd hmeal (by decide)
  | tick now previousMealsSum => cases htick
  | waterLevel level now =>
      rw [DogWellbeingMonitor.call]
      refine ⟨SameMeal.of_dry (dry_updateWaterLevel settings m level now), ?_⟩
      intro record hrecord hmeal
      have htype := types_updateWaterLevel settings m level now record hrecord
      simp only [List.mem_cons, List.not_mem_nil, or_false] at htype
      rcases htype with htype | htype
      all_goals
        rw [htype] at hmeal
        exact absurd hmeal (by decide)

/-! ## What a tick does -/

/-- A tick at `now` starts the recording of the meal. -/
def DogWellbeingMonitor.Starts (m : DogWellbeingMonitor) (now : ℕ) : Prop :=
  m.activeMealStartMs ≠ 0 ∧ m.monitorState = .waiting ∧ m.activeMealStartMs ≤ now

/-- A tick at `now` ends the meal. -/
def DogWellbeingMonitor.Ends (m : DogWellbeingMonitor) (now : ℕ) : Prop :=
  m.activeMealStartMs ≠ 0 ∧ m.monitorState = .recording ∧ m.activeMealEndMs ≤ now

instance (m : DogWellbeingMonitor) (now : ℕ) : Decidable (m.Starts now) :=
  inferInstanceAs (Decidable (_ ∧ _))

instance (m : DogWellbeingMonitor) (now : ℕ) : Decidable (m.Ends now) :=
  inferInstanceAs (Decidable (_ ∧ _))

/-- A tick looks for the first meal, starts a meal, ends it, or does nothing. -/
theorem tick_cases (settings : Settings) (now : ℕ) (previousMealsSum : ℚ)
    (m : DogWellbeingMonitor) :
    (m.activeMealStartMs = 0 ∧
      m.tick settings now previousMealsSum = (initializeNextMeal settings now m, [])) ∨
    (m.Starts now ∧ m.tick settings now previousMealsSum =
      ({ m with monitorState := .recording, initialWeightAtStart := m.currentWeight }, [])) ∨
    (m.Ends now ∧ m.tick settings now previousMealsSum =
      (initializeNextMeal settings now m, verdict settings m now previousMealsSum)) ∨
    (m.activeMealStartMs ≠ 0 ∧ ¬ m.Starts now ∧ ¬ m.Ends now ∧
      m.tick settings now previousMealsSum = (m, [])) := by
  unfold tick
  by_cases hunset : m.activeMealStartMs = 0
  · exact Or.inl ⟨hunset, by rw [if_pos hunset]⟩
  rw [if_neg hunset]
  cases hstate : m.monitorState with
  | waiting =>
      have hends : ¬ m.Ends now := by
        rintro ⟨-, hrecording, -⟩
        rw [hstate] at hrecording
        cases hrecording
      by_cases hstart : m.activeMealStartMs ≤ now
      · exact Or.inr (Or.inl ⟨⟨hunset, hstate, hstart⟩, by simp only [if_pos hstart]⟩)
      · exact Or.inr (Or.inr (Or.inr ⟨hunset, fun hstarts => hstart hstarts.2.2, hends,
          by simp only [if_neg hstart]⟩))
  | recording =>
      have hstarts : ¬ m.Starts now := by
        rintro ⟨-, hwaiting, -⟩
        rw [hstate] at hwaiting
        cases hwaiting
      by_cases hend : m.activeMealEndMs ≤ now
      · exact Or.inr (Or.inr (Or.inl ⟨⟨hunset, hstate, hend⟩, by simp only [if_pos hend]⟩))
      · exact Or.inr (Or.inr (Or.inr ⟨hunset, hstarts, fun hends => hend hends.2.2,
          by simp only [if_neg hend]⟩))

/-! ## The types of the records -/

/-- The types of the rows of the node. -/
def nodeTypes : List String :=
  ["served_food_quantity", "food_served_confirmation", "food_intake_per_meal",
    "food_intake_per_day", "meal_skipped", "water_intake_per_day", "water_refill_required"]

theorem types_verdict (settings : Settings) (now : ℕ) (previousMealsSum : ℚ)
    (m : DogWellbeingMonitor) : ∀ record ∈ verdict settings m now previousMealsSum,
      record.signalType ∈ mealTypes := by
  intro record hrecord
  unfold verdict at hrecord
  split at hrecord
  · simp only [List.mem_cons, List.not_mem_nil, or_false] at hrecord
    rcases hrecord with rfl | rfl <;> simp [perMealRecord, perDayRecord, mealTypes]
  · rw [List.mem_singleton.mp hrecord]
    simp [mealSkippedRecord, mealTypes]

theorem types_call (settings : Settings) (m : DogWellbeingMonitor) (call : Call) :
    ∀ record ∈ (m.call settings call).2, record.signalType ∈ nodeTypes := by
  intro record hrecord
  cases call with
  | bowlWeight bowlId weight now =>
      have htype := types_updateBowlWeight settings bowlId weight now m record hrecord
      simp only [List.mem_cons, List.not_mem_nil, or_false] at htype
      rcases htype with htype | htype <;> rw [htype] <;> decide
  | tick now previousMealsSum =>
      rw [DogWellbeingMonitor.call] at hrecord
      rcases tick_cases settings now previousMealsSum m with ⟨-, htick⟩ | ⟨-, htick⟩ |
        ⟨-, htick⟩ | ⟨-, -, -, htick⟩ <;> rw [htick] at hrecord
      · cases hrecord
      · cases hrecord
      · have htype := types_verdict settings now previousMealsSum m record hrecord
        simp only [mealTypes, List.mem_cons, List.not_mem_nil, or_false] at htype
        rcases htype with htype | htype | htype <;> rw [htype] <;> decide
      · cases hrecord
  | waterLevel level now =>
      have htype := types_updateWaterLevel settings m level now record hrecord
      simp only [List.mem_cons, List.not_mem_nil, or_false] at htype
      rcases htype with htype | htype <;> rw [htype] <;> decide

theorem types_after (settings : Settings) (calls : List Call) :
    ∀ record ∈ (Node.after settings calls).emitted, record.signalType ∈ nodeTypes := by
  induction calls using List.reverseRecOn with
  | nil =>
      intro record hrecord
      cases hrecord
  | append_singleton calls call ih =>
      intro record hrecord
      rw [after_append_singleton, step] at hrecord
      rcases List.mem_append.mp hrecord with hearlier | hnew
      · exact ih record hearlier
      · exact types_call settings _ call record hnew

/-! ## The weight of a bowl -/

/-- A reading of the weight of the bowl. -/
def reading (bowlId : String) : Call → Option ℚ
  | .bowlWeight bowlId' weight _ => if bowlId' = bowlId then some weight else none
  | _ => none

def readings (bowlId : String) (calls : List Call) : List ℚ := calls.filterMap (reading bowlId)

/-- The last reading; `0` without one. -/
def lastReading (bowlId : String) (calls : List Call) : ℚ :=
  (readings bowlId calls).getLast?.getD 0

theorem bowlTrackers_initializeNextMeal (settings : Settings) (now : ℕ) (m : DogWellbeingMonitor) :
    (initializeNextMeal settings now m).bowlTrackers = m.bowlTrackers := by
  unfold initializeNextMeal
  split <;> rfl

theorem bowlTrackers_tick (settings : Settings) (now : ℕ) (previousMealsSum : ℚ)
    (m : DogWellbeingMonitor) :
    (m.tick settings now previousMealsSum).1.bowlTrackers = m.bowlTrackers := by
  rcases tick_cases settings now previousMealsSum m with ⟨-, htick⟩ | ⟨-, htick⟩ | ⟨-, htick⟩ |
    ⟨-, -, -, htick⟩ <;> rw [htick]
  · exact bowlTrackers_initializeNextMeal settings now m
  · exact bowlTrackers_initializeNextMeal settings now m

/-- The tracked weight of a bowl is its last reading. -/
theorem currentWeight_after (settings : Settings) (calls : List Call) (bowlId : String) :
    ((Node.after settings calls).monitor.bowlTrackers bowlId).currentWeight =
      lastReading bowlId calls := by
  induction calls using List.reverseRecOn with
  | nil => rfl
  | append_singleton calls call ih =>
      rw [after_append_singleton, step]
      dsimp only
      generalize (Node.after settings calls).monitor = m at ih ⊢
      have hother : reading bowlId call = none →
          lastReading bowlId (calls ++ [call]) = lastReading bowlId calls := by
        intro hreading
        simp [lastReading, readings, hreading]
      cases call with
      | bowlWeight bowlId' weight now =>
          rw [DogWellbeingMonitor.call, updateBowlWeight_fst, track]
          by_cases hbowl : bowlId' = bowlId
          · subst hbowl
            simp [lastReading, readings, reading]
          · rw [hother (by simp [reading, hbowl]), ← ih]
            simp only [Function.update_of_ne (Ne.symm hbowl)]
      | tick now previousMealsSum =>
          rw [DogWellbeingMonitor.call, bowlTrackers_tick, ih, hother rfl]
      | waterLevel level now =>
          have hbowls := congrArg bowlTrackers (dry_updateWaterLevel settings m level now)
          have hsame : (m.updateWaterLevel settings level now).1.bowlTrackers = m.bowlTrackers :=
            hbowls
          rw [DogWellbeingMonitor.call, hsame, ih, hother rfl]

end OroEdge.Wellbeing
