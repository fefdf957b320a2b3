import OroEdge.Lib.Meter
import OroEdge.Wellbeing.Occurrence
import OroEdge.Wellbeing.Servings

/-!
# The account of a bowl

A meal is judged by two weights of its bowl, one when it starts and one when it ends, and whatever
goes into the bowl in between is not accounted for.  Still the records never tell of food that was
not there: what they say was eaten from a bowl, and what is left in it, come to no more than what
was ever put in (`foodAccount_after`).  Neither do they tell of a serving that did not raise the
weight.  This holds for every order of readings and ticks, and for every clock and schedule.

The carrying invariant counts a meal that is being recorded with the weight from which it started:
that is what its record may still claim (`pending`).

The account is kept for one bowl at a time, since records, readings and meals of other bowls do
not touch it (`pending_track_of_ne`).  A reading that rises by some amount raises what the meal
may claim by no more, as a rise is what has been put in (`pending_track_le`); a reading that
falls leaves the claim, which is what the meal started from.  The verdict takes what it claims
from the pending amount (`eatenFrom_verdict_le`), and a search starts the next meal with the
bowl as it is.
-/

namespace OroEdge.Wellbeing

open OroEdge.Lib DogWellbeingMonitor

/-- `metadata->>'bowl_id'`. -/
def bowlIdOf : Metadata → Option String
  | .dumped json => (json.get? "bowl_id").bind Json.asString
  | .text _ => none

/-- The grams in the records of one type about one bowl. -/
def gramsOf (signalType bowlId : String) (records : List SignalRecord) : ℚ :=
  (((recordsOf signalType records).filter fun record =>
    decide (bowlIdOf record.metadata = some bowlId)).map fun record =>
      record.signalValueNumeric.getD 0).sum

/-- What the rows say was eaten from a bowl. -/
def eatenFrom : String → List SignalRecord → ℚ := gramsOf "food_intake_per_meal"

/-- What the rows say was put into a bowl. -/
def servedInto : String → List SignalRecord → ℚ := gramsOf "served_food_quantity"

/-- The sum of all rises of a level: its negative falls. -/
def rises (levels : List ℚ) : ℚ := drops (levels.map Neg.neg)

/-- What was put into a bowl, which is empty before its first reading. -/
def filled (bowlId : String) (calls : List Call) : ℚ := rises (0 :: readings bowlId calls)

/-! ## Sums -/

theorem gramsOf_append (signalType bowlId : String) (first second : List SignalRecord) :
    gramsOf signalType bowlId (first ++ second) =
      gramsOf signalType bowlId first + gramsOf signalType bowlId second := by
  unfold gramsOf
  rw [recordsOf_append, List.filter_append, List.map_append, List.sum_append]

theorem gramsOf_of_other {signalType : String} {records : List SignalRecord}
    (hother : ∀ record ∈ records, record.signalType ≠ signalType) (bowlId : String) :
    gramsOf signalType bowlId records = 0 := by
  have hnone : recordsOf signalType records = [] :=
    List.filter_eq_nil_iff.mpr fun record hrecord htype =>
      hother record hrecord (of_decide_eq_true htype)
  rw [gramsOf, hnone]
  rfl

theorem rises_append_singleton {levels : List ℚ} {last : ℚ} (hlast : levels.getLast? = some last)
    (level : ℚ) : rises (levels ++ [level]) = rises levels + max 0 (level - last) := by
  unfold rises
  rw [List.map_append, List.map_singleton, drops_append_singleton, fall, List.getLast?_map, hlast]
  exact congrArg (fun rise => _ + max 0 rise) (by ring)

theorem rises_le_append_singleton (levels : List ℚ) (level : ℚ) :
    rises levels ≤ rises (levels ++ [level]) := by
  unfold rises
  rw [List.map_append, List.map_singleton, drops_append_singleton]
  exact le_add_of_nonneg_right (fall_nonneg _ _)

theorem readings_append_singleton (bowlId : String) (calls : List Call) (call : Call) :
    readings bowlId (calls ++ [call]) = readings bowlId calls ++ (reading bowlId call).toList := by
  unfold readings
  rw [List.filterMap_append]
  cases hreading : reading bowlId call <;> simp [hreading]

theorem filled_of_none {bowlId : String} {call : Call} (hreading : reading bowlId call = none)
    (calls : List Call) : filled bowlId (calls ++ [call]) = filled bowlId calls := by
  rw [filled, readings_append_singleton, hreading]
  exact congrArg (fun levels => rises (0 :: levels)) (List.append_nil _)

theorem filled_of_reading {bowlId : String} {call : Call} {weight : ℚ}
    (hreading : reading bowlId call = some weight) (calls : List Call) :
    filled bowlId (calls ++ [call]) =
      filled bowlId calls + max 0 (weight - lastReading bowlId calls) := by
  rw [filled, readings_append_singleton, hreading, Option.toList_some, ← List.cons_append]
  refine rises_append_singleton ?_ weight
  rw [List.getLast?_cons]
  rfl

/-! ## What a meal may still claim -/

/-- The weight of the bowl, or the one from which its meal started if that is more. -/
def DogWellbeingMonitor.pending (m : DogWellbeingMonitor) (bowlId : String) : ℚ :=
  let weight := (m.bowlTrackers bowlId).currentWeight
  if m.monitorState = .recording ∧ m.activeSched.bowlId = bowlId then
    max weight m.initialWeightAtStart
  else weight

theorem weight_le_pending (m : DogWellbeingMonitor) (bowlId : String) :
    (m.bowlTrackers bowlId).currentWeight ≤ m.pending bowlId := by
  unfold pending
  dsimp only
  split_ifs
  · exact le_max_left _ _
  · exact le_rfl

theorem pending_of_waiting {m : DogWellbeingMonitor} (hwaiting : m.monitorState = .waiting)
    (bowlId : String) : m.pending bowlId = (m.bowlTrackers bowlId).currentWeight := by
  unfold pending
  dsimp only
  rw [if_neg fun hrecording => by rw [hwaiting] at hrecording; cases hrecording.1]

theorem pending_of_recording {m : DogWellbeingMonitor} (hrecording : m.monitorState = .recording) :
    m.pending m.activeSched.bowlId = max m.currentWeight m.initialWeightAtStart :=
  if_pos ⟨hrecording, rfl⟩

theorem pending_track_of_ne {bowlId other : String} (hne : other ≠ bowlId) (weight : ℚ)
    (m : DogWellbeingMonitor) : (m.track other weight).pending bowlId = m.pending bowlId := by
  unfold pending track
  dsimp only
  rw [Function.update_of_ne (Ne.symm hne)]

/-- A reading adds its rise, at most. -/
theorem pending_track_le (bowlId : String) (weight : ℚ) (m : DogWellbeingMonitor) :
    (m.track bowlId weight).pending bowlId ≤
      m.pending bowlId + max 0 (weight - (m.bowlTrackers bowlId).currentWeight) := by
  have hrise := le_max_right 0 (weight - (m.bowlTrackers bowlId).currentWeight)
  have hnonneg := le_max_left 0 (weight - (m.bowlTrackers bowlId).currentWeight)
  unfold pending track
  dsimp only
  rw [Function.update_self]
  split_ifs
  · have hleft := le_max_left (m.bowlTrackers bowlId).currentWeight m.initialWeightAtStart
    have hright := le_max_right (m.bowlTrackers bowlId).currentWeight m.initialWeightAtStart
    exact max_le (by linarith) (by linarith)
  · linarith

/-- The verdict claims no more than the meal had pending. -/
theorem eatenFrom_verdict_le (settings : Settings) (now : ℕ) (previousMealsSum : ℚ)
    {m : DogWellbeingMonitor} (hrecording : m.monitorState = .recording) (bowlId : String) :
    eatenFrom bowlId (verdict settings m now previousMealsSum) +
      (m.bowlTrackers bowlId).currentWeight ≤ m.pending bowlId := by
  have hleast := weight_le_pending m bowlId
  unfold verdict
  split_ifs with heaten
  · have hmeal : bowlIdOf (perMealRecord settings m).metadata = some m.activeSched.bowlId := rfl
    have hday : gramsOf "food_intake_per_meal" bowlId
        [perDayRecord settings m now previousMealsSum] = 0 :=
      gramsOf_of_other (by simp [perDayRecord]) bowlId
    have hsum := gramsOf_append "food_intake_per_meal" bowlId [perMealRecord settings m]
      [perDayRecord settings m now previousMealsSum]
    rw [hday, add_zero] at hsum
    rw [eatenFrom, ← List.singleton_append, hsum]
    by_cases hbowl : m.activeSched.bowlId = bowlId
    · subst hbowl
      have hgrams : gramsOf "food_intake_per_meal" m.activeSched.bowlId
          [perMealRecord settings m] = m.intake := by
        simp [gramsOf, recordsOf, perMealRecord, bowlIdOf, Json.get?, Json.asString]
      rw [hgrams, intake, currentWeight, sub_add_cancel, pending_of_recording hrecording]
      exact le_max_right _ _
    · have hnone : gramsOf "food_intake_per_meal" bowlId [perMealRecord settings m] = 0 := by
        unfold gramsOf
        rw [List.filter_eq_nil_iff.mpr]
        · rfl
        · intro record hrecord
          rw [List.mem_singleton.mp (List.mem_filter.mp hrecord).1, hmeal]
          simpa using hbowl
      rw [hnone, zero_add]
      exact hleast
  · rw [eatenFrom, gramsOf_of_other (by simp [mealSkippedRecord]), zero_add]
    exact hleast

/-! ## What was eaten -/

/-- What was eaten and what a meal may still claim were put in.  Only a monitor with schedules
has a meal. -/
structure Accounted (settings : Settings) (bowlId : String) (calls : List Call) (node : Node) :
    Prop where
  scheduled : node.monitor.activeMealStartMs ≠ 0 → settings.mealSchedules ≠ []
  within : eatenFrom bowlId node.emitted + node.monitor.pending bowlId ≤ filled bowlId calls

section

variable {settings : Settings} {bowlId : String} {calls : List Call} {node : Node}

theorem Accounted.of_not_tick (hnode : Accounted settings bowlId calls node) {call : Call}
    (hcall : call.tickTime? = none)
    (hpending : (node.monitor.call settings call).1.pending bowlId ≤
      node.monitor.pending bowlId + (filled bowlId (calls ++ [call]) - filled bowlId calls)) :
    Accounted settings bowlId (calls ++ [call]) (step settings node call) := by
  obtain ⟨hsame, hrecords⟩ := sameMeal_of_not_tick settings node.monitor hcall
  have hwithin := hnode.within
  refine ⟨fun hstart => hnode.scheduled ?_, ?_⟩
  · rwa [← hsame.startMs]
  · have hnone : eatenFrom bowlId (node.monitor.call settings call).2 = 0 := by
      refine gramsOf_of_other (fun record hrecord htype => hrecords record hrecord ?_) bowlId
      rw [htype]
      exact List.mem_cons_self
    rw [step, eatenFrom, gramsOf_append, ← eatenFrom, hnone, add_zero]
    linarith

theorem Accounted.of_tick (hnode : Accounted settings bowlId calls node) (now : ℕ)
    (previousMealsSum : ℚ) {m : DogWellbeingMonitor}
    (hscheduled : m.activeMealStartMs ≠ 0 → settings.mealSchedules ≠ [])
    {records : List SignalRecord}
    (htick : node.monitor.tick settings now previousMealsSum = (m, records))
    (hwithin : eatenFrom bowlId records + m.pending bowlId ≤ node.monitor.pending bowlId) :
    Accounted settings bowlId (calls ++ [.tick now previousMealsSum])
      (step settings node (.tick now previousMealsSum)) := by
  have hearlier := hnode.within
  rw [step, DogWellbeingMonitor.call, htick]
  refine ⟨hscheduled, ?_⟩
  rw [filled_of_none rfl, eatenFrom, gramsOf_append, ← eatenFrom]
  linarith

/-- A search for a meal ends with one that waits, unless there are no schedules. -/
theorem waiting_initializeNextMeal (hnonempty : settings.mealSchedules ≠ []) (now : ℕ)
    (m : DogWellbeingMonitor) : (initializeNextMeal settings now m).monitorState = .waiting := by
  obtain ⟨best, hbest⟩ := exists_findTomorrow now hnonempty
  unfold initializeNextMeal
  split
  · rfl
  · rename_i hnone
    have hneither := Option.map_eq_none_iff.mp hnone
    rw [hbest] at hneither
    cases htoday : findToday settings now <;> rw [htoday] at hneither <;> cases hneither

theorem pending_initializeNextMeal (hnonempty : settings.mealSchedules ≠ []) (now : ℕ)
    (m : DogWellbeingMonitor) (bowlId : String) :
    (initializeNextMeal settings now m).pending bowlId =
      (m.bowlTrackers bowlId).currentWeight := by
  rw [pending_of_waiting (waiting_initializeNextMeal hnonempty now m),
    bowlTrackers_initializeNextMeal]

/-- Without schedules a search leaves the monitor as it is. -/
theorem initializeNextMeal_of_empty (hempty : settings.mealSchedules = []) (now : ℕ)
    (m : DogWellbeingMonitor) : initializeNextMeal settings now m = m := by
  have hnone : findNextMeal settings now = none := by
    simp [findNextMeal, findToday, findTomorrow, hempty]
  rw [initializeNextMeal, hnone]

theorem Accounted.tick (hnode : Accounted settings bowlId calls node) (now : ℕ)
    (previousMealsSum : ℚ) :
    Accounted settings bowlId (calls ++ [.tick now previousMealsSum])
      (step settings node (.tick now previousMealsSum)) := by
  have hnothing (m : DogWellbeingMonitor) (hle : m.pending bowlId ≤ node.monitor.pending bowlId) :
      eatenFrom bowlId [] + m.pending bowlId ≤ node.monitor.pending bowlId := by
    rw [eatenFrom, gramsOf_of_other fun _ => List.not_mem_nil.elim, zero_add]
    exact hle
  rcases tick_cases settings now previousMealsSum node.monitor with ⟨hunset, htick⟩ |
    ⟨hstarts, htick⟩ | ⟨hends, htick⟩ | ⟨-, -, -, htick⟩
  · by_cases hempty : settings.mealSchedules = []
    · rw [initializeNextMeal_of_empty hempty] at htick
      exact hnode.of_tick now previousMealsSum hnode.scheduled htick (hnothing _ le_rfl)
    · refine hnode.of_tick now previousMealsSum (fun _ => hempty) htick (hnothing _ ?_)
      rw [pending_initializeNextMeal hempty]
      exact weight_le_pending _ _
  · refine hnode.of_tick now previousMealsSum (fun _ => hnode.scheduled hstarts.1) htick
      (hnothing _ ?_)
    -- The meal starts from the weight that its bowl has.
    rw [pending_of_waiting hstarts.2.1]
    unfold pending
    dsimp only
    split_ifs with hbowl
    · rw [currentWeight, hbowl.2, max_self]
    · exact le_rfl
  · have hnonempty := hnode.scheduled hends.1
    refine hnode.of_tick now previousMealsSum (fun _ => hnonempty) htick ?_
    rw [pending_initializeNextMeal hnonempty]
    exact eatenFrom_verdict_le settings now previousMealsSum hends.2.1 bowlId
  · exact hnode.of_tick now previousMealsSum hnode.scheduled htick (hnothing _ le_rfl)

end

theorem pending_updateWaterLevel (settings : Settings) (m : DogWellbeingMonitor) (level : ℚ)
    (now : ℕ) (bowlId : String) :
    (m.updateWaterLevel settings level now).1.pending bowlId = m.pending bowlId :=
  (congrArg (fun m : DogWellbeingMonitor => m.pending bowlId)
    (dry_updateWaterLevel settings m level now) :)

theorem accounted_after (settings : Settings) (bowlId : String) (calls : List Call) :
    Accounted settings bowlId calls (Node.after settings calls) := by
  induction calls using List.reverseRecOn with
  | nil =>
      refine ⟨fun hunset => absurd rfl hunset, le_of_eq ?_⟩
      simp [Node.after, Node.construct, construct, eatenFrom, gramsOf, recordsOf, pending, filled,
        rises, readings, drops]
  | append_singleton calls call ih =>
      rw [after_append_singleton]
      cases call with
      | tick now previousMealsSum => exact ih.tick now previousMealsSum
      | waterLevel level now =>
          refine ih.of_not_tick rfl (le_of_eq ?_)
          rw [DogWellbeingMonitor.call, pending_updateWaterLevel, filled_of_none rfl, sub_self,
            add_zero]
      | bowlWeight other weight now =>
          refine ih.of_not_tick rfl ?_
          rw [DogWellbeingMonitor.call, updateBowlWeight_fst]
          by_cases hbowl : other = bowlId
          · subst hbowl
            have hreading : reading other (.bowlWeight other weight now) = some weight := if_pos rfl
            rw [filled_of_reading hreading, add_sub_cancel_left,
              ← currentWeight_after settings calls other]
            exact pending_track_le other weight _
          · have hreading : reading bowlId (.bowlWeight other weight now) = none := if_neg hbowl
            rw [filled_of_none hreading, sub_self, add_zero, pending_track_of_ne hbowl]

/-! ## What was served -/

section

variable (settings : Settings) (bowlId : String) (calls : List Call)

theorem servedInto_servingRecords (other : String) (previous : Option ℚ) (weight : ℚ) (now : ℕ)
    (hbowl : other ≠ bowlId) :
    servedInto bowlId (servingRecords settings other previous weight now) = 0 := by
  unfold servingRecords
  split
  · split_ifs
    · simp [servedInto, gramsOf, recordsOf, servedFoodRecord, servedConfirmationRecord, bowlIdOf,
        Json.get?, Json.asString, hbowl]
    · rfl
  · rfl

/-- A serving is a rise of the weight. -/
theorem servedInto_reading_le (weight : ℚ) (now : ℕ) :
    servedInto bowlId (handedOver settings calls (.bowlWeight bowlId weight now)) ≤
      rises (readings bowlId calls ++ [weight]) - rises (readings bowlId calls) := by
  have hrises := rises_le_append_singleton (readings bowlId calls) weight
  have hnone : servedInto bowlId [] = 0 := rfl
  rw [handedOver_bowlWeight]
  split_ifs with hempty
  · rw [hnone]
    linarith
  cases hlast : (readings bowlId calls).getLast? with
  | none =>
      rw [servingRecords, hnone]
      linarith
  | some previous =>
      rw [servingRecords]
      split_ifs with hserved
      · have hgrams : servedInto bowlId [servedFoodRecord settings bowlId (weight - previous) now,
            servedConfirmationRecord settings bowlId now] = weight - previous := by
          simp [servedInto, gramsOf, recordsOf, servedFoodRecord, servedConfirmationRecord,
            bowlIdOf, Json.get?, Json.asString]
        rw [hgrams, rises_append_singleton hlast, add_sub_cancel_left]
        exact le_max_right _ _
      · rw [hnone]
        linarith

theorem servedInto_handedOver_le (call : Call) : servedInto bowlId (handedOver settings calls call) ≤
    rises (readings bowlId (calls ++ [call])) - rises (readings bowlId calls) := by
  rw [readings_append_singleton]
  cases call with
  | bowlWeight other weight now =>
      by_cases hbowl : other = bowlId
      · subst hbowl
        have hreading : reading other (.bowlWeight other weight now) = some weight := if_pos rfl
        rw [hreading]
        exact servedInto_reading_le settings other calls weight now
      · have hreading : reading bowlId (.bowlWeight other weight now) = none := if_neg hbowl
        rw [hreading, Option.toList_none, List.append_nil, sub_self, handedOver_bowlWeight]
        split_ifs
        · exact le_rfl
        · exact (servedInto_servingRecords settings bowlId other _ weight now hbowl).le
  | tick now previousMealsSum =>
      have hreading : reading bowlId (.tick now previousMealsSum) = none := rfl
      rw [hreading, Option.toList_none, List.append_nil, sub_self]
      refine le_of_eq (gramsOf_of_other (fun record hrecord htype => ?_) bowlId)
      rw [handedOver, DogWellbeingMonitor.call] at hrecord
      rcases tick_cases settings now previousMealsSum (Node.after settings calls).monitor with
        ⟨-, htick⟩ | ⟨-, htick⟩ | ⟨-, htick⟩ | ⟨-, -, -, htick⟩ <;> rw [htick] at hrecord
      · cases hrecord
      · cases hrecord
      · have hmeal := types_verdict settings now previousMealsSum _ record hrecord
        rw [htype] at hmeal
        exact absurd hmeal (by decide)
      · cases hrecord
  | waterLevel level now =>
      have hreading : reading bowlId (.waterLevel level now) = none := rfl
      rw [hreading, Option.toList_none, List.append_nil, sub_self]
      refine le_of_eq (gramsOf_of_other (fun record hrecord htype => ?_) bowlId)
      have hwater := types_updateWaterLevel settings _ level now record hrecord
      rw [htype] at hwater
      exact absurd hwater (by decide)

end

theorem servedInto_after_le (settings : Settings) (bowlId : String) (calls : List Call) :
    servedInto bowlId (Node.after settings calls).emitted ≤ rises (readings bowlId calls) := by
  induction calls using List.reverseRecOn with
  | nil => exact le_of_eq rfl
  | append_singleton calls call ih =>
      have hcall := servedInto_handedOver_le settings bowlId calls call
      rw [after_append_singleton, step, servedInto, gramsOf_append, ← servedInto, ← handedOver]
      linarith

/-- **No food out of nothing.**  What the records say was eaten from a bowl and what is in it come
to no more than what was put in, and what they say was served to no more than the rises of its
weight, after any calls. -/
theorem foodAccount_after (settings : Settings) (calls : List Call) (bowlId : String) :
    let records := (Node.after settings calls).emitted
    eatenFrom bowlId records + lastReading bowlId calls ≤ filled bowlId calls ∧
      servedInto bowlId records ≤ rises (readings bowlId calls) := by
  have hwithin := (accounted_after settings bowlId calls).within
  have hweight := weight_le_pending (Node.after settings calls).monitor bowlId
  rw [currentWeight_after] at hweight
  exact ⟨by linarith, servedInto_after_le settings bowlId calls⟩

end OroEdge.Wellbeing
