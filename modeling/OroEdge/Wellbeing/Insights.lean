import OroEdge.Jobs.Evaluator
import OroEdge.Wellbeing.Skipped

/-!
# What the evaluator sees of the meals

`health_signal_evaluator` should notice when much less or much more is eaten on a day than
on the days before, going by the `food_intake_per_meal` rows that the wellbeing monitor
writes (`SeesMeals`).

Its queries ask for `food_consumption_grams` rows, which nothing writes.  So it sees no
meal, and the property holds exactly if there is nothing to notice (`seesMeals_iff`).

The module joins two models that share nothing but a table, the monitor that writes and the
evaluator that reads.  One direction is about all types that the monitor can write
(`types_after`, in the history of the monitor): the evaluator's type is not among them, so its
queries return what they return on the rows from before (`signalsOf_table_eq_nil`), and by
assumption there are none.  A baseline of no rows is zero and reports nothing
(`baseline_of_none`).  So nothing is ever reported, and the property is that nothing should be.
-/

namespace OroEdge.Wellbeing

open OroEdge.Lib OroEdge.Jobs

/-! ## The property -/

/-- What was eaten on a local day. -/
def eatenOn (zone : Zone) (deviceId : String) (rows : List Signal) (day : ℤ) : ℚ :=
  (Sql.sum (valuesWhere deviceId "food_intake_per_meal"
    (fun t => decide (dayOf (zone.toLocal t) = day)) rows)).getD 0

/-- The mean of the seven days before a day. -/
def weekMean (zone : Zone) (deviceId : String) (rows : List Signal) (day : ℤ) : ℚ :=
  ((List.range 7).map fun i => eatenOn zone deviceId rows (day - 1 - i)).sum / 7

section

variable (config : Json) (zone : Zone) (now : ℤ) (deviceId : String) (rows : List Signal)

/-- Less than a quarter of the mean was eaten, but not nothing. -/
def LowEating (mean total : ℚ) : Prop := 0 < mean ∧ 0 < total ∧ total < mean / 4

/-- More than twice the mean was eaten. -/
def HighEating (mean total : ℚ) : Prop := 0 < mean ∧ 2 * mean < total

/-- The run emits an event of the type. -/
def EvaluatorEmits (eventType : String) : Prop :=
  ∃ issue ∈ (healthSignalEvaluator config deviceId
    (evaluatorAnswers zone now deviceId rows)).issues, issue.event.eventType = eventType

/-- A run at the time `now` reports what the rows of the meals show. -/
def SeesMeals : Prop :=
  (LowEating (weekMean zone deviceId rows (dayOf (zone.toLocal now)))
      (eatenOn zone deviceId rows (dayOf (zone.toLocal now))) →
    EvaluatorEmits config zone now deviceId rows "abnormal_low_eating") ∧
  (HighEating (weekMean zone deviceId rows (dayOf (zone.toLocal now)))
      (eatenOn zone deviceId rows (dayOf (zone.toLocal now))) →
    EvaluatorEmits config zone now deviceId rows "abnormal_high_eating")

/-- What was eaten today is nothing, or lies between a quarter of the mean and twice it; or
the mean is not positive. -/
def NothingToReport : Prop :=
  ¬ LowEating (weekMean zone deviceId rows (dayOf (zone.toLocal now)))
      (eatenOn zone deviceId rows (dayOf (zone.toLocal now))) ∧
    ¬ HighEating (weekMean zone deviceId rows (dayOf (zone.toLocal now)))
      (eatenOn zone deviceId rows (dayOf (zone.toLocal now)))

instance (mean total : ℚ) : Decidable (LowEating mean total) :=
  inferInstanceAs (Decidable (_ ∧ _))

instance (mean total : ℚ) : Decidable (HighEating mean total) :=
  inferInstanceAs (Decidable (_ ∧ _))

instance : Decidable (NothingToReport zone now deviceId rows) :=
  inferInstanceAs (Decidable (_ ∧ _))

/-! ## What the queries return -/

variable {deviceId rows}

theorem baseline_of_none {signalType : String} (hnone : signalsOf deviceId signalType rows = [])
    (today : ℤ) : baseline zone today deviceId signalType rows = 0 := by
  have hdays : baselineDays zone today deviceId signalType rows = [] := by
    rw [baselineDays, hnone]
    rfl
  rw [baseline, hdays]
  rfl

/-- Without rows of its own type the evaluator reports neither. -/
theorem not_evaluatorEmits (hnone : signalsOf deviceId "food_consumption_grams" rows = [])
    {eventType : String} (htype : eventType ∈ ["abnormal_low_eating", "abnormal_high_eating"]) :
    ¬ EvaluatorEmits config zone now deviceId rows eventType := by
  rintro ⟨issue, hissue, rfl⟩
  have hfood : foodIssues deviceId (evaluatorAnswers zone now deviceId rows) = [] := by
    have hzero : (evaluatorAnswers zone now deviceId rows).foodBaseline = 0 :=
      baseline_of_none zone hnone _
    rw [foodIssues, hzero, if_neg (lt_irrefl 0)]
  have hother : issue.event.eventType ∈ ["abnormal_low_drinking", "environment_discomfort"] := by
    unfold healthSignalEvaluator at hissue
    dsimp only at hissue
    rw [hfood, List.nil_append] at hissue
    have hwater : ∀ issue ∈ waterIssues deviceId (evaluatorAnswers zone now deviceId rows),
        issue.event.eventType = "abnormal_low_drinking" := by
      intro issue hissue
      simp only [waterIssues, List.mem_ite_nil_right, List.mem_singleton] at hissue
      rw [hissue.2]
    split_ifs at hissue
    · cases hissue
    · split at hissue
      · rename_i comfort _
        rcases List.mem_append.mp hissue with hissue | hissue
        · simp [hwater issue hissue]
        · simp only [comfortIssues, List.mem_ite_nil_right, List.mem_singleton] at hissue
          simp [hissue.2]
      · simp [hwater issue hissue]
    · simp [hwater issue hissue]
  simp only [List.mem_cons, List.not_mem_nil, or_false] at htype hother
  rcases htype with htype | htype <;> rcases hother with hother | hother <;>
    rw [htype] at hother <;> exact absurd hother (by decide)

/-- The monitor writes no row of the evaluator's type. -/
theorem signalsOf_table_eq_nil (settings : Settings) {stored : List Signal} {signalType : String}
    (htype : signalType ∉ nodeTypes) (hstored : signalsOf deviceId signalType stored = [])
    (calls : List Call) :
    signalsOf deviceId signalType (table stored (Node.after settings calls)) = [] := by
  unfold table signalsOf
  rw [List.filter_append]
  refine List.append_eq_nil_iff.mpr ⟨hstored, List.filter_eq_nil_iff.mpr fun row hrow hkeep => ?_⟩
  obtain ⟨record, hrecord, rfl⟩ := List.mem_map.mp hrow
  simp only [Bool.and_eq_true, decide_eq_true_eq] at hkeep
  exact htype (hkeep.2 ▸ types_after settings calls record hrecord)

end

/-- **What the evaluator sees, exactly.**  If no `food_consumption_grams` row of the device
was stored by others, a run reports what the rows of the meals show if and only if they show
nothing to report. -/
theorem seesMeals_iff (settings : Settings) (stored : List Signal)
    (hstored : signalsOf settings.deviceId "food_consumption_grams" stored = [])
    (calls : List Call) (config : Json) (zone : Zone) (now : ℤ) :
    SeesMeals config zone now settings.deviceId (table stored (Node.after settings calls)) ↔
      NothingToReport zone now settings.deviceId (table stored (Node.after settings calls)) := by
  have hnone := signalsOf_table_eq_nil settings (by decide) hstored calls
  constructor
  · rintro ⟨hlow, hhigh⟩
    exact ⟨fun h => not_evaluatorEmits config zone now hnone (by simp) (hlow h),
      fun h => not_evaluatorEmits config zone now hnone (by simp) (hhigh h)⟩
  · rintro ⟨hlow, hhigh⟩
    exact ⟨fun h => absurd h hlow, fun h => absurd h hhigh⟩

/-! ### Two days of meals -/

/-- 700 g are eaten on the first day, and `grams` on the second. -/
def twoDays (grams : ℚ) : List Call :=
  [.bowlWeight "bowl_1" 800 0, .tick 0 0, .tick 1000 0, .bowlWeight "bowl_1" 100 1500,
    .tick 2000 0, .tick 86401000 0, .bowlWeight "bowl_1" (100 - grams) 86401500, .tick 86402000 0]

/-- 50 g are half of the mean. -/
theorem seesMeals_fifty : SeesMeals .null (.fixed 0) 86403000000 "dev"
    (table [] (Node.after oneMeal (twoDays 50))) :=
  (seesMeals_iff oneMeal [] rfl (twoDays 50) .null (.fixed 0) 86403000000).mpr (by decide +kernel)

/-- 20 g are a fifth of the mean, and nothing is reported. -/
theorem not_seesMeals_twenty : ¬ SeesMeals .null (.fixed 0) 86403000000 "dev"
    (table [] (Node.after oneMeal (twoDays 20))) := by
  rintro ⟨hlow, -⟩
  have hdue := hlow (by decide +kernel)
  exact not_evaluatorEmits .null (.fixed 0) 86403000000
    (signalsOf_table_eq_nil oneMeal (by decide) rfl (twoDays 20)) (by simp) hdue

end OroEdge.Wellbeing
