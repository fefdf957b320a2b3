import OroEdge.Jobs.Evaluator

/-!
# Worse readings

A worse reading should not silence an alert: with everything else the same, less food,
less water, a colder room and a lower battery raise it again, the battery with at least the
same severity.

The queries return zero when there is nothing to return, and every check takes a reading
that is not positive for no reading.  So the property holds for positive readings
(`worseReadings`), and a reading of zero raises neither of the alerts about food, water and
temperature.

Each alert is brought to an inequality between the reading and what it is compared with
(`raises_lowEating_iff`, `raises_lowDrinking_iff`, `raises_discomfort_iff`,
`batteryRaised_iff`), and a lower positive reading meets it as well.  The battery has two
inequalities, one for each severity, and a lower level may meet the stronger one, so the
severity is compared by its rank (`batteryRaised_lower`).  The ratio of the day to the baseline
is monotone in the reading because the baseline is positive whenever there is a ratio
(`ratio_lt`).
-/

namespace OroEdge.Jobs

open OroEdge.Lib OroEdge.Scheduler

/-! ## What is raised -/

/-- A run of the evaluator emits an event of the type. -/
def EvaluatorRaises (config : Json) (deviceId : String) (q : EvaluatorAnswers)
    (eventType : String) : Prop :=
  ∃ issue ∈ (healthSignalEvaluator config deviceId q).issues, issue.event.eventType = eventType

/-- A run of the device check emits an event about the battery, with the severity. -/
def BatteryRaised (deviceId : String) (q : DeviceAnswers) (severity : String) : Prop :=
  ∃ eventType ∈ ["low_battery", "critical_battery"],
    (deviceHealthCheck deviceId q).EmitsAs eventType severity

/-- The severities of events, in their order. -/
def severityRank : String → ℕ
  | "low" => 1
  | "medium" => 2
  | "high" => 3
  | "critical" => 4
  | _ => 0

section

variable {config : Json} {deviceId : String} {q : EvaluatorAnswers} {issue : Issue}

theorem mem_evaluator_iff :
    issue ∈ (healthSignalEvaluator config deviceId q).issues ↔
      deviceId ≠ "" ∧ (issue ∈ foodIssues deviceId q ∨ issue ∈ waterIssues deviceId q ∨
        ∃ comfort, 0 < q.avgTemp ∧ comfortRange config = some comfort ∧
          issue ∈ comfortIssues deviceId q comfort) := by
  unfold healthSignalEvaluator
  by_cases hdevice : deviceId = ""
  · simp [hdevice]
  · by_cases htemp : 0 < q.avgTemp
    · cases hcomfort : comfortRange config with
      | none => simp [hdevice, htemp]
      | some comfort => simp [hdevice, htemp]
    · simp [hdevice, htemp]

/-- Food, of which more than twice the baseline is no less than a quarter of it. -/
theorem exists_mem_foodIssues_iff (eventType : String) :
    (∃ issue ∈ foodIssues deviceId q, issue.event.eventType = eventType) ↔
      0 < q.foodBaseline ∧
        ((q.foodToday / q.foodBaseline < 1 / 4 ∧ 0 < q.foodToday ∧
            "abnormal_low_eating" = eventType) ∨
          (2 < q.foodToday / q.foodBaseline ∧ "abnormal_high_eating" = eventType)) := by
  unfold foodIssues
  dsimp only
  split_ifs with hbaseline hlow hhigh
  · have hhigh : ¬ 2 < q.foodToday / q.foodBaseline :=
      not_lt.mpr (hlow.1.le.trans (by decide +kernel))
    simp only [List.mem_singleton, exists_eq_left]
    simp only [hbaseline, hlow.1, hlow.2, hhigh, true_and, false_and, or_false]
  · simp only [List.mem_singleton, exists_eq_left]
    simp only [hbaseline, hhigh, true_and, ← and_assoc, hlow, false_and, false_or]
  · simp only [hbaseline, hhigh, true_and, ← and_assoc, hlow, false_and, or_false]
    simp
  · simp [hbaseline]

theorem exists_mem_waterIssues_iff (eventType : String) :
    (∃ issue ∈ waterIssues deviceId q, issue.event.eventType = eventType) ↔
      (0 < q.waterBaseline ∧ q.waterToday / q.waterBaseline < 1 / 4 ∧ 0 < q.waterToday) ∧
        "abnormal_low_drinking" = eventType := by
  simp only [waterIssues, List.mem_ite_nil_right, List.mem_singleton]
  constructor
  · rintro ⟨issue, ⟨hlow, rfl⟩, htype⟩
    exact ⟨hlow, htype⟩
  · rintro ⟨hlow, htype⟩
    exact ⟨_, ⟨hlow, rfl⟩, htype⟩

theorem exists_mem_comfortIssues_iff (comfort : ComfortRange) (eventType : String) :
    (∃ issue ∈ comfortIssues deviceId q comfort, issue.event.eventType = eventType) ↔
      (q.avgTemp < comfort.minTemp ∨ comfort.maxTemp < q.avgTemp) ∧
        "environment_discomfort" = eventType := by
  simp only [comfortIssues, List.mem_ite_nil_right, List.mem_singleton]
  constructor
  · rintro ⟨issue, ⟨houtside, rfl⟩, htype⟩
    exact ⟨houtside, htype⟩
  · rintro ⟨houtside, htype⟩
    exact ⟨_, ⟨houtside, rfl⟩, htype⟩

/-- The types of the events, each with what raises it. -/
theorem evaluatorRaises_iff (eventType : String) :
    EvaluatorRaises config deviceId q eventType ↔ deviceId ≠ "" ∧
      ((∃ issue ∈ foodIssues deviceId q, issue.event.eventType = eventType) ∨
        (∃ issue ∈ waterIssues deviceId q, issue.event.eventType = eventType) ∨
        ∃ comfort, 0 < q.avgTemp ∧ comfortRange config = some comfort ∧
          ∃ issue ∈ comfortIssues deviceId q comfort, issue.event.eventType = eventType) := by
  unfold EvaluatorRaises
  simp only [mem_evaluator_iff]
  constructor
  · rintro ⟨issue, ⟨hdevice, hfood | hwater | ⟨comfort, htemp, hconfig, hcomfort⟩⟩, htype⟩
    · exact ⟨hdevice, Or.inl ⟨issue, hfood, htype⟩⟩
    · exact ⟨hdevice, Or.inr (Or.inl ⟨issue, hwater, htype⟩)⟩
    · exact ⟨hdevice, Or.inr (Or.inr ⟨comfort, htemp, hconfig, issue, hcomfort, htype⟩)⟩
  · rintro ⟨hdevice, ⟨issue, hfood, htype⟩ | ⟨issue, hwater, htype⟩ |
      ⟨comfort, htemp, hconfig, issue, hcomfort, htype⟩⟩
    · exact ⟨issue, ⟨hdevice, Or.inl hfood⟩, htype⟩
    · exact ⟨issue, ⟨hdevice, Or.inr (Or.inl hwater)⟩, htype⟩
    · exact ⟨issue, ⟨hdevice, Or.inr (Or.inr ⟨comfort, htemp, hconfig, hcomfort⟩)⟩, htype⟩

/-! ### The three alerts -/

theorem raises_lowEating_iff :
    EvaluatorRaises config deviceId q "abnormal_low_eating" ↔
      deviceId ≠ "" ∧ 0 < q.foodBaseline ∧ q.foodToday / q.foodBaseline < 1 / 4 ∧
        0 < q.foodToday := by
  simp [evaluatorRaises_iff, exists_mem_foodIssues_iff, exists_mem_waterIssues_iff,
    exists_mem_comfortIssues_iff]

theorem raises_lowDrinking_iff :
    EvaluatorRaises config deviceId q "abnormal_low_drinking" ↔
      deviceId ≠ "" ∧ 0 < q.waterBaseline ∧ q.waterToday / q.waterBaseline < 1 / 4 ∧
        0 < q.waterToday := by
  simp [evaluatorRaises_iff, exists_mem_foodIssues_iff, exists_mem_waterIssues_iff,
    exists_mem_comfortIssues_iff]

theorem raises_discomfort_iff :
    EvaluatorRaises config deviceId q "environment_discomfort" ↔
      deviceId ≠ "" ∧ ∃ comfort, 0 < q.avgTemp ∧ comfortRange config = some comfort ∧
        (q.avgTemp < comfort.minTemp ∨ comfort.maxTemp < q.avgTemp) := by
  simp [evaluatorRaises_iff, exists_mem_foodIssues_iff, exists_mem_waterIssues_iff,
    exists_mem_comfortIssues_iff]

end

theorem batteryRaised_iff {deviceId : String} {q : DeviceAnswers} {severity : String} :
    BatteryRaised deviceId q severity ↔
      deviceId ≠ "" ∧ (0 < q.battery ∧ q.battery < q.batteryLowThreshold) ∧
        (if q.battery < 5 then "critical" else "medium") = severity := by
  unfold BatteryRaised DeviceRun.EmitsAs
  by_cases hdevice : deviceId = ""
  · simp [deviceHealthCheck, deviceRun, hdevice]
  simp only [issues_deviceHealthCheck hdevice, deviceIssues, List.mem_append, List.mem_flatMap,
    offlineIssues, batteryIssues, supplyIssues, statusIssues, staleIssues,
    List.mem_ite_nil_right, List.mem_singleton]
  constructor
  · rintro ⟨eventType, htypes, issue, hissue, rfl, rfl⟩
    rcases hissue with (((⟨-, rfl⟩ | ⟨hraised, rfl⟩) | ⟨-, rfl⟩) | ⟨-, rfl⟩) | ⟨check, -, -, rfl⟩
    · simp at htypes
    · exact ⟨hdevice, hraised, rfl⟩
    all_goals simp at htypes
  · rintro ⟨-, hraised, rfl⟩
    refine ⟨if q.battery < 5 then "critical_battery" else "low_battery", ?_, _,
      Or.inl (Or.inl (Or.inl (Or.inr ⟨hraised, rfl⟩))), rfl, rfl⟩
    by_cases hcritical : q.battery < 5 <;> simp [hcritical]

/-! ## Main theorem -/

/-- Less is a smaller share of the baseline. -/
theorem ratio_lt {today y baseline : ℚ} (hbaseline : 0 < baseline) (hlt : y < today)
    (hratio : today / baseline < 1 / 4) : y / baseline < 1 / 4 :=
  (div_lt_div_of_pos_right hlt hbaseline).trans hratio

theorem batteryRaised_lower {deviceId : String} {q : DeviceAnswers} {severity : String}
    (hraised : BatteryRaised deviceId q severity) {y : ℚ} (hpos : 0 < y) (hlt : y < q.battery) :
    ∃ severity', BatteryRaised deviceId { q with battery := y } severity' ∧
      severityRank severity ≤ severityRank severity' := by
  obtain ⟨hdevice, ⟨-, hlow⟩, rfl⟩ := batteryRaised_iff.mp hraised
  refine ⟨_, batteryRaised_iff.mpr ⟨hdevice, ⟨hpos, hlt.trans hlow⟩, rfl⟩, ?_⟩
  by_cases hcritical : q.battery < 5
  · rw [if_pos hcritical, if_pos (hlt.trans hcritical)]
  · rw [if_neg hcritical]
    show 2 ≤ severityRank (if y < 5 then "critical" else "medium")
    split_ifs <;> decide

/-- **Worse readings.**  An alert that is raised for a reading is raised for every lower one that
is positive, the one about the battery with at least the same severity.  Food or water of
zero, and a temperature of zero or below, raise none of theirs. -/
theorem worseReadings (config : Json) (deviceId : String) :
    (∀ (q : EvaluatorAnswers) (y : ℚ), 0 < q.foodBaseline →
      EvaluatorRaises config deviceId q "abnormal_low_eating" → 0 ≤ y → y < q.foodToday →
        (EvaluatorRaises config deviceId { q with foodToday := y } "abnormal_low_eating" ↔
          0 < y)) ∧
    (∀ (q : EvaluatorAnswers) (y : ℚ), 0 < q.waterBaseline →
      EvaluatorRaises config deviceId q "abnormal_low_drinking" → 0 ≤ y → y < q.waterToday →
        (EvaluatorRaises config deviceId { q with waterToday := y } "abnormal_low_drinking" ↔
          0 < y)) ∧
    (∀ (q : EvaluatorAnswers) (comfort : ComfortRange) (t : ℚ),
      comfortRange config = some comfort → q.avgTemp < comfort.minTemp →
      EvaluatorRaises config deviceId q "environment_discomfort" → t < q.avgTemp →
        (EvaluatorRaises config deviceId { q with avgTemp := t } "environment_discomfort" ↔
          0 < t)) ∧
    ∀ (q : DeviceAnswers) (y : ℚ) (severity : String), BatteryRaised deviceId q severity →
      0 < y → y < q.battery →
        ∃ severity', BatteryRaised deviceId { q with battery := y } severity' ∧
          severityRank severity ≤ severityRank severity' := by
  refine ⟨fun q y hbaseline hraised _ hlt => ?_, fun q y hbaseline hraised _ hlt => ?_,
    fun q comfort t hcomfort hcold hraised hlt => ?_, fun q y severity hraised hpos hlt => ?_⟩
  · obtain ⟨hdevice, -, hratio, -⟩ := raises_lowEating_iff.mp hraised
    rw [raises_lowEating_iff]
    exact ⟨fun h => h.2.2.2, fun hpos => ⟨hdevice, hbaseline, ratio_lt hbaseline hlt hratio, hpos⟩⟩
  · obtain ⟨hdevice, -, hratio, -⟩ := raises_lowDrinking_iff.mp hraised
    rw [raises_lowDrinking_iff]
    exact ⟨fun h => h.2.2.2, fun hpos => ⟨hdevice, hbaseline, ratio_lt hbaseline hlt hratio, hpos⟩⟩
  · obtain ⟨hdevice, -⟩ := raises_discomfort_iff.mp hraised
    rw [raises_discomfort_iff]
    constructor
    · rintro ⟨-, -, hpos, -⟩
      exact hpos
    · intro hpos
      exact ⟨hdevice, comfort, hpos, hcomfort, Or.inl (hlt.trans hcold)⟩
  · exact batteryRaised_lower hraised hpos hlt

/-- Ten and then five grams, with a baseline of a hundred. -/
theorem worseReadings_food : EvaluatorRaises (.obj []) "base-1" ⟨5, 100, 0, 0, 0⟩
    "abnormal_low_eating" :=
  ((worseReadings (.obj []) "base-1").1 ⟨10, 100, 0, 0, 0⟩ 5 (by decide +kernel)
    (raises_lowEating_iff.mpr ⟨by decide, by decide +kernel, by decide +kernel, by decide +kernel⟩)
    (by decide +kernel) (by decide +kernel)).mpr (by decide +kernel)

/-- **Counterexample.**  Ten grams raise the alert, and nothing at all does not. -/
theorem not_worseReadings_nothing :
    EvaluatorRaises (.obj []) "base-1" ⟨10, 100, 0, 0, 0⟩ "abnormal_low_eating" ∧
      ¬ EvaluatorRaises (.obj []) "base-1" ⟨0, 100, 0, 0, 0⟩ "abnormal_low_eating" := by
  rw [raises_lowEating_iff, raises_lowEating_iff]
  decide +kernel

end OroEdge.Jobs
