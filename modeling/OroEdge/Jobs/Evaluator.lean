import OroEdge.Jobs.Care
import OroEdge.Jobs.Device

/-!
# The evaluation of health signals

`health_signal_evaluator` compares what was eaten and drunk today with the means of the
last seven days, and the room temperature with the comfort range of the configuration.
Each insight is an event and a notification, as in the device checks.

`EvaluatorAnswers` holds what the queries return, and `evaluatorAnswers` what they return
on a table.

The queries are kept apart from the job for the same reason as in the device checks: the
comparison with the baseline is a property of the job for whatever the queries return, and what
they return is one of the tables.  A sum over no rows is zero and so is a mean, which the job
takes for no reading.

Numbers are exact rationals, the values of the rows as well as the fractions that the job
compares with.  A comfort range with values of another type makes the job throw; the insights of
the two checks before it have been written then, and stay.
-/

namespace OroEdge.Jobs

open OroEdge.Lib OroEdge.Scheduler

/-! ## The job -/

/-- The results of the queries of one run. -/
structure EvaluatorAnswers where
  foodToday : ℚ
  foodBaseline : ℚ
  waterToday : ℚ
  waterBaseline : ℚ
  avgTemp : ℚ
  deriving DecidableEq, Repr

/-- 1. Food, compared with the baseline. -/
def foodIssues (deviceId : String) (q : EvaluatorAnswers) : List Issue :=
  if 0 < q.foodBaseline then
    let ratio := q.foodToday / q.foodBaseline
    let payload := Json.obj [("baseline", .float q.foodBaseline), ("food_today", .float q.foodToday),
      ("ratio", .float ratio)]
    if ratio < 1 / 4 ∧ 0 < q.foodToday then
      [{ event := ⟨"abnormal_low_eating", "high", "Low Food Intake",
          "Food consumption is significantly below baseline.", payload,
          "STM_LOW_EAT_" ++ deviceId⟩
         notification := ⟨"low_eating_" ++ deviceId, "Low Food Intake Alert",
          "Food consumption is significantly below baseline.", "high", payload,
          "STM_NOTIF_LOW_EAT_" ++ deviceId⟩
         metadata := [] }]
    else if 2 < ratio then
      [{ event := ⟨"abnormal_high_eating", "medium", "High Food Intake",
          "Food consumption is significantly above baseline.", payload,
          "STM_HIGH_EAT_" ++ deviceId⟩
         notification := ⟨"high_eating_" ++ deviceId, "High Food Intake Alert",
          "Food consumption is significantly above baseline.", "medium", payload,
          "STM_NOTIF_HIGH_EAT_" ++ deviceId⟩
         metadata := [] }]
    else []
  else []

/-- 2. Water, compared with the baseline. -/
def waterIssues (deviceId : String) (q : EvaluatorAnswers) : List Issue :=
  if 0 < q.waterBaseline ∧ q.waterToday / q.waterBaseline < 1 / 4 ∧ 0 < q.waterToday then
    let payload := Json.obj [("baseline", .float q.waterBaseline),
      ("water_today", .float q.waterToday)]
    [{ event := ⟨"abnormal_low_drinking", "high", "Low Water Intake",
        "Water consumption is significantly below baseline.", payload,
        "STM_LOW_WATER_" ++ deviceId⟩
       notification := ⟨"low_water_" ++ deviceId, "Low Water Intake Alert",
        "Water consumption is significantly below baseline.", "high", payload,
        "STM_NOTIF_LOW_WATER_" ++ deviceId⟩
       metadata := [] }]
  else []

/-- The temperatures in which a dog is comfortable. -/
structure ComfortRange where
  minTemp : ℚ
  maxTemp : ℚ
  deriving DecidableEq, Repr

/-- The range of the configuration; `none` if its values have another type. -/
def comfortRange (config : Json) : Option ComfortRange :=
  match config.at? ["environment_condition_node", "comfort_thresholds"] with
  | some thresholds => do
      let minTemp ← thresholds.valueAt Json.asDouble ["environment_comfort_range", "min"] 16
      let maxTemp ← thresholds.valueAt Json.asDouble ["environment_comfort_range", "max"] 30
      return ⟨minTemp, maxTemp⟩
  | none => some ⟨16, 30⟩

/-- 3. The comfort range. -/
def comfortIssues (deviceId : String) (q : EvaluatorAnswers) (comfort : ComfortRange) :
    List Issue :=
  if q.avgTemp < comfort.minTemp ∨ comfort.maxTemp < q.avgTemp then
    let payload := Json.obj [("avg_temp", .float q.avgTemp), ("comfort_max", .float comfort.maxTemp),
      ("comfort_min", .float comfort.minTemp)]
    [{ event := ⟨"environment_discomfort", "medium", "Temperature Out of Comfort Range",
        "Room temperature is outside the configured comfort range.", payload,
        "STM_TEMP_" ++ deviceId⟩
       notification := ⟨"temp_discomfort_" ++ deviceId, "Temperature Discomfort Alert",
        "Room temperature is outside the configured comfort range.", "medium", payload,
        "STM_NOTIF_TEMP_" ++ deviceId⟩
       metadata := [] }]
  else []

/-- What the job adds to the metadata. -/
def evaluatorMetadata (q : EvaluatorAnswers) : List (String × Json) :=
  (if 0 < q.foodBaseline then
    [("food_today_grams", .float q.foodToday), ("food_baseline_grams", .float q.foodBaseline),
      ("food_ratio", .float (q.foodToday / q.foodBaseline))]
  else []) ++
  (if 0 < q.waterBaseline then
    [("water_today_ml", .float q.waterToday), ("water_baseline_ml", .float q.waterBaseline)]
  else []) ++
  if 0 < q.avgTemp then [("avg_temperature", .float q.avgTemp)] else []

/-- What the job writes, and what it returns; `none` if it throws. -/
structure EvaluatorRun where
  issues : List Issue
  result : Option JobResult
  deriving Repr

/-- `health_signal_evaluator`: food, water and the temperature are compared with what is usual. -/
def healthSignalEvaluator (config : Json) (deviceId : String) (q : EvaluatorAnswers) :
    EvaluatorRun :=
  if deviceId = "" then ⟨[], some ⟨false, 0, "No device_id", []⟩⟩
  else
    let intake := foodIssues deviceId q ++ waterIssues deviceId q
    if 0 < q.avgTemp then
      match comfortRange config with
      | some comfort =>
          let issues := intake ++ comfortIssues deviceId q comfort
          ⟨issues, some ⟨true, issues.length, "", evaluatorMetadata q⟩⟩
      | none => ⟨intake, none⟩
    else ⟨intake, some ⟨true, intake.length, "", evaluatorMetadata q⟩⟩

/-! ## The queries -/

/-- Midnight at the start of a day of the session. -/
def midnight (zone : Zone) (day : ℤ) : ℤ := zone.toUtc (day * dayMicros)

/-- The numeric values of a type of the device, of the rows that meet `keep`. -/
def valuesWhere (deviceId signalType : String) (keep : ℤ → Bool) (rows : List Signal) :
    List (Option ℚ) :=
  ((signalsOf deviceId signalType rows).filter fun row => keep row.observedAt).map
    Signal.valueNumeric

/-- `stm_health_food_today` and `stm_health_water_today`. -/
def totalToday (zone : Zone) (today : ℤ) (deviceId signalType : String) (rows : List Signal) : ℚ :=
  (Sql.sum (valuesWhere deviceId signalType (fun t => decide (midnight zone today ≤ t)) rows)).getD 0

/-- The days of the rows that the baseline counts. -/
def baselineDays (zone : Zone) (today : ℤ) (deviceId signalType : String) (rows : List Signal) :
    List ℤ :=
  (((signalsOf deviceId signalType rows).filter fun row =>
    decide (midnight zone (today - 7) ≤ row.observedAt) &&
      decide (row.observedAt < midnight zone today)).map fun row =>
        dayOf (zone.toLocal row.observedAt)).dedup

/-- `stm_health_food_baseline` and `stm_health_water_baseline`. -/
def baseline (zone : Zone) (today : ℤ) (deviceId signalType : String) (rows : List Signal) : ℚ :=
  (Sql.avg ((baselineDays zone today deviceId signalType rows).map fun day =>
    Sql.sum (valuesWhere deviceId signalType (fun t => decide (midnight zone (today - 7) ≤ t) &&
      decide (t < midnight zone today) && decide (dayOf (zone.toLocal t) = day)) rows))).getD 0

/-- `stm_health_avg_temp`. -/
def avgTemp (now : ℤ) (deviceId : String) (rows : List Signal) : ℚ :=
  (Sql.avg (valuesWhere deviceId "ambient_temperature"
    (fun t => decide (now - 30 * minuteMicros ≤ t)) rows)).getD 0

/-- What the queries return on the table at the time `now`. -/
def evaluatorAnswers (zone : Zone) (now : ℤ) (deviceId : String) (rows : List Signal) :
    EvaluatorAnswers where
  foodToday := totalToday zone (dayOf (zone.toLocal now)) deviceId "food_consumption_grams" rows
  foodBaseline := baseline zone (dayOf (zone.toLocal now)) deviceId "food_consumption_grams" rows
  waterToday := totalToday zone (dayOf (zone.toLocal now)) deviceId "water_consumption_ml" rows
  waterBaseline := baseline zone (dayOf (zone.toLocal now)) deviceId "water_consumption_ml" rows
  avgTemp := avgTemp now deviceId rows

end OroEdge.Jobs
