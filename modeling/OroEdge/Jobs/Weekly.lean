import OroEdge.Jobs.Pipeline
import OroEdge.Lib.Json
import Mathlib.Data.List.Sort

/-!
# The weekly pet summary

`weekly_pet_summary_generator` adds up the payloads of the daily summaries of the seven days
before today.  The payloads are stored as JSON: the daily generator leaves out what is
`NULL`, and the weekly one takes a missing key for zero.

Here a run of a generator is one action, with a database that works; the statements of the
daily run are those of its resumable form (`resume_daily`).  Numbers are exact: counts do
not overflow.  The titles, the dog and the references to the sources are left out.

The payload is written as a list of assignments in the order of the source, from which the JSON
object is made, so that a key that is assigned twice has its last value and a key that is left
out is missing in the text too.  The loop over the days reads each payload as the C++ does: a
key that is missing or null adds nothing, and one of another type is an exception that ends the
run.

`resume_daily` connects the one-action run of this module with the resumable one: if nothing
comes between its statements, they write the same row.
-/

namespace OroEdge.Jobs

open OroEdge.Lib

/-! ## The payload of a daily summary -/

/-- `set_nullable`. -/
def nullable (key : String) (value : Option ℚ) : List (String × Json) :=
  value.toList.map fun q => (key, .float q)

/-- The assignments of the row of `stm_fetch_daily_signals`. -/
def SignalAggregates.updates (row : SignalAggregates) : List (String × Json) :=
  nullable "temperature_avg_c" row.tempAvg ++ nullable "temperature_min_c" row.tempMin ++
  nullable "temperature_max_c" row.tempMax ++ nullable "humidity_avg_pct" row.humidityAvg ++
  nullable "light_avg_lux" row.lightAvg ++ nullable "light_min_lux" row.lightMin ++
  nullable "light_max_lux" row.lightMax ++ nullable "battery_min_pct" row.batteryMin ++
  [("food_served_g", .float row.foodServedG), ("meal_count", .int row.mealCount),
    ("treats_dispensed_g", .float row.treatsG), ("treat_count", .int row.treatCount),
    ("heartbeat_count", .int row.heartbeatCount)]

/-- The counters, as fields of the payload. -/
def EventCounts.updates (counts : EventCounts) : List (String × Json) :=
  [("high_severity_event_count", .int counts.highSeverityEventCount),
    ("feeding_overdue_count", .int counts.feedingOverdueCount),
    ("device_offline_count", .int counts.deviceOfflineCount),
    ("stale_sensor_count", .int counts.staleSensorCount),
    ("supply_alert_count", .int counts.supplyAlertCount)]

/-- The assignments to the payload, in their order. -/
def DailyPayload.updates (payload : DailyPayload) : List (String × Json) :=
  (payload.signals.map SignalAggregates.updates).getD [] ++ payload.events.updates

/-- The payload as it is stored. -/
def DailyPayload.json (payload : DailyPayload) : Json := Json.ofFields payload.updates

/-! ## The weekly window -/

/-- The columns of `stm_compute_weekly_window`. -/
structure WeeklyWindow where
  weekStartDate : ℤ
  weekEndDate : ℤ
  weekStartUtc : ℤ
  weekEndUtc : ℤ
  deriving DecidableEq, Repr

/-- `stm_compute_weekly_window`: the seven days before today, in the local zone. -/
def computeWeeklyWindow (zone : Zone) (now : ℤ) : WeeklyWindow where
  weekStartDate := dayOf (zone.toLocal now) - 7
  weekEndDate := dayOf (zone.toLocal now)
  weekStartUtc := zone.toUtc ((dayOf (zone.toLocal now) - 7) * dayMicros)
  weekEndUtc := zone.toUtc (dayOf (zone.toLocal now) * dayMicros)

/-! ## Adding up the days -/

/-- What is added up over the days. -/
structure WeeklySums where
  daysWithData : ℕ
  totalFoodG : ℚ
  totalTreatsG : ℚ
  totalMeals : ℤ
  totalTreats : ℤ
  totalHighEv : ℤ
  totalOverdue : ℤ
  totalOffline : ℤ
  sumTemp : ℚ
  sumBattery : ℚ
  deriving DecidableEq, Repr

def WeeklySums.zero : WeeklySums := ⟨0, 0, 0, 0, 0, 0, 0, 0, 0, 0⟩

/-- `get<int>()` of a count, which is not cut to 32 bits. -/
def asCount : Json → Option ℤ
  | .int n => some n
  | .float q => some (truncated q)
  | .bool b => some (if b then 1 else 0)
  | _ => none

/-- `p.contains(key) && !p[key].is_null()`, and then the number; zero otherwise. -/
def presentDouble (p : Json) (key : String) : Option ℚ :=
  match p.get? key with
  | none => some 0
  | some .null => some 0
  | some inner => inner.asDouble

/-- A turn of the loop; an exception is `none`.  A payload that is null or no JSON (`none`) is
passed over. -/
def addDay (sums : WeeklySums) : Option Json → Option WeeklySums
  | none => some sums
  | some p => do
      let food ← p.value Json.asDouble "food_served_g" 0
      let treats ← p.value Json.asDouble "treats_dispensed_g" 0
      let meals ← p.value asCount "meal_count" 0
      let treatCount ← p.value asCount "treat_count" 0
      let highEv ← p.value asCount "high_severity_event_count" 0
      let overdue ← p.value asCount "feeding_overdue_count" 0
      let offline ← p.value asCount "device_offline_count" 0
      let temp ← presentDouble p "temperature_avg_c"
      let battery ← presentDouble p "battery_min_pct"
      return {
        daysWithData := sums.daysWithData + 1
        totalFoodG := sums.totalFoodG + food
        totalTreatsG := sums.totalTreatsG + treats
        totalMeals := sums.totalMeals + meals
        totalTreats := sums.totalTreats + treatCount
        totalHighEv := sums.totalHighEv + highEv
        totalOverdue := sums.totalOverdue + overdue
        totalOffline := sums.totalOffline + offline
        sumTemp := sums.sumTemp + temp
        sumBattery := sums.sumBattery + battery }

/-- The loop over the daily rows. -/
def addDays : WeeklySums → List (Option Json) → Option WeeklySums
  | sums, [] => some sums
  | sums, payload :: rest => (addDay sums payload).bind fun sums => addDays sums rest

/-- The assignments to the weekly payload. -/
def weeklyUpdates (dailyCount : ℕ) (sums : WeeklySums) : List (String × Json) :=
  [("daily_summaries_count", .int dailyCount), ("days_with_data", .int sums.daysWithData),
    ("food_served_g_weekly_total", .float sums.totalFoodG),
    ("treats_dispensed_g_weekly_total", .float sums.totalTreatsG),
    ("total_meal_count", .int sums.totalMeals), ("total_treat_count", .int sums.totalTreats),
    ("total_high_severity_events", .int sums.totalHighEv),
    ("total_feeding_overdue_count", .int sums.totalOverdue),
    ("total_device_offline_count", .int sums.totalOffline)] ++
  if 0 < sums.daysWithData then
    [("avg_temperature_avg_c", .float (sums.sumTemp / sums.daysWithData)),
      ("avg_battery_min_pct", .float (sums.sumBattery / sums.daysWithData))]
  else []

def weeklyPayload (dailyCount : ℕ) (sums : WeeklySums) : Json :=
  Json.ofFields (weeklyUpdates dailyCount sums)

/-! ## The tables -/

/-- A weekly row of `oro_base_summary`. -/
structure WeeklyRow where
  deviceId : String
  periodStart : ℤ
  periodEnd : ℤ
  summaryDate : ℤ
  payload : Json

/-- The row is that of this device and week. -/
def WeeklyRow.isFor (deviceId : String) (date : ℤ) (row : WeeklyRow) : Bool :=
  decide (row.deviceId = deviceId) && decide (row.summaryDate = date)

/-- The rows of `oro_base_summary`, those of either type by themselves.  The unique index
`uix_summary_device_type_date` holds. -/
structure SummaryTable where
  daily : List SummaryRow
  weekly : List WeeklyRow
  daily_type : ∀ row ∈ daily, row.summaryType = "daily"
  daily_unique : (daily.map fun row => (row.deviceId, row.summaryDate)).Nodup
  weekly_unique : (weekly.map fun row => (row.deviceId, row.summaryDate)).Nodup

namespace SummaryTable

def empty : SummaryTable where
  daily := []
  weekly := []
  daily_type row hrow := by cases hrow
  daily_unique := List.nodup_nil
  weekly_unique := List.nodup_nil

/-- `stm_check_summary_exists`. -/
def hasDaily (t : SummaryTable) (deviceId : String) (date : ℤ) : Bool :=
  t.daily.any fun row => row.isDaily deviceId date

/-- `stm_check_summary_exists` for a week. -/
def hasWeekly (t : SummaryTable) (deviceId : String) (date : ℤ) : Bool :=
  t.weekly.any (WeeklyRow.isFor deviceId date)

theorem hasDaily_iff {t : SummaryTable} {deviceId : String} {date : ℤ} :
    t.hasDaily deviceId date = true ↔
      ∃ row ∈ t.daily, row.deviceId = deviceId ∧ row.summaryDate = date := by
  unfold hasDaily
  rw [List.any_eq_true]
  constructor
  · rintro ⟨row, hrow, hdaily⟩
    obtain ⟨hdevice, -, hdate⟩ := SummaryRow.isDaily_iff.mp hdaily
    exact ⟨row, hrow, hdevice, hdate⟩
  · rintro ⟨row, hrow, hdevice, hdate⟩
    exact ⟨row, hrow, SummaryRow.isDaily_iff.mpr ⟨hdevice, t.daily_type row hrow, hdate⟩⟩

theorem hasWeekly_iff {t : SummaryTable} {deviceId : String} {date : ℤ} :
    t.hasWeekly deviceId date = true ↔
      ∃ row ∈ t.weekly, row.deviceId = deviceId ∧ row.summaryDate = date := by
  simp [hasWeekly, WeeklyRow.isFor]

/-- A key that is not there can be added. -/
theorem nodup_append_key {Row : Type*} {key : Row → String × ℤ} {rows : List Row} {row : Row}
    (hunique : (rows.map key).Nodup) (hnew : ∀ other ∈ rows, key other ≠ key row) :
    ((rows ++ [row]).map key).Nodup := by
  rw [List.map_append, List.map_singleton, List.nodup_append]
  refine ⟨hunique, List.nodup_singleton _, fun k hk k' hk' => ?_⟩
  obtain ⟨other, hother, rfl⟩ := List.mem_map.mp hk
  rw [List.mem_singleton.mp hk']
  exact hnew other hother

/-- `stm_insert_summary` of a daily row. -/
def insertDaily (t : SummaryTable) (row : SummaryRow) (htype : row.summaryType = "daily") :
    SummaryTable :=
  if hfound : t.hasDaily row.deviceId row.summaryDate then t
  else
    { t with
      daily := t.daily ++ [row]
      daily_type := by
        intro other hother
        rcases List.mem_append.mp hother with hother | hother
        · exact t.daily_type other hother
        · rw [List.mem_singleton.mp hother]
          exact htype
      daily_unique := nodup_append_key t.daily_unique fun other hother hsame =>
        hfound (hasDaily_iff.mpr
          ⟨other, hother, congrArg Prod.fst hsame, congrArg Prod.snd hsame⟩) }

/-- `stm_insert_summary` of a weekly row. -/
def insertWeekly (t : SummaryTable) (row : WeeklyRow) : SummaryTable :=
  if hfound : t.hasWeekly row.deviceId row.summaryDate then t
  else
    { t with
      weekly := t.weekly ++ [row]
      weekly_unique := nodup_append_key t.weekly_unique fun other hother hsame =>
        hfound (hasWeekly_iff.mpr
          ⟨other, hother, congrArg Prod.fst hsame, congrArg Prod.snd hsame⟩) }

theorem daily_insertDaily {t : SummaryTable} {row : SummaryRow} (htype : row.summaryType = "daily")
    (hnew : t.hasDaily row.deviceId row.summaryDate = false) :
    (t.insertDaily row htype).daily = t.daily ++ [row] := by
  rw [insertDaily, dif_neg (by rw [hnew]; exact Bool.false_ne_true)]

theorem weekly_insertWeekly {t : SummaryTable} {row : WeeklyRow}
    (hnew : t.hasWeekly row.deviceId row.summaryDate = false) :
    (t.insertWeekly row).weekly = t.weekly ++ [row] := by
  rw [insertWeekly, dif_neg (by rw [hnew]; exact Bool.false_ne_true)]

/-- `stm_fetch_week_daily_summaries`. -/
def fetchWeek (t : SummaryTable) (deviceId : String) (weekStart weekEnd : ℤ) : List SummaryRow :=
  (t.daily.filter fun row => decide (row.deviceId = deviceId) &&
    decide (row.summaryType = "daily") && (decide (weekStart ≤ row.summaryDate) &&
      decide (row.summaryDate < weekEnd))).insertionSort fun a b => a.summaryDate ≤ b.summaryDate

end SummaryTable

/-- The tables that the two generators read and write. -/
structure SummaryDb where
  signals : List SignalRow
  events : List EventRow
  summaries : SummaryTable

/-! ## The generators -/

theorem summaryType_dailySummary (deviceId : String) (w : Window) (sig : Option (List SignalRow))
    (ev : List EventRow) : (dailySummary deviceId w sig ev).summaryType = "daily" := rfl

/-- `daily_pet_summary_generator`, in its period window. -/
def dailyPetSummaryGenerator (deviceId : String) (w : Window) (db : SummaryDb) : SummaryDb :=
  if deviceId = "" then db
  else if db.summaries.hasDaily deviceId w.periodDate then db
  else
    { db with
      summaries := db.summaries.insertDaily (dailySummary deviceId w
        (some (fetchDailySignals deviceId w db.signals)) (fetchDailyEvents deviceId w db.events))
        (summaryType_dailySummary _ _ _ _) }

/-- The daily payloads of the week, added up. -/
def weekSums (deviceId : String) (w : WeeklyWindow) (t : SummaryTable) : Option WeeklySums :=
  addDays .zero ((t.fetchWeek deviceId w.weekStartDate w.weekEndDate).map fun row =>
    some row.payload.json)

/-- `weekly_pet_summary_generator`, in its window. -/
def weeklyPetSummaryGenerator (deviceId : String) (w : WeeklyWindow) (db : SummaryDb) : SummaryDb :=
  if deviceId = "" then db
  else if db.summaries.hasWeekly deviceId w.weekStartDate then db
  else if (db.summaries.fetchWeek deviceId w.weekStartDate w.weekEndDate).length = 0 then db
  else
    match weekSums deviceId w db.summaries with
    | none => db
    | some sums =>
        { db with
          summaries := db.summaries.insertWeekly
            { deviceId := deviceId
              periodStart := w.weekStartUtc
              periodEnd := w.weekEndUtc
              summaryDate := w.weekStartDate
              payload := weeklyPayload
                (db.summaries.fetchWeek deviceId w.weekStartDate w.weekEndDate).length sums } }

namespace SummaryDb

/-- The nodes insert rows, cleanups delete some, and the generators run. -/
inductive Action
  | insertSignal (row : SignalRow)
  | insertEvent (row : EventRow)
  | deleteSignals (keep : SignalRow → Bool)
  | deleteEvents (keep : EventRow → Bool)
  | daily (deviceId : String) (zone : Zone) (runDate : Option ℤ) (now : ℤ)
  | weekly (deviceId : String) (zone : Zone) (now : ℤ)

/-- A generator runs as a whole. -/
def step (db : SummaryDb) : Action → SummaryDb
  | .insertSignal row => { db with signals := db.signals ++ [row] }
  | .insertEvent row => { db with events := db.events ++ [row] }
  | .deleteSignals keep => { db with signals := db.signals.filter keep }
  | .deleteEvents keep => { db with events := db.events.filter keep }
  | .daily deviceId zone runDate now =>
      dailyPetSummaryGenerator deviceId (runWindow zone runDate now) db
  | .weekly deviceId zone now =>
      weeklyPetSummaryGenerator deviceId (computeWeeklyWindow zone now) db

end SummaryDb

/-! ## The resumable form of the daily run -/

/-- The run that was started last executes its next statement. -/
theorem step_resume_last (db : Db) (runs : List DailyRun) (r : DailyRun) :
    step { db with runs := runs ++ [r] } (.resume runs.length true) =
      { db with
        summaries := nextSummaries db.summaries r true
        runs := runs ++
          (nextStage db r true).toList.map fun stage => { r with stage := stage } } := by
  have hrun : (runs ++ [r])[runs.length]? = some r := by simp
  simp only [step, hrun, moveRun, replaceAt_last]
  rfl

/-- There is no run left to resume. -/
theorem step_resume_length (db : Db) : step db (.resume db.runs.length true) = db := by
  simp [step]

/-- The statements of a resumable run, one after the other, write what the run writes. -/
theorem resume_daily {db : Db} {t : SummaryTable} (hsame : t.daily = db.summaries)
    {deviceId : String} (hdevice : deviceId ≠ "") (zone : Zone) (runDate : Option ℤ) (now : ℤ) :
    (run step db (.startDaily deviceId zone runDate now ::
        List.replicate 4 (.resume db.runs.length true))).summaries =
      (dailyPetSummaryGenerator deviceId (runWindow zone runDate now)
        ⟨db.signals, db.events, t⟩).summaries.daily := by
  have hstart : step db (.startDaily deviceId zone runDate now) =
      { db with runs := db.runs ++ [⟨deviceId, runWindow zone runDate now, .windowed⟩] } :=
    if_neg hdevice
  rw [run_cons, hstart]
  generalize runWindow zone runDate now = w
  simp only [List.replicate_succ, List.replicate_zero, run_cons, run_nil]
  have hcheck : t.hasDaily deviceId w.periodDate =
      db.summaries.any fun sum => sum.isDaily deviceId w.periodDate := by
    rw [← hsame]
    rfl
  unfold dailyPetSummaryGenerator
  rw [if_neg hdevice]
  cases hfound : t.hasDaily deviceId w.periodDate with
  | true =>
      -- the check ends the run
      rw [step_resume_last]
      rw [hfound] at hcheck
      simp [nextStage, nextSummaries, ← hcheck, step_resume_length, hsame]
  | false =>
      rw [hfound] at hcheck
      have hnew : db.summaries.any (fun sum => sum.isDaily deviceId w.periodDate) = false :=
        hcheck.symm
      simp only [step_resume_last, nextStage, nextSummaries, hnew, Bool.and_false, if_true,
        Bool.false_eq_true, if_false, Option.toList_some, List.map_cons, List.map_nil]
      rw [SummaryTable.daily_insertDaily _ hfound, hsame]
      exact if_neg (ne_true_of_eq_false hnew)

end OroEdge.Jobs
