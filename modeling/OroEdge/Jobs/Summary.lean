import OroEdge.Tables
import OroEdge.Lib.Calendar

/-!
# The daily pet summary

The statements of `daily_pet_summary_generator`: the period window, the
existence check, the aggregates over signals and events, and the insert.

A `SummaryRow` keeps, beside its columns, the rows its signal aggregates were
computed from (`source`; `none` when the aggregate query failed).  They are not
stored by the code; `payload_source` ties them to the payload that is.

An aggregate over no rows is a null for a sum and a zero for a count, and the two go different
ways into the payload; so the columns are options where SQL can return a null.  A window is a
pair of instants, computed in the zone of the configuration by the library's calendar, and the
day of a summary is kept beside it, because the unique index is on the local date and not on the
instants.

Events are counted by a loop of the job and not by SQL, one counter for each type that it knows;
an event of another type is in none of them.
-/

namespace OroEdge.Jobs

open OroEdge.Lib

/-! ## Period windows -/

/-- The day of a summary, in UTC. -/
structure Window where
  periodDate : ℤ
  periodStartUtc : ℤ
  periodEndUtc : ℤ
  deriving DecidableEq, Repr

/-- `stm_compute_window_for_date`. -/
def computeWindowForDate (zone : Zone) (date : ℤ) : Window where
  periodDate := date
  periodStartUtc := zone.toUtc (date * dayMicros)
  periodEndUtc := zone.toUtc ((date + 1) * dayMicros)

/-- `stm_compute_daily_window`: the window of the local day of `NOW()`. -/
def computeDailyWindow (zone : Zone) (now : ℤ) : Window :=
  computeWindowForDate zone (dayOf (zone.toLocal now))

/-- `t >= period_start AND t < period_end`. -/
def Window.contains (w : Window) (t : ℤ) : Bool :=
  decide (w.periodStartUtc ≤ t) && decide (t < w.periodEndUtc)

/-! ## Aggregates -/

/-- The columns of `stm_fetch_daily_signals`. -/
structure SignalAggregates where
  tempAvg : Option ℚ
  tempMin : Option ℚ
  tempMax : Option ℚ
  humidityAvg : Option ℚ
  lightAvg : Option ℚ
  lightMin : Option ℚ
  lightMax : Option ℚ
  batteryMin : Option ℚ
  foodServedG : ℚ
  mealCount : ℕ
  treatsG : ℚ
  treatCount : ℕ
  heartbeatCount : ℕ
  deriving DecidableEq, Repr

/-- `CASE WHEN signal_id = n THEN signal_value_numeric END`. -/
def numericOf (n : ℤ) (rows : List SignalRow) : List (Option ℚ) :=
  rows.map fun row => if row.signalId = some n then row.valueNumeric else none

/-- `COUNT(CASE WHEN signal_id = n THEN 1 END)`. -/
def countOf (n : ℤ) (rows : List SignalRow) : ℕ :=
  Sql.count (rows.map fun row => if row.signalId = some n then some () else none)

/-- `stm_fetch_daily_signals`: what is made of the rows of a day. -/
def aggregateSignals (rows : List SignalRow) : SignalAggregates where
  tempAvg := Sql.avg (numericOf 46 rows)
  tempMin := Sql.min (numericOf 46 rows)
  tempMax := Sql.max (numericOf 46 rows)
  humidityAvg := Sql.avg (numericOf 48 rows)
  lightAvg := Sql.avg (numericOf 47 rows)
  lightMin := Sql.min (numericOf 47 rows)
  lightMax := Sql.max (numericOf 47 rows)
  batteryMin := Sql.min (numericOf 73 rows)
  foodServedG := (Sql.sum (numericOf 117 rows)).getD 0
  mealCount := countOf 117 rows
  treatsG := (Sql.sum (numericOf 125 rows)).getD 0
  treatCount := countOf 125 rows
  heartbeatCount := countOf 71 rows

/-- The `WHERE` clause of `stm_fetch_daily_signals`. -/
def inDailyFetch (deviceId : String) (w : Window) (row : SignalRow) : Bool :=
  decide (row.deviceId = deviceId) && w.contains row.observedAt

/-- The rows `stm_fetch_daily_signals` aggregates. -/
def fetchDailySignals (deviceId : String) (w : Window) (signals : List SignalRow) :
    List SignalRow :=
  signals.filter (inDailyFetch deviceId w)

/-- The rows of `stm_fetch_daily_events`. -/
def fetchDailyEvents (deviceId : String) (w : Window) (events : List EventRow) :
    List EventRow :=
  events.filter fun row => decide (row.deviceId = deviceId) && w.contains row.detectedAt

/-- The counters of the event loop. -/
structure EventCounts where
  highSeverityEventCount : ℕ
  feedingOverdueCount : ℕ
  deviceOfflineCount : ℕ
  staleSensorCount : ℕ
  supplyAlertCount : ℕ
  deriving DecidableEq, Repr

/-- The counters of the events of a day. -/
def countEvents (rows : List EventRow) : EventCounts where
  highSeverityEventCount := rows.countP fun row =>
    row.severity.getD "" = "high" || row.severity.getD "" = "critical"
  feedingOverdueCount := rows.countP fun row => row.eventType = "feeding_overdue"
  deviceOfflineCount := rows.countP fun row => row.eventType = "device_offline"
  staleSensorCount := rows.countP fun row => row.eventType = "sensor_data_stale"
  supplyAlertCount := rows.countP fun row => row.eventType = "low_supply"

/-- The JSON payload; the signal keys are missing when the aggregate query gave
no row. -/
structure DailyPayload where
  signals : Option SignalAggregates
  events : EventCounts
  deriving DecidableEq, Repr

/-! ## Summary rows -/

/-- A row of `oro_base_summary`, with the signal rows it was computed from. -/
structure SummaryRow where
  deviceId : String
  summaryType : String
  periodStart : ℤ
  periodEnd : ℤ
  summaryDate : ℤ
  status : String
  payload : DailyPayload
  source : Option (List SignalRow)
  payload_source : payload.signals = source.map aggregateSignals

/-- The row counted by `stm_check_summary_exists` for a daily summary; it is also
the key of `uix_summary_device_type_date`. -/
def SummaryRow.isDaily (deviceId : String) (date : ℤ) (row : SummaryRow) : Bool :=
  decide (row.deviceId = deviceId) && decide (row.summaryType = "daily") &&
    decide (row.summaryDate = date)

/-- The row was among those the summary's aggregates were computed from. -/
def SummaryRow.Counted (sum : SummaryRow) (row : SignalRow) : Prop :=
  ∃ rows ∈ sum.source, row ∈ rows

instance (sum : SummaryRow) (row : SignalRow) : Decidable (sum.Counted row) := by
  unfold SummaryRow.Counted
  infer_instance

/-- The row that the generator inserts. -/
def dailySummary (deviceId : String) (w : Window) (sig : Option (List SignalRow))
    (ev : List EventRow) : SummaryRow where
  deviceId := deviceId
  summaryType := "daily"
  periodStart := w.periodStartUtc
  periodEnd := w.periodEndUtc
  summaryDate := w.periodDate
  status := "generated"
  payload := ⟨sig.map aggregateSignals, countEvents ev⟩
  source := sig
  payload_source := rfl

theorem SummaryRow.isDaily_iff {deviceId : String} {date : ℤ} {row : SummaryRow} :
    row.isDaily deviceId date ↔
      row.deviceId = deviceId ∧ row.summaryType = "daily" ∧ row.summaryDate = date := by
  simp [SummaryRow.isDaily, and_assoc]

end OroEdge.Jobs
