import OroEdge.Jobs.Summary

/-!
# Data cleanup

The two statements of `data_cleanup` that prune raw telemetry.  A row is
disposable when its time lies in the period of a generated daily summary of its
device, or when it is older than `retention_days`; of the signals, the five
latest rows of each (device, signal number) are kept in any case.

`ROW_NUMBER` leaves the order of rows of one time to the engine, so the statement is given the
order in which the rows have been ranked, as an argument; a theorem about a cleanup holds for
every order by time.  The rows of a device without a signal number are one partition, as SQL
takes nulls together there.  The files and the other tables of the job are in
`OroEdge.Jobs.DataCleanup`, as no property of a summary needs them.
-/

namespace OroEdge.Jobs

open OroEdge.Lib

/-- `NOW() - ($1 || ' days')::interval`. -/
def retentionCutoff (now retentionDays : ℤ) : ℤ := now - retentionDays * dayMicros

/-- A generated daily summary of the device whose period contains the instant. -/
def SummaryRow.covers (sum : SummaryRow) (deviceId : String) (instant : ℤ) : Bool :=
  decide (sum.deviceId = deviceId) && decide (sum.summaryType = "daily") &&
    decide (sum.status = "generated") && decide (sum.periodStart ≤ instant) &&
    decide (instant < sum.periodEnd)

/-- Either gate of the cleanup statements. -/
def disposable (summaries : List SummaryRow) (deviceId : String) (instant now retentionDays : ℤ) :
    Bool :=
  summaries.any (fun sum => sum.covers deviceId instant) ||
    decide (instant < retentionCutoff now retentionDays)

/-- The ids protected by `ROW_NUMBER() OVER (PARTITION BY device_id, signal_id ORDER
BY observed_at DESC) <= 5`, for the order in which the engine ranks the rows. -/
def latestFiveIds (ranked : List SignalRow) : List ℕ :=
  ((Sql.rowNumbers (fun row : SignalRow => (row.deviceId, row.signalId)) [] ranked).filter
    fun numbered => numbered.2 ≤ 5).map fun numbered => numbered.1.id

/-- The rows `stm_cleanup_signals` deletes. -/
def cleanupDeletes (ranked : List SignalRow) (summaries : List SummaryRow)
    (now retentionDays : ℤ) (row : SignalRow) : Bool :=
  disposable summaries row.deviceId row.observedAt now retentionDays &&
    !(latestFiveIds ranked).contains row.id

/-- `stm_cleanup_signals`. -/
def cleanupSignals (ranked : List SignalRow) (summaries : List SummaryRow)
    (now retentionDays : ℤ) (signals : List SignalRow) : List SignalRow :=
  signals.filter fun row => !cleanupDeletes ranked summaries now retentionDays row

/-- `stm_cleanup_events`. -/
def cleanupEvents (summaries : List SummaryRow) (now retentionDays : ℤ)
    (events : List EventRow) : List EventRow :=
  events.filter fun row => !disposable summaries row.deviceId row.detectedAt now retentionDays

theorem SummaryRow.covers_iff {sum : SummaryRow} {deviceId : String} {instant : ℤ} :
    sum.covers deviceId instant ↔ sum.deviceId = deviceId ∧ sum.summaryType = "daily" ∧
      sum.status = "generated" ∧ sum.periodStart ≤ instant ∧ instant < sum.periodEnd := by
  simp [SummaryRow.covers, and_assoc]

/-- A deleted row passed one of the two gates. -/
theorem disposable_of_deleted {ranked signals : List SignalRow} {summaries : List SummaryRow}
    {now retentionDays : ℤ} {row : SignalRow} (hrow : row ∈ signals)
    (hgone : row ∉ cleanupSignals ranked summaries now retentionDays signals) :
    (∃ sum ∈ summaries, sum.covers row.deviceId row.observedAt) ∨
      row.observedAt < retentionCutoff now retentionDays := by
  have hdeletes : cleanupDeletes ranked summaries now retentionDays row = true := by
    by_contra hkeep
    exact hgone (List.mem_filter.mpr ⟨hrow, by simpa using hkeep⟩)
  simp only [cleanupDeletes, disposable, Bool.and_eq_true, Bool.or_eq_true, List.any_eq_true,
    decide_eq_true_eq] at hdeletes
  exact hdeletes.1

end OroEdge.Jobs
