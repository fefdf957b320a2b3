import OroEdge.Executor.Logger
import OroEdge.Jobs.Summary
import Mathlib.Algebra.BigOperators.Group.List.Basic

/-!
# Treats in the daily summary

The daily summary should count the treats of its day: the rows #125 that the logger has
written for `#85` commands, and the sum of their values (`TreatsCounted`).

The summary tells rows apart by the column `signal_id`, which the logger leaves unset.
So it counts none of them, and the property holds exactly if there is none to count
(`treatsCounted_iff`).

The property compares the summary over a table that has the rows of the logger with the summary
over the table as it was before.  Rows without a number are in none of the aggregates
(`aggregates_append`), and the rows of the logger are such rows (`signalId_of_logged`); so the
two summaries are the same, and they should differ by what has been logged.  They agree exactly
if nothing has been.

What has been logged is described on the side of the commands (`LogsTreat`): a `#85` command of
the device with its event time in the window, whose result can be dumped, leaves a row whatever
else goes wrong (`exists_treat_of_logs`), and there is no other source of such rows.
-/

namespace OroEdge.Executor

open OroEdge.Lib OroEdge.Jobs SignalLogger

/-! ## The property -/

/-- What the logger has written for the commands, each at its time. -/
def loggedRecords (environment : Option String) (runs : List (ℕ × Execution)) : List LogRecord :=
  runs.flatMap fun run => (log environment run.1 run.2).records

/-- The rows #125 of the device in the window. -/
def treatRecords (deviceId : String) (w : Window) (records : List LogRecord) : List LogRecord :=
  records.filter fun record => decide (record.signalId = 125) &&
    (decide (record.deviceId = deviceId) && w.contains (insertSignal record).observedAt)

/-- The aggregates of a summary over the table. -/
def aggregates (deviceId : String) (w : Window) (rows : List SignalRow) : SignalAggregates :=
  aggregateSignals (fetchDailySignals deviceId w rows)

/-- The summary of the window counts what has been logged, beside what was stored before.
`rows` are the rows of the logger, with the ids that the database gives them. -/
def TreatsCounted (deviceId : String) (w : Window) (stored : List SignalRow)
    (records : List LogRecord) : Prop :=
  ∀ rows : List SignalRow, rows.map SignalRow.toSignal = records.map insertSignal →
    (aggregates deviceId w (stored ++ rows)).treatCount =
        (aggregates deviceId w stored).treatCount + (treatRecords deviceId w records).length ∧
      (aggregates deviceId w (stored ++ rows)).treatsG =
        (aggregates deviceId w stored).treatsG +
          ((treatRecords deviceId w records).map fun record => record.numericVal.getD 0).sum

/-- A `#85` command of the device with an event time in the window is logged, with a result
that can be dumped. -/
def LogsTreat (environment : Option String) (deviceId : String) (w : Window) (now : ℕ)
    (e : Execution) : Prop :=
  e.cmd.signalId = 85 ∧ resolveDeviceId environment e.cmd = deviceId ∧
    w.contains (Storage.unixMsToMicros (normalizedEpochMs now e.cmd.eventTime)) = true ∧
    e.cmd.payload.dumps = true ∧ e.result.dumps = true

instance (environment : Option String) (deviceId : String) (w : Window) (now : ℕ) (e : Execution) :
    Decidable (LogsTreat environment deviceId w now e) :=
  inferInstanceAs (Decidable (_ ∧ _ ∧ _ ∧ _ ∧ _))

/-! ## What the logger writes -/

section

variable {environment : Option String} {now : ℕ} {e : Execution} {r : LogRecord}

/-- Rows #125 come from `#85` commands, and carry their device and time. -/
theorem treat_of_mem_log (hr : r ∈ (log environment now e).records) (h125 : r.signalId = 125) :
    e.cmd.signalId = 85 ∧ e.cmd.payload.dumps = true ∧ e.result.dumps = true ∧
      r.deviceId = resolveDeviceId environment e.cmd ∧
      r.observedAt = normalizedEpochMs now e.cmd.eventTime := by
  obtain ⟨h85, hpayload, hdumps, rfl⟩ := mem_log_treat_iff.mp ⟨hr, h125⟩
  exact ⟨h85, hpayload, hdumps, rfl, rfl⟩

theorem exists_treat_of_logs {deviceId : String} {w : Window}
    (hlogs : LogsTreat environment deviceId w now e) :
    ∃ r ∈ (log environment now e).records, r.signalId = 125 ∧ r.deviceId = deviceId ∧
      w.contains (insertSignal r).observedAt = true := by
  obtain ⟨h85, hdevice, hwindow, hpayload, hresult⟩ := hlogs
  obtain ⟨hmem, h125⟩ := mem_log_treat_iff.mpr ⟨h85, hpayload, hresult, rfl⟩
  exact ⟨_, hmem, h125, hdevice, hwindow⟩

end

/-! ## What the summary counts -/

/-- Rows without a number are in none of the aggregates. -/
theorem aggregates_append (deviceId : String) (w : Window) (stored : List SignalRow)
    {rows : List SignalRow} (hrows : ∀ row ∈ rows, row.signalId = none) :
    (aggregates deviceId w (stored ++ rows)).treatCount =
        (aggregates deviceId w stored).treatCount ∧
      (aggregates deviceId w (stored ++ rows)).treatsG = (aggregates deviceId w stored).treatsG := by
  have hfetched : ∀ row ∈ fetchDailySignals deviceId w rows, row.signalId = none :=
    fun row hrow => hrows row (List.mem_filter.mp hrow).1
  have hsplit : fetchDailySignals deviceId w (stored ++ rows) =
      fetchDailySignals deviceId w stored ++ fetchDailySignals deviceId w rows :=
    List.filter_append ..
  unfold aggregates
  rw [hsplit]
  generalize fetchDailySignals deviceId w rows = fetched at hfetched
  generalize fetchDailySignals deviceId w stored = before
  have hcounted : countOf 125 (before ++ fetched) = countOf 125 before := by
    have hnone : fetched.map (fun row => if row.signalId = some 125 then some () else none) =
        fetched.map fun _ => none :=
      List.map_congr_left fun row hrow => by simp [hfetched row hrow]
    unfold countOf Sql.count
    rw [List.map_append, hnone, List.reduceOption_append]
    simp
  have hsummed : (Sql.sum (numericOf 125 (before ++ fetched))).getD 0 =
      (Sql.sum (numericOf 125 before)).getD 0 := by
    have hnone : numericOf 125 fetched = fetched.map fun _ => none :=
      List.map_congr_left fun row hrow => by simp [hfetched row hrow]
    have happend : numericOf 125 (before ++ fetched) =
        numericOf 125 before ++ numericOf 125 fetched := List.map_append ..
    rw [happend, hnone, Sql.sum_getD, Sql.sum_getD]
    simp [List.sum_replicate]
  exact ⟨hcounted, hsummed⟩

/-- Rows of the logger have no number. -/
theorem signalId_of_logged {rows : List SignalRow} {records : List LogRecord}
    (hrows : rows.map SignalRow.toSignal = records.map insertSignal) :
    ∀ row ∈ rows, row.signalId = none := by
  intro row hrow
  have hmem : row.toSignal ∈ records.map insertSignal := by
    rw [← hrows]
    exact List.mem_map_of_mem hrow
  obtain ⟨record, -, hrecord⟩ := List.mem_map.mp hmem
  rw [← hrecord]
  rfl

/-- **Treats in the summary, exactly.**  The summary counts what has been logged if and only
if no treat of its device and day has been logged. -/
theorem treatsCounted_iff (environment : Option String) (deviceId : String) (w : Window)
    (stored : List SignalRow) (runs : List (ℕ × Execution)) :
    TreatsCounted deviceId w stored (loggedRecords environment runs) ↔
      ∀ run ∈ runs, ¬ LogsTreat environment deviceId w run.1 run.2 := by
  have hnone : treatRecords deviceId w (loggedRecords environment runs) = [] ↔
      ∀ run ∈ runs, ¬ LogsTreat environment deviceId w run.1 run.2 := by
    unfold treatRecords
    rw [List.filter_eq_nil_iff]
    constructor
    · intro hnot run hrun hlogs
      obtain ⟨r, hr, h125, hdevice, hwindow⟩ := exists_treat_of_logs hlogs
      exact hnot r (List.mem_flatMap.mpr ⟨run, hrun, hr⟩) (by simp [h125, hdevice, hwindow])
    · intro hnot r hr htreat
      simp only [Bool.and_eq_true, decide_eq_true_eq] at htreat
      obtain ⟨h125, hdevice, hwindow⟩ := htreat
      obtain ⟨run, hrun, hr⟩ := List.mem_flatMap.mp hr
      obtain ⟨h85, hpayload, hresult, hdevice', hobserved⟩ := treat_of_mem_log hr h125
      refine hnot run hrun ⟨h85, hdevice' ▸ hdevice, ?_, hpayload, hresult⟩
      rw [← hobserved]
      exact hwindow
  rw [← hnone]
  constructor
  · intro hcounted
    -- Any ids will do for the rows of the logger.
    have hrows : ((loggedRecords environment runs).map fun r =>
        (⟨insertSignal r, 0⟩ : SignalRow)).map SignalRow.toSignal =
          (loggedRecords environment runs).map insertSignal := by
      simp [Function.comp_def]
    have hlength := (hcounted _ hrows).1
    rw [(aggregates_append deviceId w stored (signalId_of_logged hrows)).1] at hlength
    exact List.length_eq_zero_iff.mp (by omega)
  · intro hnil rows hrows
    obtain ⟨hcount, hsum⟩ := aggregates_append deviceId w stored (signalId_of_logged hrows)
    rw [hcount, hsum, hnil]
    simp

/-! ### Two treats at noon -/

/-- A `#85` command of the device at noon of the first day, which has dispensed two treats. -/
def noonTreat : Execution where
  cmd :=
    { signalId := 85, signalType := "treat_dispense_command", commandId := "cmd-1",
      issuedBy := "owner", eventTime := 43200, payload := .obj [("device_id", .str "oro")] }
  completed := true
  result := .obj [("treats_dispensed", .int 2)]

/-- The first day in UTC. -/
def firstDay : Window := ⟨0, 0, 86400000000⟩

/-- **Failing input.**  On an empty table, the summary of the day does not count the treats
that have been logged for it. -/
theorem not_treatsCounted_noon :
    (treatRecords "oro" firstDay (loggedRecords none [(43200001, noonTreat)])).map
        LogRecord.numericVal = [some 2] ∧
      ¬ TreatsCounted "oro" firstDay [] (loggedRecords none [(43200001, noonTreat)]) := by
  refine ⟨by decide +kernel, fun hcounted => ?_⟩
  have hlength := (hcounted ((loggedRecords none [(43200001, noonTreat)]).map fun r =>
    ⟨insertSignal r, 0⟩) (by simp [Function.comp_def])).1
  revert hlength
  decide +kernel

end OroEdge.Executor
