import OroEdge.Jobs.Cleanup
import OroEdge.Lib.Pool
import OroEdge.Lib.Run

/-!
# Signals, summaries and cleanup, interleaved

The tables `oro_base_signals`, `oro_base_events` and `oro_base_summary` are
shared by the nodes that insert signals, by runs of `daily_pet_summary_generator`
and by runs of `data_cleanup`.  Each SQL statement is one atomic action, so a run
of the generator is a process that is resumed once for each of its statements:

```text
windowed       the period is computed; next, stm_check_summary_exists
unsummarised   no row for the date; next, stm_fetch_daily_signals
aggregated     the signals are read; next, stm_fetch_daily_events
collected      the events are read; next, stm_insert_summary
```

Actions happen in any order and at any times.  A statement that fails (`ok =
false`) gives the generator an empty result, and the generator goes on with it.

`DailyRun` holds what a run has read, so that its statements can be far apart, and a ghost field
of the stored row remembers it.  Every fact that the other modules use of `step` is in the
second part, as a statement of what one action can change: a row or a run after it was there
before, or is the one that the action is about.  The invariants of `Retention`, `DailyCoverage`,
`LatestKept` and `Snapshots` are proved from these, with one case for each way in.
-/

namespace OroEdge.Jobs

open OroEdge.Lib

/-- How far a run of the generator has come. -/
inductive Stage
  | windowed
  | unsummarised
  | aggregated (sig : Option (List SignalRow))
  | collected (sig : Option (List SignalRow)) (ev : List EventRow)
  deriving DecidableEq, Repr

/-- What a run has read as its signals, once it has executed that statement. -/
def Stage.read : Stage → Option (Option (List SignalRow))
  | .windowed => none
  | .unsummarised => none
  | .aggregated sig => some sig
  | .collected sig _ => some sig

/-- A run of `daily_pet_summary_generator` in flight. -/
structure DailyRun where
  deviceId : String
  window : Window
  stage : Stage
  deriving DecidableEq, Repr

/-- The tables, and the runs that read and write them. -/
structure Db where
  signals : List SignalRow
  events : List EventRow
  summaries : List SummaryRow
  runs : List DailyRun
  nextId : ℕ

/-- Nothing has been inserted, and no run is in flight. -/
def Db.empty : Db := ⟨[], [], [], [], 0⟩

/-- The statements of the nodes, of the generator and of the cleanup. -/
inductive Action
  | insertSignal (now : ℤ) (signal : Signal)
  | insertEvent (row : EventRow)
  /-- A run starts and computes its window, with or without `run_date`. -/
  | startDaily (deviceId : String) (zone : Zone) (runDate : Option ℤ) (now : ℤ)
  /-- The `i`-th run in flight executes its next statement. -/
  | resume (i : ℕ) (ok : Bool)
  | cleanupSignals (ranked : List SignalRow) (now retentionDays : ℤ)
  | cleanupEvents (now retentionDays : ℤ)

/-- The window of a run: that of `run_date`, else of the current day. -/
def runWindow (zone : Zone) (runDate : Option ℤ) (now : ℤ) : Window :=
  match runDate with
  | none => computeDailyWindow zone now
  | some date => computeWindowForDate zone date

/-- The stage after the next statement of a run; `none` when the run ends. -/
def nextStage (db : Db) (r : DailyRun) (ok : Bool) : Option Stage :=
  match r.stage with
  | .windowed =>
      -- a failed check returns an empty result, which the job takes for "no row"
      if ok && db.summaries.any (fun sum => sum.isDaily r.deviceId r.window.periodDate) then none
      else some .unsummarised
  | .unsummarised =>
      some (.aggregated (if ok then some (fetchDailySignals r.deviceId r.window db.signals)
        else none))
  | .aggregated sig =>
      some (.collected sig (if ok then fetchDailyEvents r.deviceId r.window db.events else []))
  | .collected _ _ => none

/-- `stm_insert_summary`: nothing happens on a conflict with the unique index. -/
def insertSummary (row : SummaryRow) (summaries : List SummaryRow) : List SummaryRow :=
  if summaries.any (fun sum => sum.isDaily row.deviceId row.summaryDate) then summaries
  else summaries ++ [row]

/-- The summary table after the next statement of a run. -/
def nextSummaries (summaries : List SummaryRow) (r : DailyRun) (ok : Bool) : List SummaryRow :=
  match r.stage with
  | .collected sig ev =>
      if ok then insertSummary (dailySummary r.deviceId r.window sig ev) summaries else summaries
  | _ => summaries

/-- The runs in flight after the `i`-th one moves to its next stage, or ends. -/
def moveRun (runs : List DailyRun) (i : ℕ) (r : DailyRun) (next : Option Stage) :
    List DailyRun :=
  replaceAt runs i (next.toList.map fun stage => { r with stage := stage })

/-- One statement.  A cleanup is told in which order the engine ranks the rows, and it must be one
by time. -/
def step (db : Db) : Action → Db
  | .insertSignal _ signal =>
      { db with signals := db.signals ++ [⟨signal, db.nextId⟩], nextId := db.nextId + 1 }
  | .insertEvent row => { db with events := db.events ++ [row] }
  | .startDaily deviceId zone runDate now =>
      if deviceId = "" then db
      else { db with runs := db.runs ++ [⟨deviceId, runWindow zone runDate now, .windowed⟩] }
  | .resume i ok =>
      match db.runs[i]? with
      | none => db
      | some r =>
          { db with
            summaries := nextSummaries db.summaries r ok
            runs := moveRun db.runs i r (nextStage db r ok) }
  | .cleanupSignals ranked now retentionDays =>
      if Sql.IsOrdering (·.observedAt) ranked db.signals then
        { db with signals := cleanupSignals ranked db.summaries now retentionDays db.signals }
      else db
  | .cleanupEvents now retentionDays =>
      { db with events := cleanupEvents db.summaries now retentionDays db.events }

/-! ## What one action can change -/

/-- A run in flight after a resume was in flight before, or it is the resumed one
in its next stage. -/
theorem mem_moveRun {runs : List DailyRun} {i : ℕ} {r x : DailyRun} {next : Option Stage}
    (hx : x ∈ moveRun runs i r next) :
    x ∈ runs ∨ ∃ stage, next = some stage ∧ x = { r with stage := stage } := by
  rcases mem_or_mem_of_mem_replaceAt hx with hx | hx
  · exact Or.inl hx
  · obtain ⟨stage, hstage, rfl⟩ := List.mem_map.mp hx
    exact Or.inr ⟨stage, Option.mem_toList.mp hstage, rfl⟩

/-- A run has read its signals before the statement, and keeps what it read, or
the statement is the one that reads them. -/
theorem read_nextStage {db : Db} {r : DailyRun} {ok : Bool} {stage : Stage}
    {sig : Option (List SignalRow)} (hnext : nextStage db r ok = some stage)
    (hread : stage.read = some sig) :
    r.stage.read = some sig ∨ r.stage = .unsummarised ∧
      sig = if ok then some (fetchDailySignals r.deviceId r.window db.signals) else none := by
  cases hstage : r.stage with
  | windowed =>
      simp only [nextStage, hstage] at hnext
      split at hnext
      · cases hnext
      · cases hnext
        cases hread
  | unsummarised =>
      -- the statement that reads the signals
      simp only [nextStage, hstage, Option.some.injEq] at hnext
      subst hnext
      exact Or.inr ⟨rfl, (Option.some.inj hread).symm⟩
  | aggregated sig' =>
      simp only [nextStage, hstage, Option.some.injEq] at hnext
      subst hnext
      exact Or.inl hread
  | collected sig' ev => simp [nextStage, hstage] at hnext

/-- What a run has read does not change with its next statement. -/
theorem read_of_nextStage {db : Db} {r : DailyRun} {ok : Bool} {stage : Stage}
    {sig : Option (List SignalRow)} (hnext : nextStage db r ok = some stage)
    (hread : r.stage.read = some sig) : stage.read = some sig := by
  cases hstage : r.stage with
  | windowed => simp [hstage, Stage.read] at hread
  | unsummarised => simp [hstage, Stage.read] at hread
  | aggregated sig' =>
      simp only [nextStage, hstage, Option.some.injEq] at hnext
      rw [hstage] at hread
      subst hnext
      exact hread
  | collected sig' ev => simp [nextStage, hstage] at hnext

theorem mem_insertSummary {row x : SummaryRow} {summaries : List SummaryRow}
    (hx : x ∈ insertSummary row summaries) : x ∈ summaries ∨ x = row := by
  unfold insertSummary at hx
  split at hx
  · exact Or.inl hx
  · simpa using hx

/-- A stored summary was stored before, or it is that of a run that has read both
its signals and its events. -/
theorem mem_nextSummaries {summaries : List SummaryRow} {r : DailyRun} {ok : Bool}
    {x : SummaryRow} (hx : x ∈ nextSummaries summaries r ok) :
    x ∈ summaries ∨
      ∃ sig ev, r.stage = .collected sig ev ∧ x = dailySummary r.deviceId r.window sig ev := by
  unfold nextSummaries at hx
  split at hx
  · rename_i sig ev hstage
    split at hx
    · rcases mem_insertSummary hx with hx | hx
      · exact Or.inl hx
      · exact Or.inr ⟨sig, ev, hstage, hx⟩
    · exact Or.inl hx
  · exact Or.inl hx

/-- A row of the signal table was there before, or it is the inserted one. -/
theorem mem_signals_step {db : Db} {action : Action} {row : SignalRow}
    (hrow : row ∈ (step db action).signals) :
    row ∈ db.signals ∨ ∃ now signal, action = .insertSignal now signal ∧
      row = ⟨signal, db.nextId⟩ := by
  cases action with
  | insertSignal now signal =>
      rcases List.mem_append.mp hrow with hrow | hrow
      · exact Or.inl hrow
      · exact Or.inr ⟨now, signal, rfl, by simpa using hrow⟩
  | insertEvent row => exact Or.inl hrow
  | startDaily deviceId zone runDate now =>
      simp only [step] at hrow
      split at hrow <;> exact Or.inl hrow
  | resume i ok =>
      simp only [step] at hrow
      split at hrow <;> exact Or.inl hrow
  | cleanupSignals ranked now retentionDays =>
      simp only [step] at hrow
      split at hrow
      · exact Or.inl (List.mem_of_mem_filter hrow)
      · exact Or.inl hrow
  | cleanupEvents now retentionDays => exact Or.inl hrow

/-- A summary was stored before, or its run was in flight with everything read. -/
theorem mem_summaries_step {db : Db} {action : Action} {sum : SummaryRow}
    (hsum : sum ∈ (step db action).summaries) :
    sum ∈ db.summaries ∨ ∃ r ∈ db.runs, ∃ sig ev, r.stage = .collected sig ev ∧
      sum = dailySummary r.deviceId r.window sig ev := by
  cases action with
  | insertSignal now signal => exact Or.inl hsum
  | insertEvent row => exact Or.inl hsum
  | startDaily deviceId zone runDate now =>
      simp only [step] at hsum
      split at hsum <;> exact Or.inl hsum
  | resume i ok =>
      simp only [step] at hsum
      split at hsum
      · exact Or.inl hsum
      · rename_i r hr
        rcases mem_nextSummaries hsum with hsum | ⟨sig, ev, hstage, hsum⟩
        · exact Or.inl hsum
        · exact Or.inr ⟨r, List.mem_of_getElem? hr, sig, ev, hstage, hsum⟩
  | cleanupSignals ranked now retentionDays =>
      simp only [step] at hsum
      split at hsum <;> exact Or.inl hsum
  | cleanupEvents now retentionDays => exact Or.inl hsum

/-- A run in flight was in flight before, has just been started, or has just
executed a statement. -/
theorem mem_runs_step {db : Db} {action : Action} {x : DailyRun}
    (hx : x ∈ (step db action).runs) :
    x ∈ db.runs ∨
      (∃ deviceId zone runDate now, action = .startDaily deviceId zone runDate now ∧
        x = ⟨deviceId, runWindow zone runDate now, .windowed⟩) ∨
      ∃ i ok r stage, action = .resume i ok ∧ db.runs[i]? = some r ∧
        nextStage db r ok = some stage ∧ x = { r with stage := stage } := by
  cases action with
  | insertSignal now signal => exact Or.inl hx
  | insertEvent row => exact Or.inl hx
  | startDaily deviceId zone runDate now =>
      simp only [step] at hx
      split at hx
      · exact Or.inl hx
      · rcases List.mem_append.mp hx with hx | hx
        · exact Or.inl hx
        · exact Or.inr (Or.inl ⟨deviceId, zone, runDate, now, rfl, by simpa using hx⟩)
  | resume i ok =>
      simp only [step] at hx
      split at hx
      · exact Or.inl hx
      · rename_i r hr
        rcases mem_moveRun hx with hx | ⟨stage, hstage, hx⟩
        · exact Or.inl hx
        · exact Or.inr (Or.inr ⟨i, ok, r, stage, rfl, hr, hstage, hx⟩)
  | cleanupSignals ranked now retentionDays =>
      simp only [step] at hx
      split at hx <;> exact Or.inl hx
  | cleanupEvents now retentionDays => exact Or.inl hx

end OroEdge.Jobs
