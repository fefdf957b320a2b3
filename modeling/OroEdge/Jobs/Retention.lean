import OroEdge.Jobs.Pipeline

/-!
# What the cleanup may lose

`stm_cleanup_signals` treats a row as summarised as soon as a generated daily
summary of the device covers its time.  The summary was computed once, from the
rows that were stored at that moment, and it is not computed again; a row that
arrives later in the period is in no aggregate, and nothing keeps it from being
deleted (`not_deletesOnlySummarised_late_rows`).

`NoLateSignal` is the condition on one action under which this does not happen: a
row does not arrive in a period that has been read already, and a run does not
go on from a failed read.  Such actions preserve `Db.Complete`, which says of
every covering summary, and of every run that has read its signals, that it has
seen all the rows of its period that are still stored.

The invariant has a part for the stored summaries and a part for the runs in flight, since a
summary is complete only because its run was.  A stored row that a summary covers was stored
before the action (`mem_signals_of_covers`), or else it has just come, and `NoLateSignal` says
that then no summary covers it; the same holds of a run (`mem_signals_of_inDailyFetch`).  A
cleanup removes rows, and completeness is about those that are left.
-/

namespace OroEdge.Jobs

open OroEdge.Lib

/-- No summary that covers the inserted row has been stored, no run in flight has
read the period of the row, and reading the signals does not fail. -/
def NoLateSignal (db : Db) : Action → Prop
  | .insertSignal _ signal =>
      (∀ sum ∈ db.summaries, ¬ sum.covers signal.deviceId signal.observedAt) ∧
        ∀ r ∈ db.runs, r.stage.read.isSome →
          ¬ (r.deviceId = signal.deviceId ∧ r.window.contains signal.observedAt)
  | .resume i ok => ∀ r ∈ db.runs[i]?, r.stage = .unsummarised → ok = true
  | _ => True

/-- A deleted row that is not older than the retention limit is covered by a
daily summary, and every daily summary that covers it counted it. -/
def SummarisedBeforeDeletion (db : Db) (ranked : List SignalRow) (now retentionDays : ℤ) :
    Prop :=
  ∀ row ∈ db.signals, row ∉ (step db (.cleanupSignals ranked now retentionDays)).signals →
    retentionCutoff now retentionDays ≤ row.observedAt →
      (∃ sum ∈ db.summaries, sum.covers row.deviceId row.observedAt) ∧
        ∀ sum ∈ db.summaries, sum.covers row.deviceId row.observedAt → sum.Counted row

instance (db : Db) : ∀ action, Decidable (NoLateSignal db action)
  | .insertSignal _ _ => inferInstanceAs (Decidable (_ ∧ _))
  | .resume i ok => inferInstanceAs
      (Decidable (∀ r ∈ db.runs[i]?, r.stage = .unsummarised → ok = true))
  | .insertEvent _ => inferInstanceAs (Decidable True)
  | .startDaily .. => inferInstanceAs (Decidable True)
  | .cleanupSignals .. => inferInstanceAs (Decidable True)
  | .cleanupEvents .. => inferInstanceAs (Decidable True)

/-- Every cleanup of the run deletes in that way. -/
def DeletesOnlySummarised (actions : List Action) : Prop :=
  ∀ earlier ranked now retentionDays later,
    actions = earlier ++ .cleanupSignals ranked now retentionDays :: later →
      SummarisedBeforeDeletion (run step Db.empty earlier) ranked now retentionDays

/-! ## The invariant -/

/-- Everything that has been read was read completely, up to rows that are no
longer stored. -/
structure Db.Complete (db : Db) : Prop where
  summary : ∀ sum ∈ db.summaries, ∀ row ∈ db.signals,
    sum.covers row.deviceId row.observedAt → sum.Counted row
  run : ∀ r ∈ db.runs, ∀ sig, r.stage.read = some sig → ∀ row ∈ db.signals,
    inDailyFetch r.deviceId r.window row → ∃ rows ∈ sig, row ∈ rows

theorem complete_empty : Db.empty.Complete :=
  ⟨by simp [Db.empty], by simp [Db.empty]⟩

/-- A summary covers the rows that its run was to read. -/
theorem dailySummary_covers_iff {deviceId : String} {w : Window}
    {sig : Option (List SignalRow)} {ev : List EventRow} {row : SignalRow} :
    (dailySummary deviceId w sig ev).covers row.deviceId row.observedAt ↔
      inDailyFetch deviceId w row := by
  rw [SummaryRow.covers_iff]
  simp [dailySummary, inDailyFetch, Window.contains, @eq_comm _ deviceId]

/-- A row that is stored after an allowed action, and that a stored summary covers,
was stored before. -/
theorem mem_signals_of_covers {db : Db} {action : Action} {row : SignalRow} {sum : SummaryRow}
    (hallowed : NoLateSignal db action) (hrow : row ∈ (step db action).signals)
    (hsum : sum ∈ db.summaries) (hcovers : sum.covers row.deviceId row.observedAt) :
    row ∈ db.signals := by
  rcases mem_signals_step hrow with hrow | ⟨now, signal, rfl, rfl⟩
  · exact hrow
  · exact absurd hcovers (hallowed.1 sum hsum)

/-- The same for a run that has read its signals. -/
theorem mem_signals_of_inDailyFetch {db : Db} {action : Action} {row : SignalRow} {r : DailyRun}
    {sig : Option (List SignalRow)} (hallowed : NoLateSignal db action)
    (hrow : row ∈ (step db action).signals) (hr : r ∈ db.runs) (hread : r.stage.read = some sig)
    (hfetch : inDailyFetch r.deviceId r.window row) : row ∈ db.signals := by
  rcases mem_signals_step hrow with hrow | ⟨now, signal, rfl, rfl⟩
  · exact hrow
  · simp only [inDailyFetch, Bool.and_eq_true, decide_eq_true_eq] at hfetch
    exact absurd ⟨hfetch.1.symm, hfetch.2⟩ (hallowed.2 r hr (by simp [hread]))

theorem summary_complete_step {db : Db} {action : Action} (hallowed : NoLateSignal db action)
    (hdb : db.Complete) :
    ∀ sum ∈ (step db action).summaries, ∀ row ∈ (step db action).signals,
      sum.covers row.deviceId row.observedAt → sum.Counted row := by
  intro sum hsum row hrow hcovers
  rcases mem_summaries_step hsum with hsum | ⟨r, hr, sig, ev, hstage, rfl⟩
  · exact hdb.summary sum hsum row (mem_signals_of_covers hallowed hrow hsum hcovers) hcovers
  · -- the row is in the period of the run that stores its summary now
    have hfetch := dailySummary_covers_iff.mp hcovers
    have hread : r.stage.read = some sig := by rw [hstage]; rfl
    have hbefore := mem_signals_of_inDailyFetch hallowed hrow hr hread hfetch
    exact hdb.run r hr sig hread row hbefore hfetch

theorem run_complete_step {db : Db} {action : Action} (hallowed : NoLateSignal db action)
    (hdb : db.Complete) :
    ∀ r ∈ (step db action).runs, ∀ sig, r.stage.read = some sig →
      ∀ row ∈ (step db action).signals,
        inDailyFetch r.deviceId r.window row → ∃ rows ∈ sig, row ∈ rows := by
  intro x hx sig hread row hrow hfetch
  rcases mem_runs_step hx with hx | ⟨_, _, _, _, _, rfl⟩ | ⟨i, ok, r, stage, rfl, hr, hnext, rfl⟩
  · have hbefore := mem_signals_of_inDailyFetch hallowed hrow hx hread hfetch
    exact hdb.run x hx sig hread row hbefore hfetch
  · cases hread
  · rcases read_nextStage hnext hread with hread | ⟨hstage, hsig⟩
    · have hmem := List.mem_of_getElem? hr
      have hbefore := mem_signals_of_inDailyFetch hallowed hrow hmem hread hfetch
      exact hdb.run r hmem sig hread row hbefore hfetch
    · -- the run reads its signals now; the condition excludes a failed read
      have hok : ok = true := hallowed r hr hstage
      have hbefore : row ∈ db.signals := by
        rcases mem_signals_step hrow with hrow | ⟨_, _, hinsert, _⟩
        · exact hrow
        · cases hinsert
      subst hok
      exact ⟨_, hsig, List.mem_filter.mpr ⟨hbefore, hfetch⟩⟩

theorem complete_step {db : Db} {action : Action} (hallowed : NoLateSignal db action)
    (hdb : db.Complete) : (step db action).Complete :=
  ⟨summary_complete_step hallowed hdb, run_complete_step hallowed hdb⟩

/-! ## Every run -/

theorem complete_run {actions : List Action}
    (hallowed : AllSteps step NoLateSignal Db.empty actions) :
    (run step Db.empty actions).Complete :=
  AllSteps.run_induction (fun _ _ => complete_step) complete_empty hallowed

theorem summarisedBeforeDeletion_of_complete {db : Db} (hdb : db.Complete)
    (ranked : List SignalRow) (now retentionDays : ℤ) :
    SummarisedBeforeDeletion db ranked now retentionDays := by
  intro row hrow hgone hrecent
  have hcovered : ∃ sum ∈ db.summaries, sum.covers row.deviceId row.observedAt := by
    simp only [step] at hgone
    split at hgone
    · rcases disposable_of_deleted hrow hgone with hcovered | hold
      · exact hcovered
      · exact absurd hold (not_lt.mpr hrecent)
    · exact absurd hrow hgone
  exact ⟨hcovered, fun sum hsum hcovers => hdb.summary sum hsum row hrow hcovers⟩

/-- **Without late signals, only summarised rows are deleted.**  In every run in
which no row arrives in a period that has been read already and no read fails,
each cleanup deletes, of the rows that are not older than `retention_days`, only
rows that every daily summary covering them has counted. -/
theorem deletesOnlySummarised_of_noLateSignal (actions : List Action)
    (hallowed : AllSteps step NoLateSignal Db.empty actions) : DeletesOnlySummarised actions := by
  intro earlier ranked now retentionDays later hsplit
  subst hsplit
  have hearlier := (AllSteps.append_iff.mp hallowed).1
  exact summarisedBeforeDeletion_of_complete (complete_run hearlier) ranked now retentionDays

/-! ## A run of each kind -/

/-- Row `i` of six heartbeats, one minute apart from noon of day 0. -/
def noonHeartbeat (i : ℕ) : SignalRow :=
  ⟨⟨"d", some 71, "h", some 1, none, none, 12 * hourMicros + i * minuteMicros⟩, i⟩

/-- Six heartbeats come in. -/
def insertHeartbeats : List Action :=
  (List.range 6).map fun i => .insertSignal 0 (noonHeartbeat i).toSignal

/-- The generator runs for day 0 in the fixed zone of UTC. -/
def summariseDay : List Action :=
  .startDaily "d" (.fixed 0) (some 0) 0 :: List.replicate 4 (.resume 0 true)

/-- The cleanup of the next day, with the rows ranked by time. -/
def cleanNextDay : Action :=
  .cleanupSignals ((List.range 6).map noonHeartbeat).reverse (2 * dayMicros) 30

/-- Six heartbeats, then the summary, then the cleanup: the oldest row goes, and
it was counted. -/
theorem deletesOnlySummarised_in_order :
    DeletesOnlySummarised (insertHeartbeats ++ summariseDay ++ [cleanNextDay]) :=
  deletesOnlySummarised_of_noLateSignal _ (by decide)

/-- The summary comes first, the six heartbeats of its period come later, and the
cleanup deletes one of them that is in no aggregate. -/
theorem not_deletesOnlySummarised_late_rows :
    ¬ DeletesOnlySummarised (summariseDay ++ insertHeartbeats ++ [cleanNextDay]) := by
  intro hclaim
  have hcleanup := hclaim (summariseDay ++ insertHeartbeats) _ _ _ [] rfl
  have hfirst := hcleanup (noonHeartbeat 0) (by decide) (by decide) (by decide)
  obtain ⟨sum, hsum, hcovers⟩ := hfirst.1
  have hcounted := hfirst.2 sum hsum hcovers
  revert sum
  decide

end OroEdge.Jobs
