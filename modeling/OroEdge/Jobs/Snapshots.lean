import OroEdge.Jobs.Weekly
import Mathlib.Data.List.Induction

/-!
# A daily summary is one snapshot

Several runs of `daily_pet_summary_generator` can be in flight for one day: the job is started by
hand with a date, or a lock has run out.  Their statements interleave with each other, with the
nodes that insert rows and with the cleanup, and each statement can fail.

Still there is at most one row for a device and a day, by the unique index and not by the check
that a run makes first.  The row is that of the first run that comes to its insert, and its payload
is what that run read, at two moments between its start and its insert.  Later runs, late signals
and cleanups never change it (`snapshots_after`).

A run has no name in the tables, and its place among the runs in flight changes when an earlier one
ends.  So that a row can be traced to one run, `Flight` gives each run a number that goes with it
(`numbers_sublist`: no number is given twice), and leaves the tables what they are (`db_flight`,
`runs_flight`).  `Started`, `ReadSignals`, `ReadEvents` and `Wrote` say what the run of one number
has done, each after the one before it.

The proof has two parts.  What a run has done can be told from its stage (`DailyRun.Done`), which
each statement of it moves on by one (`DailyRun.Done.next`) and which nothing else changes.  And
only the insert of a run that has read everything adds a summary, when there is none with its key
(`summaries_step_cases`).
-/

namespace OroEdge.Jobs

open OroEdge.Lib

/-! ## The runs, told apart -/

/-- The tables, and the runs in flight, each with its number: how many actions came before the one
that started it.  A run changes its place in the list when an earlier one ends, and keeps its
number. -/
structure Flight where
  db : Db
  count : ℕ
  runs : List (ℕ × DailyRun)

/-- The numbered runs after an action. -/
def Flight.nextRuns (f : Flight) : Action → List (ℕ × DailyRun)
  | .startDaily deviceId zone runDate now =>
      if deviceId = "" then f.runs
      else f.runs ++ [(f.count, ⟨deviceId, runWindow zone runDate now, .windowed⟩)]
  | .resume i ok =>
      match f.runs[i]? with
      | none => f.runs
      | some (n, r) =>
          replaceAt f.runs i
            ((nextStage f.db r ok).toList.map fun stage => (n, { r with stage := stage }))
  | _ => f.runs

/-- The tables do what they do, whatever the numbers. -/
def Flight.step (f : Flight) (action : Action) : Flight where
  db := Jobs.step f.db action
  count := f.count + 1
  runs := f.nextRuns action

/-- The numbered runs after these actions. -/
def flight (actions : List Action) : Flight := run Flight.step ⟨Db.empty, 0, []⟩ actions

/-! ## What a run has done -/

/-- The `n`-th run, which is `r` by then, executes its next statement after `earlier`. -/
def Executes (n : ℕ) (r : DailyRun) (ok : Bool) (earlier actions : List Action) : Prop :=
  ∃ i, earlier ++ [.resume i ok] <+: actions ∧ (flight earlier).runs[i]? = some (n, r)

section

variable (n : ℕ) (deviceId : String) (w : Window)

/-- The `n`-th run has been started, with this window. -/
def Started (actions : List Action) : Prop :=
  ∃ earlier zone runDate now, earlier ++ [.startDaily deviceId zone runDate now] <+: actions ∧
    earlier.length = n ∧ w = runWindow zone runDate now

/-- The `n`-th run has executed `stm_fetch_daily_signals`, after its start. -/
def ReadSignals (sig : Option (List SignalRow)) (actions : List Action) : Prop :=
  ∃ earlier ok, Executes n ⟨deviceId, w, .unsummarised⟩ ok earlier actions ∧
    Started n deviceId w earlier ∧
    sig = if ok then some (fetchDailySignals deviceId w (run step Db.empty earlier).signals)
      else none

/-- The `n`-th run has executed `stm_fetch_daily_events`, after it has read `sig`. -/
def ReadEvents (sig : Option (List SignalRow)) (ev : List EventRow) (actions : List Action) :
    Prop :=
  ∃ earlier ok, Executes n ⟨deviceId, w, .aggregated sig⟩ ok earlier actions ∧
    ReadSignals n deviceId w sig earlier ∧
    ev = if ok then fetchDailyEvents deviceId w (run step Db.empty earlier).events else []

/-- The `n`-th run has inserted the summary of what it has read, when there was no row for the
day. -/
def Wrote (sig : Option (List SignalRow)) (ev : List EventRow) (actions : List Action) : Prop :=
  ∃ earlier, Executes n ⟨deviceId, w, .collected sig ev⟩ true earlier actions ∧
    ReadEvents n deviceId w sig ev earlier ∧
    ∀ sum ∈ (run step Db.empty earlier).summaries, sum.isDaily deviceId w.periodDate = false

end

/-- The device and the day of a summary. -/
def SummaryRow.key (sum : SummaryRow) : String × ℤ := (sum.deviceId, sum.summaryDate)

/-- Each device and day has at most one row, the row was written by one run from what that run had
read, and the rows of every earlier moment are still there, unchanged.  A number tells one run. -/
structure Snapshots (actions : List Action) : Prop where
  once : ((run step Db.empty actions).summaries.map SummaryRow.key).Nodup
  written : ∀ sum ∈ (run step Db.empty actions).summaries, ∃ n deviceId w sig ev,
    Wrote n deviceId w sig ev actions ∧ sum = dailySummary deviceId w sig ev
  apart : ((flight actions).runs.map Prod.fst).Nodup
  final : ∀ earlier, earlier <+: actions →
    (run step Db.empty earlier).summaries <+: (run step Db.empty actions).summaries

/-! ## The numbers are only numbers -/

theorem db_concat (actions : List Action) (action : Action) :
    run step Db.empty (actions ++ [action]) = step (run step Db.empty actions) action :=
  run_append _ _ _

theorem flight_concat (actions : List Action) (action : Action) :
    flight (actions ++ [action]) = (flight actions).step action := by
  unfold flight
  rw [run_append]
  rfl

theorem db_flight (actions : List Action) : (flight actions).db = run step Db.empty actions := by
  induction actions using List.reverseRecOn with
  | nil => rfl
  | append_singleton earlier action ih =>
      rw [flight_concat, db_concat, Flight.step, ih]

theorem count_flight (actions : List Action) : (flight actions).count = actions.length := by
  induction actions using List.reverseRecOn with
  | nil => rfl
  | append_singleton earlier action ih =>
      rw [flight_concat, Flight.step, ih, List.length_append, List.length_singleton]

/-- Without their numbers, the runs are those in flight. -/
theorem runs_flight (actions : List Action) :
    (flight actions).runs.map Prod.snd = (run step Db.empty actions).runs := by
  induction actions using List.reverseRecOn with
  | nil => rfl
  | append_singleton earlier action ih =>
      have hdb := db_flight earlier
      rw [flight_concat, db_concat]
      cases action with
      | insertSignal now signal => exact ih
      | insertEvent row => exact ih
      | cleanupEvents now retentionDays => exact ih
      | startDaily deviceId zone runDate now =>
          dsimp only [Flight.step, Flight.nextRuns, step]
          split
          · exact ih
          · rw [List.map_append, ih]
            rfl
      | cleanupSignals ranked now retentionDays =>
          dsimp only [Flight.step, Flight.nextRuns, step]
          split <;> exact ih
      | resume i ok =>
          have hplace : ((flight earlier).runs.map Prod.snd)[i]? =
              (run step Db.empty earlier).runs[i]? := by rw [ih]
          rw [List.getElem?_map] at hplace
          dsimp only [Flight.step, Flight.nextRuns, step]
          rw [← hplace]
          cases hrun : (flight earlier).runs[i]? with
          | none => exact ih
          | some numbered =>
              obtain ⟨n, r⟩ := numbered
              dsimp only [Option.map_some]
              rw [map_replaceAt, ih, List.map_map, hdb]
              rfl

/-- A numbered run was in flight before, has just been started, or has just executed a
statement. -/
theorem mem_nextRuns {f : Flight} {action : Action} {x : ℕ × DailyRun}
    (hx : x ∈ f.nextRuns action) :
    x ∈ f.runs ∨
      (∃ deviceId zone runDate now, action = .startDaily deviceId zone runDate now ∧
        x = (f.count, ⟨deviceId, runWindow zone runDate now, .windowed⟩)) ∨
      ∃ i ok n r stage, action = .resume i ok ∧ f.runs[i]? = some (n, r) ∧
        nextStage f.db r ok = some stage ∧ x = (n, { r with stage := stage }) := by
  cases action with
  | insertSignal now signal => exact Or.inl hx
  | insertEvent row => exact Or.inl hx
  | cleanupEvents now retentionDays => exact Or.inl hx
  | cleanupSignals ranked now retentionDays => exact Or.inl hx
  | startDaily deviceId zone runDate now =>
      dsimp only [Flight.nextRuns] at hx
      split at hx
      · exact Or.inl hx
      · rcases List.mem_append.mp hx with hx | hx
        · exact Or.inl hx
        · exact Or.inr (Or.inl ⟨deviceId, zone, runDate, now, rfl, List.mem_singleton.mp hx⟩)
  | resume i ok =>
      dsimp only [Flight.nextRuns] at hx
      split at hx
      · exact Or.inl hx
      · rename_i n r hrun
        rcases mem_or_mem_of_mem_replaceAt hx with hx | hx
        · exact Or.inl hx
        · obtain ⟨stage, hstage, rfl⟩ := List.mem_map.mp hx
          exact Or.inr (Or.inr ⟨i, ok, n, r, stage, rfl, hrun, Option.mem_toList.mp hstage, rfl⟩)

/-- The numbers ascend, and no number is given twice. -/
theorem numbers_sublist (actions : List Action) :
    ((flight actions).runs.map Prod.fst).Sublist (List.range actions.length) := by
  induction actions using List.reverseRecOn with
  | nil => exact List.Sublist.refl _
  | append_singleton earlier action ih =>
      rw [flight_concat, List.length_append, List.length_singleton, List.range_succ]
      have hkept := ih.trans (List.sublist_append_left _ [earlier.length])
      cases action with
      | insertSignal now signal => exact hkept
      | insertEvent row => exact hkept
      | cleanupEvents now retentionDays => exact hkept
      | cleanupSignals ranked now retentionDays => exact hkept
      | startDaily deviceId zone runDate now =>
          dsimp only [Flight.step, Flight.nextRuns]
          split
          · exact hkept
          · rw [List.map_append, count_flight]
            exact ih.append (List.Sublist.refl _)
      | resume i ok =>
          dsimp only [Flight.step, Flight.nextRuns]
          split
          · exact hkept
          · rename_i n r hrun
            refine List.Sublist.trans ?_ hkept
            rw [map_replaceAt, List.map_map]
            refine replaceAt_sublist (List.getElem?_map ▸ congrArg (Option.map Prod.fst) hrun) ?_
            cases nextStage (flight earlier).db r ok with
            | none => exact List.nil_sublist _
            | some stage => exact List.Sublist.refl _

/-! ## What has been done stays done -/

theorem prefix_concat {earlier actions : List Action} (hwithin : earlier <+: actions)
    (action : Action) : earlier <+: actions ++ [action] :=
  hwithin.trans (List.prefix_append actions [action])

section

variable {n : ℕ} {deviceId : String} {w : Window} {sig : Option (List SignalRow)}
  {ev : List EventRow} {actions : List Action}

theorem Executes.concat {r : DailyRun} {ok : Bool} {earlier : List Action}
    (hexecutes : Executes n r ok earlier actions) (action : Action) :
    Executes n r ok earlier (actions ++ [action]) := by
  obtain ⟨i, hwithin, hrun⟩ := hexecutes
  exact ⟨i, prefix_concat hwithin action, hrun⟩

theorem Started.concat (hstarted : Started n deviceId w actions) (action : Action) :
    Started n deviceId w (actions ++ [action]) := by
  obtain ⟨earlier, zone, runDate, now, hwithin, hrest⟩ := hstarted
  exact ⟨earlier, zone, runDate, now, prefix_concat hwithin action, hrest⟩

theorem ReadSignals.concat (hread : ReadSignals n deviceId w sig actions) (action : Action) :
    ReadSignals n deviceId w sig (actions ++ [action]) := by
  obtain ⟨earlier, ok, hexecutes, hrest⟩ := hread
  exact ⟨earlier, ok, hexecutes.concat action, hrest⟩

theorem ReadEvents.concat (hread : ReadEvents n deviceId w sig ev actions) (action : Action) :
    ReadEvents n deviceId w sig ev (actions ++ [action]) := by
  obtain ⟨earlier, ok, hexecutes, hrest⟩ := hread
  exact ⟨earlier, ok, hexecutes.concat action, hrest⟩

theorem Wrote.concat (hwrote : Wrote n deviceId w sig ev actions) (action : Action) :
    Wrote n deviceId w sig ev (actions ++ [action]) := by
  obtain ⟨earlier, hexecutes, hrest⟩ := hwrote
  exact ⟨earlier, hexecutes.concat action, hrest⟩

end

/-! ## The runs in flight -/

/-- What the stage of the `n`-th run says that it has done. -/
def DailyRun.Done (n : ℕ) (r : DailyRun) (actions : List Action) : Prop :=
  match r.stage with
  | .windowed => Started n r.deviceId r.window actions
  | .unsummarised => Started n r.deviceId r.window actions
  | .aggregated sig => ReadSignals n r.deviceId r.window sig actions
  | .collected sig ev => ReadEvents n r.deviceId r.window sig ev actions

theorem DailyRun.Done.concat {n : ℕ} {r : DailyRun} {actions : List Action}
    (hdone : r.Done n actions) (action : Action) : r.Done n (actions ++ [action]) := by
  unfold DailyRun.Done at hdone ⊢
  cases hstage : r.stage <;> rw [hstage] at hdone
  · exact Started.concat hdone action
  · exact Started.concat hdone action
  · exact ReadSignals.concat hdone action
  · exact ReadEvents.concat hdone action

/-- The next statement of a run. -/
theorem DailyRun.Done.next {n : ℕ} {r : DailyRun} {actions : List Action}
    (hdone : r.Done n actions) {i : ℕ} {ok : Bool} {stage : Stage}
    (hrun : (flight actions).runs[i]? = some (n, r))
    (hnext : nextStage (run step Db.empty actions) r ok = some stage) :
    ({ r with stage := stage } : DailyRun).Done n (actions ++ [.resume i ok]) := by
  have hexecutes : Executes n r ok actions (actions ++ [.resume i ok]) :=
    ⟨i, List.prefix_refl _, hrun⟩
  obtain ⟨deviceId, w, before⟩ := r
  unfold DailyRun.Done at hdone
  unfold nextStage at hnext
  cases before with
  | windowed =>
      dsimp only at hnext
      split at hnext
      · cases hnext
      · cases hnext
        exact Started.concat hdone _
  | unsummarised =>
      cases hnext
      exact ⟨actions, ok, hexecutes, hdone, rfl⟩
  | aggregated sig =>
      cases hnext
      exact ⟨actions, ok, hexecutes, hdone, rfl⟩
  | collected sig ev => cases hnext

theorem done_after (actions : List Action) :
    ∀ x ∈ (flight actions).runs, x.2.Done x.1 actions := by
  induction actions using List.reverseRecOn with
  | nil => exact List.forall_mem_nil _
  | append_singleton earlier action ih =>
      intro x hx
      rw [flight_concat] at hx
      rcases mem_nextRuns hx with hbefore | ⟨deviceId, zone, runDate, now, rfl, rfl⟩ |
        ⟨i, ok, n, r, stage, rfl, hrun, hnext, rfl⟩
      · exact (ih x hbefore).concat action
      · exact ⟨earlier, zone, runDate, now, List.prefix_refl _, (count_flight earlier).symm, rfl⟩
      · rw [db_flight] at hnext
        exact (ih (n, r) (List.mem_of_getElem? hrun)).next hrun hnext

/-! ## The summaries -/

theorem insertSummary_cases (row : SummaryRow) (summaries : List SummaryRow) :
    insertSummary row summaries = summaries ∨
      (∀ sum ∈ summaries, sum.isDaily row.deviceId row.summaryDate = false) ∧
        insertSummary row summaries = summaries ++ [row] := by
  unfold insertSummary
  split_ifs with hfound
  · exact Or.inl rfl
  · exact Or.inr ⟨by simpa using hfound, rfl⟩

/-- A statement of a run writes no summary, or it is the insert, there was no row for the day, and it
adds one. -/
theorem nextSummaries_cases (summaries : List SummaryRow) (r : DailyRun) (ok : Bool) :
    nextSummaries summaries r ok = summaries ∨
      ∃ sig ev, ok = true ∧ r.stage = .collected sig ev ∧
        (∀ sum ∈ summaries, sum.isDaily r.deviceId r.window.periodDate = false) ∧
        nextSummaries summaries r ok = summaries ++ [dailySummary r.deviceId r.window sig ev] := by
  cases hstage : r.stage with
  | windowed | unsummarised | aggregated =>
      left
      simp only [nextSummaries, hstage]
  | collected sig ev =>
      cases ok with
      | false =>
          left
          simp [nextSummaries, hstage]
      | true =>
          have hinsert : nextSummaries summaries r true =
              insertSummary (dailySummary r.deviceId r.window sig ev) summaries := by
            simp [nextSummaries, hstage]
          rw [hinsert]
          rcases insertSummary_cases (dailySummary r.deviceId r.window sig ev) summaries
            with hsame | ⟨hnone, hadded⟩
          · exact Or.inl hsame
          · exact Or.inr ⟨sig, ev, rfl, rfl, hnone, hadded⟩

/-- Nothing but the insert of a run that has read everything writes a summary, and it adds one. -/
theorem summaries_step_cases (db : Db) (action : Action) :
    (step db action).summaries = db.summaries ∨
      ∃ i r sig ev, action = .resume i true ∧ db.runs[i]? = some r ∧
        r.stage = .collected sig ev ∧
        (∀ sum ∈ db.summaries, sum.isDaily r.deviceId r.window.periodDate = false) ∧
        (step db action).summaries = db.summaries ++ [dailySummary r.deviceId r.window sig ev] := by
  cases action with
  | insertSignal now signal => exact Or.inl rfl
  | insertEvent row => exact Or.inl rfl
  | cleanupEvents now retentionDays => exact Or.inl rfl
  | startDaily deviceId zone runDate now =>
      left
      dsimp only [step]
      split <;> rfl
  | cleanupSignals ranked now retentionDays =>
      left
      dsimp only [step]
      split <;> rfl
  | resume i ok =>
      cases hr : db.runs[i]? with
      | none =>
          left
          simp only [step, hr]
      | some r =>
          have hsummaries :
              (step db (.resume i ok)).summaries = nextSummaries db.summaries r ok := by
            simp only [step, hr]
          rw [hsummaries]
          rcases nextSummaries_cases db.summaries r ok with hsame |
            ⟨sig, ev, rfl, hstage, hnone, hadded⟩
          · exact Or.inl hsame
          · exact Or.inr ⟨i, r, sig, ev, rfl, hr, hstage, hnone, hadded⟩

/-- Two daily summaries have the same key if the one would be found by the check for the other. -/
theorem isDaily_of_key_eq {deviceId deviceId' : String} {w w' : Window}
    {sig sig' : Option (List SignalRow)} {ev ev' : List EventRow}
    (hkey : (dailySummary deviceId w sig ev).key = (dailySummary deviceId' w' sig' ev').key) :
    (dailySummary deviceId w sig ev).isDaily deviceId' w'.periodDate = true := by
  obtain ⟨hdevice, hdate⟩ := Prod.mk.inj hkey
  exact SummaryRow.isDaily_iff.mpr ⟨hdevice, rfl, hdate⟩

/-- A run that inserts has a number, and has done under it what its stage says. -/
theorem exists_wrote {actions : List Action} {i : ℕ} {r : DailyRun}
    {sig : Option (List SignalRow)} {ev : List EventRow}
    (hr : (run step Db.empty actions).runs[i]? = some r) (hstage : r.stage = .collected sig ev)
    (hnone : ∀ sum ∈ (run step Db.empty actions).summaries,
      sum.isDaily r.deviceId r.window.periodDate = false) :
    ∃ n, Wrote n r.deviceId r.window sig ev (actions ++ [.resume i true]) := by
  rw [← runs_flight, List.getElem?_map] at hr
  obtain ⟨⟨n, numbered⟩, hrun, rfl⟩ := Option.map_eq_some_iff.mp hr
  obtain ⟨deviceId, w, stage⟩ := numbered
  dsimp only at hstage hnone ⊢
  subst hstage
  have hdone := done_after actions _ (List.mem_of_getElem? hrun)
  exact ⟨n, actions, ⟨i, List.prefix_refl _, hrun⟩, hdone, hnone⟩

/-- The number of a run is not given again. -/
theorem nodup_numbers (actions : List Action) : ((flight actions).runs.map Prod.fst).Nodup :=
  (numbers_sublist actions).nodup List.nodup_range

theorem snapshots_nil : Snapshots [] where
  once := List.nodup_nil
  written := List.forall_mem_nil _
  apart := List.nodup_nil
  final earlier hearlier := by
    obtain rfl := List.prefix_nil.mp hearlier
    exact List.prefix_refl _

section

variable {actions : List Action} (hsnapshots : Snapshots actions) (action : Action)

include hsnapshots

theorem Snapshots.written_concat : ∀ sum ∈ (run step Db.empty actions).summaries,
    ∃ n deviceId w sig ev, Wrote n deviceId w sig ev (actions ++ [action]) ∧
      sum = dailySummary deviceId w sig ev := by
  intro sum hsum
  obtain ⟨n, deviceId, w, sig, ev, hwrote, hsum⟩ := hsnapshots.written sum hsum
  exact ⟨n, deviceId, w, sig, ev, hwrote.concat action, hsum⟩

theorem Snapshots.final_concat (hgrows : (run step Db.empty actions).summaries <+:
      (run step Db.empty (actions ++ [action])).summaries) :
    ∀ earlier, earlier <+: actions ++ [action] → (run step Db.empty earlier).summaries <+:
      (run step Db.empty (actions ++ [action])).summaries := by
  intro earlier hearlier
  rcases List.prefix_concat_iff.mp hearlier with rfl | hearlier
  · exact List.prefix_refl _
  · exact (hsnapshots.final earlier hearlier).trans hgrows

theorem Snapshots.concat : Snapshots (actions ++ [action]) := by
  rcases summaries_step_cases (run step Db.empty actions) action with hsame |
    ⟨i, r, sig, ev, rfl, hr, hstage, hnone, hadded⟩
  · rw [← db_concat] at hsame
    exact
      { once := hsame ▸ hsnapshots.once
        written := hsame ▸ hsnapshots.written_concat action
        apart := nodup_numbers _
        final := hsnapshots.final_concat action (hsame ▸ List.prefix_refl _) }
  · rw [← db_concat] at hadded
    constructor
    · -- The unique index: no row with this key is there.
      rw [hadded]
      refine SummaryTable.nodup_append_key hsnapshots.once fun sum hsum hkey => ?_
      obtain ⟨n, deviceId, w, sig', ev', -, rfl⟩ := hsnapshots.written sum hsum
      have hfound := isDaily_of_key_eq hkey
      rw [hnone _ hsum] at hfound
      cases hfound
    · rw [hadded]
      obtain ⟨n, hwrote⟩ := exists_wrote hr hstage hnone
      exact List.forall_mem_append.mpr ⟨hsnapshots.written_concat _,
        List.forall_mem_singleton.mpr ⟨n, r.deviceId, r.window, sig, ev, hwrote, rfl⟩⟩
    · exact nodup_numbers _
    · exact hsnapshots.final_concat _ (hadded ▸ List.prefix_append _ _)

end

/-- **A summary is one snapshot, and the first one is final**, whatever runs, nodes and cleanups
do, in whatever order, and whichever statements fail. -/
theorem snapshots_after (actions : List Action) : Snapshots actions := by
  induction actions using List.reverseRecOn with
  | nil => exact snapshots_nil
  | append_singleton earlier action ih => exact ih.concat action

end OroEdge.Jobs
