import Mathlib.Data.List.Induction
import Mathlib.Data.List.Nodup
import Mathlib.Data.List.Perm.Basic
import OroEdge.Jobs.Pipeline
import OroEdge.Scheduler.CronConfig

/-!
# What the scheduled daily summary covers

The crontab line of a job with an interval of one day fires in the first minute
of the local day, and the generator summarises the day of `NOW()`: the day that
has just begun.  The row is not computed again, since a later run of that day
would find it and skip.

A `CronHistory` is a run of the tables in which only that line starts the
generator and all of its statements succeed.  In such a history there is at most
one run for a date (`occupied_run_le`), hence one reading of the signals of the date,
and the stored summary was computed from it (`source_of_read`).  So the summary
covers the day exactly when no signal of the day arrives after that reading, and
none was removed before it: `coversDay_iff`.

Three facts are put together.  There is one run for the date (`occupied`), which counts the runs
in flight and the stored rows at once, so that a run may end and leave its row.  What it reads
is the source of the row (`OnlySource`), which a statement of another run cannot change.  And an
insertion of a signal stands before the reading or after it (`inserted_cases`): before it, the
row is counted if no cleanup has removed it, and after it, it is not.  That each insertion has
an id of its own (`id_lt_nextId`) makes the rows of the two sides different ones.
-/

namespace OroEdge.Jobs

open OroEdge.Lib OroEdge.Scheduler

/-! ## Histories under cron -/

/-- Runs are started by the line of a daily interval, for the configured device
and zone and without `--date`; statements succeed. -/
def CronAction (deviceId : String) (zone : Zone) : Action → Prop
  | .startDaily device z runDate now =>
      device = deviceId ∧ z = zone ∧ runDate = none ∧ (cronPattern 86400).fires (zone.toLocal now)
  | .resume _ ok => ok = true
  | _ => True

/-- The local minute in which a run is started. -/
def startMinute (zone : Zone) : Action → Option ℤ
  | .startDaily _ _ _ now => some (zone.toLocal now / minuteMicros)
  | _ => none

/-- Cron starts a line at most once in a minute. -/
structure CronHistory (deviceId : String) (zone : Zone) (actions : List Action) : Prop where
  each : ∀ action ∈ actions, CronAction deviceId zone action
  once : (actions.filterMap (startMinute zone)).Nodup

/-- The action starts the run of a date. -/
def startsDay (zone : Zone) (date : ℤ) : Action → Bool
  | .startDaily _ _ _ now => dayOf (zone.toLocal now) = date
  | _ => false

/-- The run of a date executes `stm_fetch_daily_signals`. -/
def ReadsFor (deviceId : String) (date : ℤ) (db : Db) (action : Action) : Prop :=
  ∃ i ok r, action = .resume i ok ∧ db.runs[i]? = some r ∧ r.deviceId = deviceId ∧
    r.window.periodDate = date ∧ r.stage = .unsummarised

/-- A signal of the device, observed on the local day and inserted before its end. -/
def ForDay (deviceId : String) (zone : Zone) (date now : ℤ) (signal : Signal) : Prop :=
  signal.deviceId = deviceId ∧ (computeWindowForDate zone date).contains signal.observedAt ∧
    now < (computeWindowForDate zone date).periodEndUtc

/-- The history inserts the row at the time `now`. -/
def Inserted (actions : List Action) (now : ℤ) (row : SignalRow) : Prop :=
  ∃ earlier signal later, actions = earlier ++ .insertSignal now signal :: later ∧
    row = ⟨signal, (run step Db.empty earlier).nextId⟩

/-- The stored daily summary of the date counted every signal of the day. -/
def CoversDay (deviceId : String) (zone : Zone) (date : ℤ) (actions : List Action) : Prop :=
  ∀ sum ∈ (run step Db.empty actions).summaries, sum.isDaily deviceId date →
    ∀ now row, Inserted actions now row → ForDay deviceId zone date now row.toSignal →
      sum.Counted row

/-- After the signals of the date are read, no signal of the day arrives; of those
that arrived before, none has been removed. -/
def ReadLast (deviceId : String) (zone : Zone) (date : ℤ) (actions : List Action) : Prop :=
  ∀ earlier action later, actions = earlier ++ action :: later →
    ReadsFor deviceId date (run step Db.empty earlier) action →
      (∀ now signal, .insertSignal now signal ∈ later → ¬ ForDay deviceId zone date now signal) ∧
        ∀ now row, Inserted earlier now row → ForDay deviceId zone date now row.toSignal →
          row ∈ (run step Db.empty earlier).signals

variable {deviceId : String} {zone : Zone} {date : ℤ}

/-- A line that fires in the first minute of the day starts one run for a date. -/
theorem CronHistory.countP_startsDay_le {actions : List Action}
    (hcron : CronHistory deviceId zone actions) (date : ℤ) :
    actions.countP (startsDay zone date) ≤ 1 := by
  calc actions.countP (startsDay zone date)
      ≤ actions.countP fun action => startMinute zone action == some (date * 1440) := by
        refine List.countP_mono_left fun action haction hstarts => ?_
        cases action with
        | startDaily device z runDate now =>
            obtain ⟨-, -, -, hfires⟩ := hcron.each _ haction
            -- the start of `date` in its first minute is in the minute `date * 1440`
            rw [cronPattern_day_fires_iff] at hfires
            simp only [startsDay, decide_eq_true_eq] at hstarts
            simp only [startMinute, beq_iff_eq, Option.some.injEq]
            unfold timeOfDay dayMicros minuteMicros at hfires
            unfold dayOf dayMicros at hstarts
            unfold minuteMicros
            omega
        | _ => simp [startsDay] at hstarts
    _ = (actions.filterMap (startMinute zone)).count (date * 1440) :=
        List.count_filterMap.symm
    _ ≤ 1 := List.nodup_iff_count_le_one.mp hcron.once _

/-! ## One run for a date -/

/-- The run is to write the summary of this device and day. -/
def DailyRun.isFor (deviceId : String) (date : ℤ) (r : DailyRun) : Bool :=
  decide (r.deviceId = deviceId) && decide (r.window.periodDate = date)

theorem DailyRun.isFor_iff {r : DailyRun} :
    r.isFor deviceId date ↔ r.deviceId = deviceId ∧ r.window.periodDate = date := by
  simp [DailyRun.isFor]

/-- A run for the date stores a daily row of the date. -/
theorem dailySummary_isDaily (r : DailyRun) (sig : Option (List SignalRow))
    (ev : List EventRow) :
    (dailySummary r.deviceId r.window sig ev).isDaily deviceId date = r.isFor deviceId date := by
  rw [Bool.eq_iff_iff, SummaryRow.isDaily_iff, DailyRun.isFor_iff]
  simp [dailySummary]

/-- Without `--date` a run is for the local day in which it is started. -/
theorem startDaily_isFor (now : ℤ) :
    DailyRun.isFor deviceId date ⟨deviceId, runWindow zone none now, .windowed⟩ =
      startsDay zone date (.startDaily deviceId zone none now) := by
  rw [Bool.eq_iff_iff, DailyRun.isFor_iff]
  simp [runWindow, computeDailyWindow, computeWindowForDate, startsDay]

/-- The runs in flight and the stored rows of a date. -/
def occupied (deviceId : String) (date : ℤ) (db : Db) : ℕ :=
  db.runs.countP (DailyRun.isFor deviceId date) +
    db.summaries.countP (SummaryRow.isDaily deviceId date)

/-- A run that moves on stays a run for its date. -/
theorem countP_moveRun_some {runs : List DailyRun} {i : ℕ} {r : DailyRun}
    (hr : runs[i]? = some r) (stage : Stage) :
    (moveRun runs i r (some stage)).countP (DailyRun.isFor deviceId date) =
      runs.countP (DailyRun.isFor deviceId date) := by
  have hbalance := countP_replaceAt hr [{ r with stage := stage }] (DailyRun.isFor deviceId date)
  have hsame : DailyRun.isFor deviceId date { r with stage := stage } =
      DailyRun.isFor deviceId date r := rfl
  rw [List.countP_singleton, hsame] at hbalance
  exact Nat.add_right_cancel hbalance

theorem countP_moveRun_none {runs : List DailyRun} {i : ℕ} {r : DailyRun}
    (hr : runs[i]? = some r) :
    (moveRun runs i r none).countP (DailyRun.isFor deviceId date) +
        (if DailyRun.isFor deviceId date r then 1 else 0) =
      runs.countP (DailyRun.isFor deviceId date) :=
  countP_replaceAt hr [] _

theorem countP_insertSummary_le (row : SummaryRow) (summaries : List SummaryRow)
    (p : SummaryRow → Bool) :
    (insertSummary row summaries).countP p ≤ summaries.countP p + if p row then 1 else 0 := by
  unfold insertSummary
  split
  · omega
  · rw [List.countP_append, List.countP_singleton]

/-- A run that ends makes room for the row it stores. -/
theorem occupied_resume_le (db : Db) (i : ℕ) (ok : Bool) :
    occupied deviceId date (step db (.resume i ok)) ≤ occupied deviceId date db := by
  simp only [step]
  split
  · exact le_rfl
  rename_i r hr
  have hends : (moveRun db.runs i r none).countP (DailyRun.isFor deviceId date) + _ = _ :=
    countP_moveRun_none hr
  cases hstage : r.stage with
  | windowed =>
      simp only [occupied, nextSummaries, nextStage, hstage]
      split
      · omega
      · rw [countP_moveRun_some hr]
  | unsummarised => simp only [occupied, nextSummaries, nextStage, hstage,
      countP_moveRun_some hr, le_refl]
  | aggregated sig => simp only [occupied, nextSummaries, nextStage, hstage,
      countP_moveRun_some hr, le_refl]
  | collected sig ev =>
      -- the run leaves, and its row comes unless the insert fails or conflicts
      simp only [occupied, nextSummaries, nextStage, hstage]
      split
      · have hstores := countP_insertSummary_le (dailySummary r.deviceId r.window sig ev)
          db.summaries (SummaryRow.isDaily deviceId date)
        rw [dailySummary_isDaily] at hstores
        omega
      · omega

theorem occupied_step_le (date : ℤ) (db : Db) {action : Action}
    (hcron : CronAction deviceId zone action) :
    occupied deviceId date (step db action) ≤
      occupied deviceId date db + if startsDay zone date action then 1 else 0 := by
  cases action with
  | insertSignal now signal => exact Nat.le_add_right _ _
  | insertEvent row => exact Nat.le_add_right _ _
  | startDaily device z runDate now =>
      obtain ⟨rfl, rfl, rfl, -⟩ := hcron
      simp only [step]
      split
      · exact Nat.le_add_right _ _
      · simp only [occupied, List.countP_append, List.countP_singleton, startDaily_isFor]
        omega
  | resume i ok => exact (occupied_resume_le db i ok).trans (Nat.le_add_right _ _)
  | cleanupSignals ranked now retentionDays =>
      simp only [step]
      split <;> exact Nat.le_add_right _ _
  | cleanupEvents now retentionDays => exact Nat.le_add_right _ _

/-- A run or a row of the date has a start of its own. -/
theorem occupied_run_le {db : Db} {actions : List Action}
    (hcron : ∀ action ∈ actions, CronAction deviceId zone action) :
    occupied deviceId date (run step db actions) ≤
      occupied deviceId date db + actions.countP (startsDay zone date) := by
  induction actions generalizing db with
  | nil => exact Nat.le_add_right _ _
  | cons action rest ih =>
      obtain ⟨hfirst, hrest⟩ := List.forall_mem_cons.mp hcron
      calc occupied deviceId date (run step db (action :: rest))
          ≤ occupied deviceId date (step db action) + rest.countP (startsDay zone date) :=
            ih hrest
        _ ≤ occupied deviceId date db + (if startsDay zone date action then 1 else 0) +
              rest.countP (startsDay zone date) :=
            Nat.add_le_add_right (occupied_step_le date db hfirst) _
        _ = occupied deviceId date db + (action :: rest).countP (startsDay zone date) := by
            rw [List.countP_cons]
            omega

/-! ## One reading for a date -/

/-- The runs in flight are those of the device and the zone. -/
def RunsConfigured (deviceId : String) (zone : Zone) (db : Db) : Prop :=
  ∀ r ∈ db.runs, r.deviceId = deviceId ∧ r.window = computeWindowForDate zone r.window.periodDate

theorem runsConfigured_step (db : Db) (action : Action) (hcron : CronAction deviceId zone action)
    (hdb : RunsConfigured deviceId zone db) : RunsConfigured deviceId zone (step db action) := by
  intro x hx
  rcases mem_runs_step hx with hx | ⟨_, _, _, _, rfl, rfl⟩ | ⟨_, _, r, _, -, hr, -, rfl⟩
  · exact hdb x hx
  · obtain ⟨rfl, rfl, rfl, -⟩ := hcron
    exact ⟨rfl, rfl⟩
  · exact hdb r (List.mem_of_getElem? hr)

/-- Every run for the date has read `rows`, and every row of it was computed from
them. -/
structure OnlySource (deviceId : String) (date : ℤ) (rows : List SignalRow) (db : Db) : Prop where
  run : ∀ r ∈ db.runs, r.isFor deviceId date → r.stage.read = some (some rows)
  summary : ∀ sum ∈ db.summaries, sum.isDaily deviceId date → sum.source = some rows

theorem onlySource_step {rows : List SignalRow} (db : Db) (action : Action)
    (hallowed : CronAction deviceId zone action ∧ startsDay zone date action = false)
    (hdb : OnlySource deviceId date rows db) :
    OnlySource deviceId date rows (step db action) := by
  obtain ⟨hcron, hstarts⟩ := hallowed
  constructor
  · intro x hx hfor
    rcases mem_runs_step hx with hx | ⟨_, _, _, _, rfl, rfl⟩ | ⟨_, _, r, _, -, hr, hnext, rfl⟩
    · exact hdb.run x hx hfor
    · obtain ⟨rfl, rfl, rfl, -⟩ := hcron
      rw [startDaily_isFor, hstarts] at hfor
      cases hfor
    · exact read_of_nextStage hnext (hdb.run r (List.mem_of_getElem? hr) hfor)
  · intro sum hsum hdaily
    rcases mem_summaries_step hsum with hsum | ⟨r, hr, sig, ev, hstage, rfl⟩
    · exact hdb.summary sum hsum hdaily
    · rw [dailySummary_isDaily] at hdaily
      have hread := hdb.run r hr hdaily
      rw [hstage] at hread
      exact Option.some.inj hread

theorem eq_of_countP_le_one {α : Type*} {l : List α} {p : α → Bool} (hcount : l.countP p ≤ 1)
    {x y : α} (hx : x ∈ l) (hy : y ∈ l) (hpx : p x) (hpy : p y) : x = y := by
  have hfx : x ∈ l.filter p := List.mem_filter.mpr ⟨hx, hpx⟩
  have hfy : y ∈ l.filter p := List.mem_filter.mpr ⟨hy, hpy⟩
  rw [List.countP_eq_length_filter] at hcount
  cases hfilter : l.filter p with
  | nil => simp [hfilter] at hfx
  | cons first rest =>
      have hrest : rest = [] := by
        rw [hfilter, List.length_cons] at hcount
        exact List.length_eq_zero_iff.mp (by omega)
      subst hrest
      rw [hfilter, List.mem_singleton] at hfx hfy
      rw [hfx, hfy]

/-- The reading of the only run for the date is the source of all that follows. -/
theorem onlySource_read {db : Db} {action : Action} (hcron : CronAction deviceId zone action)
    (hdb : RunsConfigured deviceId zone db) (hroom : occupied deviceId date db ≤ 1)
    (hreads : ReadsFor deviceId date db action) :
    OnlySource deviceId date
      (fetchDailySignals deviceId (computeWindowForDate zone date) db.signals)
      (step db action) := by
  obtain ⟨i, ok, r, rfl, hr, rfl, rfl, hstage⟩ := hreads
  have hok : ok = true := hcron
  have hmem := List.mem_of_getElem? hr
  have hfor : r.isFor r.deviceId r.window.periodDate := DailyRun.isFor_iff.mpr ⟨rfl, rfl⟩
  have hone := List.countP_pos_iff.mpr ⟨r, hmem, hfor⟩
  unfold occupied at hroom
  simp only [step, hr, nextStage, nextSummaries, hstage, hok, if_true, ← (hdb r hmem).2]
  constructor
  · -- the reading run is the only one for its date, so `x` is that run
    intro x hx hxfor
    let stage := Stage.aggregated (some (fetchDailySignals r.deviceId r.window db.signals))
    have hset : (moveRun db.runs i r (some stage)).countP
        (DailyRun.isFor r.deviceId r.window.periodDate) = _ := countP_moveRun_some hr stage
    have hnew : { r with stage := stage } ∈ moveRun db.runs i r (some stage) :=
      mem_replaceAt_of_mem_next (List.mem_singleton_self _)
    rw [eq_of_countP_le_one (hset.trans_le (by omega)) hx hnew hxfor hfor]
    rfl
  · -- a stored row beside the run in flight would be a second one for the date
    intro sum hsum hdaily
    have htwo : 0 < db.summaries.countP (SummaryRow.isDaily r.deviceId r.window.periodDate) :=
      List.countP_pos_iff.mpr ⟨sum, hsum, hdaily⟩
    omega

/-- In a history under cron, what the run for a date reads is what the stored row
of the date was computed from. -/
theorem source_of_read {earlier later : List Action} {action : Action}
    (hcron : CronHistory deviceId zone (earlier ++ action :: later))
    (hreads : ReadsFor deviceId date (run step Db.empty earlier) action) {sum : SummaryRow}
    (hsum : sum ∈ (run step Db.empty (earlier ++ action :: later)).summaries)
    (hdaily : sum.isDaily deviceId date) :
    sum.source = some (fetchDailySignals deviceId (computeWindowForDate zone date)
      (run step Db.empty earlier).signals) := by
  have hstarts := hcron.countP_startsDay_le date
  rw [List.countP_append, List.countP_cons] at hstarts
  obtain ⟨hearlier, hlater⟩ := List.forall_mem_append.mp hcron.each
  obtain ⟨haction, hlater⟩ := List.forall_mem_cons.mp hlater
  have hroom : occupied deviceId date (run step Db.empty earlier) ≤
      0 + earlier.countP (startsDay zone date) := occupied_run_le hearlier
  have hconfigured : RunsConfigured deviceId zone (run step Db.empty earlier) :=
    AllSteps.run_induction runsConfigured_step (by simp [RunsConfigured, Db.empty])
      (.of_forall hearlier)
  have hread := onlySource_read haction hconfigured (by omega) hreads
  -- the run that reads was started before, so no other run for the date is started later
  obtain ⟨i, ok, r, -, hr, hdevice, hdate, -⟩ := hreads
  have hone : 0 < (run step Db.empty earlier).runs.countP (DailyRun.isFor deviceId date) :=
    List.countP_pos_iff.mpr
      ⟨r, List.mem_of_getElem? hr, DailyRun.isFor_iff.mpr ⟨hdevice, hdate⟩⟩
  unfold occupied at hroom
  have hnone : later.countP (startsDay zone date) = 0 := by omega
  have hallowed : ∀ other ∈ later,
      CronAction deviceId zone other ∧ startsDay zone date other = false := by
    intro other hother
    exact ⟨hlater other hother, by simpa using List.countP_eq_zero.mp hnone other hother⟩
  have hsource := AllSteps.run_induction onlySource_step hread (.of_forall hallowed)
  rw [run_append, run_cons] at hsum
  exact hsource.summary sum hsum hdaily

/-! ## A stored row has been read -/

/-- The run for the date has read its signals somewhere in the history. -/
def HasRead (deviceId : String) (date : ℤ) (actions : List Action) : Prop :=
  ∃ earlier action later, actions = earlier ++ action :: later ∧
    ReadsFor deviceId date (run step Db.empty earlier) action

theorem HasRead.append {actions : List Action} (hread : HasRead deviceId date actions)
    (more : List Action) : HasRead deviceId date (actions ++ more) := by
  obtain ⟨earlier, action, later, rfl, hreads⟩ := hread
  exact ⟨earlier, action, later ++ more, by simp, hreads⟩

theorem hasRead_of_read_or_stored (actions : List Action) :
    (∀ r ∈ (run step Db.empty actions).runs, r.isFor deviceId date → r.stage.read.isSome →
      HasRead deviceId date actions) ∧
    ∀ sum ∈ (run step Db.empty actions).summaries, sum.isDaily deviceId date →
      HasRead deviceId date actions := by
  induction actions using List.reverseRecOn with
  | nil => simp [Db.empty]
  | append_singleton actions action ih =>
      obtain ⟨hruns, hsummaries⟩ := ih
      rw [run_append, run_cons, run_nil]
      constructor
      · intro x hx hfor hread
        rcases mem_runs_step hx with
          hx | ⟨_, _, _, _, rfl, rfl⟩ | ⟨i, ok, r, _, rfl, hr, hnext, rfl⟩
        · exact (hruns x hx hfor hread).append _
        · cases hread
        · obtain ⟨sig, hsig⟩ := Option.isSome_iff_exists.mp hread
          rcases read_nextStage hnext hsig with hbefore | ⟨hstage, -⟩
          · exact (hruns r (List.mem_of_getElem? hr) hfor (by simp [hbefore])).append _
          · obtain ⟨hdevice, hdate⟩ := DailyRun.isFor_iff.mp hfor
            exact ⟨actions, _, [], rfl, i, ok, r, rfl, hr, hdevice, hdate, hstage⟩
      · intro sum hsum hdaily
        rcases mem_summaries_step hsum with hsum | ⟨r, hr, sig, ev, hstage, rfl⟩
        · exact (hsummaries sum hsum hdaily).append _
        · rw [dailySummary_isDaily] at hdaily
          exact (hruns r hr hdaily (by simp [hstage, Stage.read])).append _

/-! ## Row ids -/

theorem nextId_le_step (db : Db) (action : Action) : db.nextId ≤ (step db action).nextId := by
  cases action with
  | insertSignal now signal => exact Nat.le_succ _
  | insertEvent row => exact le_rfl
  | cleanupEvents now retentionDays => exact le_rfl
  | _ =>
      simp only [step]
      split <;> exact le_rfl

theorem nextId_le_run (db : Db) (actions : List Action) :
    db.nextId ≤ (run step db actions).nextId := by
  induction actions generalizing db with
  | nil => exact le_rfl
  | cons action rest ih => exact (nextId_le_step db action).trans (ih _)

/-- The database gives the ids in order. -/
theorem id_lt_nextId (actions : List Action) :
    ∀ row ∈ (run step Db.empty actions).signals,
      row.id < (run step Db.empty actions).nextId := by
  have hstep : ∀ (db : Db) (action : Action), (∀ row ∈ db.signals, row.id < db.nextId) →
      ∀ row ∈ (step db action).signals, row.id < (step db action).nextId := by
    intro db action hids row hrow
    rcases mem_signals_step hrow with hrow | ⟨now, signal, rfl, rfl⟩
    · exact (hids row hrow).trans_le (nextId_le_step db action)
    · exact Nat.lt_succ_self _
  exact run_induction hstep (by simp [Db.empty]) actions

/-! ## Coverage -/

/-- An insertion stands before the reading or after it. -/
theorem inserted_cases {earlier later : List Action} {action : Action} {now : ℤ}
    {row : SignalRow} (hreads : ReadsFor deviceId date (run step Db.empty earlier) action)
    (hins : Inserted (earlier ++ action :: later) now row) :
    Inserted earlier now row ∨ .insertSignal now row.toSignal ∈ later := by
  obtain ⟨before, signal, after, hsplit, rfl⟩ := hins
  obtain ⟨i, ok, r, rfl, -⟩ := hreads
  rcases List.append_eq_append_iff.mp hsplit with ⟨middle, rfl, hmiddle⟩ | ⟨middle, rfl, hmiddle⟩
  · cases middle with
    | nil => cases hmiddle
    | cons head tail =>
        obtain ⟨-, rfl⟩ := List.cons.inj hmiddle
        exact Or.inr (by simp)
  · cases middle with
    | nil => cases hmiddle
    | cons head tail =>
        obtain ⟨rfl, -⟩ := List.cons.inj hmiddle
        exact Or.inl ⟨before, signal, tail, rfl, rfl⟩

theorem mem_fetchDailySignals {now : ℤ} {row : SignalRow} {signals : List SignalRow}
    (hday : ForDay deviceId zone date now row.toSignal) (hrow : row ∈ signals) :
    row ∈ fetchDailySignals deviceId (computeWindowForDate zone date) signals := by
  obtain ⟨hdevice, hcontains, -⟩ := hday
  exact List.mem_filter.mpr ⟨hrow, by simp [inDailyFetch, hdevice, hcontains]⟩

/-- A row that the stored summary counted was there when the signals were read. -/
theorem mem_signals_of_counted {earlier later : List Action} {action : Action}
    (hcron : CronHistory deviceId zone (earlier ++ action :: later))
    (hreads : ReadsFor deviceId date (run step Db.empty earlier) action) {sum : SummaryRow}
    (hsum : sum ∈ (run step Db.empty (earlier ++ action :: later)).summaries)
    (hdaily : sum.isDaily deviceId date) {row : SignalRow} (hcounted : sum.Counted row) :
    row ∈ (run step Db.empty earlier).signals := by
  obtain ⟨rows, hrows, hrow⟩ := hcounted
  rw [source_of_read hcron hreads hsum hdaily, Option.mem_some_iff] at hrows
  rw [← hrows] at hrow
  exact List.mem_of_mem_filter hrow

/-- **The summary covers the day exactly when its run reads last.**  In every
history under the cron line of a daily interval, the stored daily row of a date
counts every signal of the day that is inserted by the end of the day, if and only
if none of them arrives after the run of the date has read the signals, and none
has been removed before. -/
theorem coversDay_iff (deviceId : String) (zone : Zone) (date : ℤ) (actions : List Action)
    (hcron : CronHistory deviceId zone actions)
    (hstored : ∃ sum ∈ (run step Db.empty actions).summaries, sum.isDaily deviceId date) :
    CoversDay deviceId zone date actions ↔ ReadLast deviceId zone date actions := by
  constructor
  · intro hcovers earlier action later hsplit hreads
    subst hsplit
    obtain ⟨sum, hsum, hdaily⟩ := hstored
    have hthere : ∀ now row, Inserted (earlier ++ action :: later) now row →
        ForDay deviceId zone date now row.toSignal →
          row ∈ (run step Db.empty earlier).signals := fun now row hins hday =>
      mem_signals_of_counted hcron hreads hsum hdaily (hcovers sum hsum hdaily now row hins hday)
    constructor
    · intro now signal hmem hday
      obtain ⟨before, after, rfl⟩ := List.append_of_mem hmem
      -- the id given to the late row is beyond those of the rows that were read
      have hlate : Inserted (earlier ++ action :: (before ++ .insertSignal now signal :: after))
          now ⟨signal, (run step Db.empty (earlier ++ action :: before)).nextId⟩ :=
        ⟨earlier ++ action :: before, signal, after, by simp, rfl⟩
      have hlt := id_lt_nextId earlier _ (hthere now _ hlate hday)
      have hle := nextId_le_run (run step Db.empty earlier) (action :: before)
      rw [← run_append] at hle
      exact absurd hlt (not_lt.mpr hle)
    · rintro now row ⟨before, signal, after, rfl, rfl⟩ hday
      exact hthere now _ ⟨before, signal, after ++ action :: later, by simp, rfl⟩ hday
  · intro hlast sum hsum hdaily now row hins hday
    obtain ⟨earlier, action, later, rfl, hreads⟩ :=
      (hasRead_of_read_or_stored actions).2 sum hsum hdaily
    obtain ⟨hlater, hearlier⟩ := hlast earlier action later rfl hreads
    -- the summary counted what was read, so it is enough that the row was there to be read
    refine ⟨_, source_of_read hcron hreads hsum hdaily, mem_fetchDailySignals hday ?_⟩
    rcases inserted_cases hreads hins with hbefore | hafter
    · exact hearlier now row hbefore hday
    · exact absurd hday (hlater now row.toSignal hafter)

/-! ## A history of each kind -/

/-- One heartbeat of the device at an instant. -/
def heartbeatAt (instant : ℤ) : Signal := ⟨"d", some 71, "h", some 1, none, none, instant⟩

/-- Cron starts the run of day 0 at midnight, and the run goes through. -/
def midnightRun : List Action :=
  .startDaily "d" (.fixed 0) none 0 :: List.replicate 4 (.resume 0 true)

theorem cronHistory_midnightRun {first second : List Action}
    (hfirst : ∀ action ∈ first, ∃ now signal, action = .insertSignal now signal)
    (hsecond : ∀ action ∈ second, ∃ now signal, action = .insertSignal now signal) :
    CronHistory "d" (.fixed 0) (first ++ midnightRun ++ second) := by
  have hnone : ∀ actions : List Action,
      (∀ action ∈ actions, ∃ now signal, action = .insertSignal now signal) →
        actions.filterMap (startMinute (.fixed 0)) = [] := by
    intro actions hactions
    refine List.filterMap_eq_nil_iff.mpr fun action haction => ?_
    obtain ⟨now, signal, rfl⟩ := hactions action haction
    rfl
  constructor
  · intro action haction
    rcases List.mem_append.mp haction with haction | haction
    · rcases List.mem_append.mp haction with haction | haction
      · obtain ⟨now, signal, rfl⟩ := hfirst action haction
        trivial
      · simp only [midnightRun, List.replicate, List.mem_cons, List.not_mem_nil,
          or_false] at haction
        rcases haction with rfl | rfl | rfl | rfl | rfl
        · exact ⟨rfl, rfl, rfl, by decide⟩
        all_goals rfl
    · obtain ⟨now, signal, rfl⟩ := hsecond action haction
      trivial
  · rw [List.filterMap_append, List.filterMap_append, hnone first hfirst, hnone second hsecond]
    decide

theorem forall_insertSignal_singleton (now : ℤ) (signal : Signal) :
    ∀ action ∈ [Action.insertSignal now signal],
      ∃ now signal, action = Action.insertSignal now signal := by
  rintro action haction
  exact ⟨now, signal, List.mem_singleton.mp haction⟩

/-- The only signal of the day arrives with midnight. -/
def earlyHistory : List Action :=
  [.insertSignal 0 (heartbeatAt 0)] ++ midnightRun ++ []

/-- The only signal of the day arrives at noon. -/
def lateHistory : List Action :=
  [] ++ midnightRun ++ [.insertSignal (12 * hourMicros) (heartbeatAt (12 * hourMicros))]

theorem readLast_earlyHistory : ReadLast "d" (.fixed 0) 0 earlyHistory := by
  intro earlier action later hsplit hreads
  cases earlier with
  | nil =>
      obtain ⟨rfl, -⟩ := List.cons.inj hsplit
      obtain ⟨i, ok, r, hresume, -⟩ := hreads
      cases hresume
  | cons first rest =>
      obtain ⟨rfl, -⟩ := List.cons.inj hsplit
      have hrest : midnightRun = rest ++ action :: later := (List.cons.inj hsplit).2
      have hnone : ∀ now signal, Action.insertSignal now signal ∉ rest ++ action :: later := by
        rw [← hrest]
        simp [midnightRun]
      constructor
      · intro now signal hmem
        exact absurd (by simp [hmem]) (hnone now signal)
      · rintro now row ⟨before, signal, after, hinsert, rfl⟩ -
        cases before with
        | cons head tail =>
            obtain ⟨-, rfl⟩ := List.cons.inj hinsert
            exact absurd (by simp) (hnone now signal)
        | nil =>
            obtain ⟨hinsert, -⟩ := List.cons.inj hinsert
            cases hinsert
            have htake : rest = midnightRun.take rest.length := by
              have htake := congrArg (List.take rest.length) hrest
              simpa using htake.symm
            have hlength : rest.length ∈ List.range 6 := by
              have htotal := congrArg List.length hrest
              simp [midnightRun] at htotal
              simp
              omega
            have hthere : ∀ k ∈ List.range 6, (⟨heartbeatAt 0, 0⟩ : SignalRow) ∈ (run step Db.empty
                (.insertSignal 0 (heartbeatAt 0) :: midnightRun.take k)).signals := by decide
            rw [htake]
            exact hthere _ hlength

theorem coversDay_earlyHistory : CoversDay "d" (.fixed 0) 0 earlyHistory :=
  (coversDay_iff "d" (.fixed 0) 0 earlyHistory
    (cronHistory_midnightRun (forall_insertSignal_singleton _ _) (by simp)) (by decide)).mpr
      readLast_earlyHistory

/-- The summary of the day is computed at midnight, and misses the signal of noon. -/
theorem not_coversDay_lateHistory :
    CronHistory "d" (.fixed 0) lateHistory ∧ ¬ CoversDay "d" (.fixed 0) 0 lateHistory := by
  refine ⟨cronHistory_midnightRun (by simp) (forall_insertSignal_singleton _ _), ?_⟩
  intro hcovers
  have hday : ForDay "d" (.fixed 0) 0 (12 * hourMicros) (heartbeatAt (12 * hourMicros)) :=
    ⟨rfl, by decide, by decide⟩
  have hins : Inserted lateHistory (12 * hourMicros) ⟨heartbeatAt (12 * hourMicros), 0⟩ :=
    ⟨midnightRun, _, [], rfl, rfl⟩
  have hcounted : ∀ sum ∈ (run step Db.empty lateHistory).summaries,
      ¬ sum.Counted ⟨heartbeatAt (12 * hourMicros), 0⟩ := by decide
  obtain ⟨sum, hsum, hdaily⟩ : ∃ sum ∈ (run step Db.empty lateHistory).summaries,
      sum.isDaily "d" 0 := by decide
  exact hcounted sum hsum (hcovers sum hsum hdaily _ _ hins hday)

end OroEdge.Jobs
