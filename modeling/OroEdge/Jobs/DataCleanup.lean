import OroEdge.Jobs.Care
import OroEdge.Jobs.LatestKept
import OroEdge.Scheduler.JobExecutor

/-!
# The cleanup job

`data_cleanup` runs five statements, each in a transaction of its own and with a clock of its own,
and then deletes media files.  A statement that fails deletes nothing; an exception during the walk
through the directory ends it, with the files that have been deleted before.

What the job reports is what is gone (`accounted_cleanup`).  A run whose cutoffs are not later
than those of a run before has nothing to do, even if the engine ranks the rows in another order
(`dataCleanup_again`).

Four of the statements and the walk through the directory are of one kind: a predicate on a time
against a cutoff, and what meets it goes (`deleteWhere`, `pruneMedia`).  For these a second run
with no later a cutoff finds nothing, because what is left did not meet the first one
(`deleteWhere_again`).  The signals are the exception, since which rows are protected depends on
the other rows and on the ranking; there the argument is that of `OroEdge.Lib.Pruning`, that a
pruning that keeps the newest of each part is done after one round (`cleanupSignals_again`).
-/

namespace OroEdge.Jobs

open OroEdge.Lib OroEdge.Scheduler

/-! ## The tables and the files -/

/-- A row with the time that the cleanup compares. -/
structure Timed (Row : Type) where
  row : Row
  time : ℤ
  deriving Repr

/-- A row of `stm_retry_queue`. -/
structure RetryRow where
  status : String
  updatedAt : ℤ
  deriving DecidableEq, Repr

/-- An entry of the media directory; the time of the last write is in nanoseconds. -/
structure MediaEntry where
  path : String
  isRegularFile : Bool
  lastWriteTime : ℤ
  deriving DecidableEq, Repr

/-- The times of the notifications are `generated_at`, and those of the executions `started_at`.
There is no `media` without a directory. -/
structure CleanupDb where
  signals : List SignalRow
  events : List EventRow
  summaries : List SummaryRow
  notifications : List (Timed Notification)
  executions : List (Timed ExecutionRow)
  retryQueue : List RetryRow
  media : Option (List MediaEntry)

/-! ## Statements -/

/-- The clock of a statement, and whether it succeeds. -/
structure Statement where
  now : ℤ
  ok : Bool
  deriving DecidableEq, Repr

/-- `DELETE` with `execute_prepared_count`: the rows that are left, and the number of the others. -/
def deleteWhere {Row : Type} (ok : Bool) (gone : Row → Bool) (rows : List Row) : List Row × ℕ :=
  if ok then (rows.filter fun row => !gone row, rows.countP gone) else (rows, 0)

/-- `time < NOW() - ($1 || ' days')::interval`. -/
def expired {Row : Type} (now retentionDays : ℤ) (row : Timed Row) : Bool :=
  decide (row.time < retentionCutoff now retentionDays)

/-- `stm_cleanup_retry_queue`. -/
def deadLetter (now retentionDays : ℤ) (row : RetryRow) : Bool :=
  decide (row.status = "dead_letter") && decide (row.updatedAt < retentionCutoff now retentionDays)

/-! ## Files -/

/-- An hour of the clock of the files. -/
def hourNanos : ℤ := 3600000000000

/-- A regular file of more than `retention_days * 24` whole hours. -/
def outdated (now retentionDays : ℤ) (entry : MediaEntry) : Bool :=
  entry.isRegularFile &&
    decide (wrap32 (retentionDays * 24) < (now - entry.lastWriteTime).tdiv hourNanos)

/-- The walk through the directory: what is left, the number of the deleted files, and the text of
the exception that ended it. -/
def pruneMedia (now retentionDays : ℤ) (throws : MediaEntry → Option String) :
    List MediaEntry → List MediaEntry × ℕ × Option String
  | [] => ([], 0, none)
  | entry :: rest =>
      match throws entry with
      | some what => (entry :: rest, 0, some what)
      | none =>
          let walked := pruneMedia now retentionDays throws rest
          if outdated now retentionDays entry then (walked.1, walked.2.1 + 1, walked.2.2)
          else (entry :: walked.1, walked.2)

/-! ## The job -/

/-- The statements of a run, the order in which the engine ranks the signals, the clock and the
exceptions of the file system, and the casts of the machine. -/
structure CleanupRun where
  ranked : List SignalRow
  signals : Statement
  events : Statement
  notifications : Statement
  executions : Statement
  retryQueue : Statement
  filesNow : ℤ
  throws : MediaEntry → Option String
  casts : FloatCasts

/-- How much a run has deleted. -/
structure Deleted where
  signals : ℕ
  events : ℕ
  notifications : ℕ
  executions : ℕ
  retryQueue : ℕ
  files : ℕ
  deriving DecidableEq, Repr

/-- What a run reports as processed. -/
def Deleted.total (d : Deleted) : ℕ :=
  d.signals + d.events + d.notifications + d.executions + d.retryQueue + d.files

/-- The result of a run, with the text of the exception. -/
def cleanupResult (retentionDays : ℤ) (d : Deleted) (error : Option String) : JobResult where
  success := error.isNone
  itemsProcessed := d.total
  error := error.elim "" fun what => "Disk cleanup error: " ++ what
  metadata := [("events_deleted", .int d.events), ("executions_deleted", .int d.executions),
    ("files_deleted", .int d.files), ("notifications_deleted", .int d.notifications),
    ("retention_days", .int retentionDays), ("retry_deleted", .int d.retryQueue),
    ("signals_deleted", .int d.signals)]

/-- The files of a run; without a directory there is nothing to do. -/
def pruneDirectory (retentionDays : ℤ) (r : CleanupRun) (media : Option (List MediaEntry)) :
    Option (List MediaEntry) × ℕ × Option String :=
  match media with
  | none => (none, 0, none)
  | some entries =>
      let walked := pruneMedia r.filesNow retentionDays r.throws entries
      (some walked.1, walked.2)

/-- The job, with the retention that it has read. -/
def cleanup (retentionDays : ℤ) (r : CleanupRun) (s : CleanupDb) : JobResult × CleanupDb :=
  let signals := deleteWhere r.signals.ok
    (cleanupDeletes r.ranked s.summaries r.signals.now retentionDays) s.signals
  let events := deleteWhere r.events.ok (fun row : EventRow =>
    disposable s.summaries row.deviceId row.detectedAt r.events.now retentionDays) s.events
  let notifications := deleteWhere r.notifications.ok (expired r.notifications.now retentionDays)
    s.notifications
  let executions := deleteWhere r.executions.ok (expired r.executions.now retentionDays)
    s.executions
  let retryQueue := deleteWhere r.retryQueue.ok (deadLetter r.retryQueue.now retentionDays)
    s.retryQueue
  let media := pruneDirectory retentionDays r s.media
  (cleanupResult retentionDays
      ⟨signals.2, events.2, notifications.2, executions.2, retryQueue.2, media.2.1⟩ media.2.2,
    { s with
      signals := signals.1
      events := events.1
      notifications := notifications.1
      executions := executions.1
      retryQueue := retryQueue.1
      media := media.1 })

/-- The retention; `none` is an exception, as the value is of another type. -/
def readRetention (casts : FloatCasts) (config : Json) : Option ℤ :=
  config.valueAt (Json.asInt32 casts) ["scheduled_task_manager", "retention_days"] 30

/-- The job; `none` is an exception of its first line. -/
def dataCleanup (config : Json) (r : CleanupRun) (s : CleanupDb) :
    Option (JobResult × CleanupDb) := do
  let retentionDays ← readRetention r.casts config
  return cleanup retentionDays r s

/-! ## What is reported -/

/-- The rows and files that a cleanup can delete. -/
def CleanupDb.size (s : CleanupDb) : ℕ :=
  s.signals.length + s.events.length + s.notifications.length + s.executions.length +
    s.retryQueue.length + (s.media.getD []).length

section

variable {Row : Type}

theorem length_deleteWhere (ok : Bool) (gone : Row → Bool) (rows : List Row) :
    (deleteWhere ok gone rows).1.length + (deleteWhere ok gone rows).2 = rows.length := by
  unfold deleteWhere
  split
  · have hsplit := List.length_eq_countP_add_countP gone (l := rows)
    rw [← List.countP_eq_length_filter]
    simp only [Bool.decide_eq_true, decide_not] at hsplit ⊢
    omega
  · rfl

theorem length_pruneMedia (now retentionDays : ℤ) (throws : MediaEntry → Option String)
    (entries : List MediaEntry) :
    (pruneMedia now retentionDays throws entries).1.length +
      (pruneMedia now retentionDays throws entries).2.1 = entries.length := by
  induction entries with
  | nil => rfl
  | cons entry rest ih =>
      unfold pruneMedia
      split
      · rfl
      · dsimp only
        split
        · simp only [List.length_cons]
          omega
        · simp only [List.length_cons]
          omega

theorem length_pruneDirectory (retentionDays : ℤ) (r : CleanupRun)
    (media : Option (List MediaEntry)) :
    ((pruneDirectory retentionDays r media).1.getD []).length +
      (pruneDirectory retentionDays r media).2.1 = (media.getD []).length := by
  cases media with
  | none => rfl
  | some entries => exact length_pruneMedia r.filesNow retentionDays r.throws entries

end

/-- What a run reports is what is missing after it, also if statements have failed or the walk
through the directory was ended. -/
theorem accounted_cleanup (retentionDays : ℤ) (r : CleanupRun) (s : CleanupDb) :
    (cleanup retentionDays r s).2.size + (cleanup retentionDays r s).1.itemsProcessed = s.size := by
  dsimp only [cleanup, cleanupResult, Deleted.total, CleanupDb.size]
  have hsignals := length_deleteWhere r.signals.ok
    (cleanupDeletes r.ranked s.summaries r.signals.now retentionDays) s.signals
  have hevents := length_deleteWhere r.events.ok (fun row : EventRow =>
    disposable s.summaries row.deviceId row.detectedAt r.events.now retentionDays) s.events
  have hnotifications := length_deleteWhere r.notifications.ok
    (expired r.notifications.now retentionDays) s.notifications
  have hexecutions := length_deleteWhere r.executions.ok
    (expired r.executions.now retentionDays) s.executions
  have hretryQueue := length_deleteWhere r.retryQueue.ok
    (deadLetter r.retryQueue.now retentionDays) s.retryQueue
  have hmedia := length_pruneDirectory retentionDays r s.media
  omega

/-! ## A second run -/

/-- No cutoff of the second run is later than that of the first. -/
structure NoLater (days days' : ℤ) (r r' : CleanupRun) : Prop where
  signals : retentionCutoff r'.signals.now days' ≤ retentionCutoff r.signals.now days
  events : retentionCutoff r'.events.now days' ≤ retentionCutoff r.events.now days
  notifications :
    retentionCutoff r'.notifications.now days' ≤ retentionCutoff r.notifications.now days
  executions : retentionCutoff r'.executions.now days' ≤ retentionCutoff r.executions.now days
  retryQueue : retentionCutoff r'.retryQueue.now days' ≤ retentionCutoff r.retryQueue.now days
  files : ∀ entry, outdated r'.filesNow days' entry = true → outdated r.filesNow days entry = true

/-- All statements succeed, and the walk through the directory is not ended. -/
structure CleanupRun.Succeeds (r : CleanupRun) : Prop where
  signals : r.signals.ok = true
  events : r.events.ok = true
  notifications : r.notifications.ok = true
  executions : r.executions.ok = true
  retryQueue : r.retryQueue.ok = true
  files : ∀ entry, r.throws entry = none

section

variable {Row : Type}

theorem deleteWhere_eq_self {ok : Bool} {gone : Row → Bool} {rows : List Row}
    (hkeep : ∀ row ∈ rows, gone row = false) : deleteWhere ok gone rows = (rows, 0) := by
  unfold deleteWhere
  split
  · rw [List.filter_eq_self.mpr fun row hrow => by rw [hkeep row hrow]; rfl,
      List.countP_eq_zero.mpr fun row hrow => by rw [hkeep row hrow]; exact Bool.false_ne_true]
  · rfl

/-- After a statement that succeeded, one that deletes no more has nothing to delete. -/
theorem deleteWhere_again {ok : Bool} {gone gone' : Row → Bool} {rows : List Row}
    (hfewer : ∀ row, gone' row = true → gone row = true) :
    deleteWhere ok gone' (deleteWhere true gone rows).1 = ((deleteWhere true gone rows).1, 0) := by
  refine deleteWhere_eq_self fun row hrow => ?_
  have hstays := (List.mem_filter.mp hrow).2
  by_contra hgone
  rw [hfewer row (Bool.eq_true_of_not_eq_false hgone)] at hstays
  cases hstays

theorem disposable_of_cutoff_le {summaries : List SummaryRow} {deviceId : String}
    {instant now now' days days' : ℤ} (hle : retentionCutoff now' days' ≤ retentionCutoff now days)
    (hgone : disposable summaries deviceId instant now' days' = true) :
    disposable summaries deviceId instant now days = true := by
  simp only [disposable, Bool.or_eq_true, decide_eq_true_eq] at hgone ⊢
  exact hgone.imp_right fun hlt => hlt.trans_le hle

theorem expired_of_cutoff_le {now now' days days' : ℤ}
    (hle : retentionCutoff now' days' ≤ retentionCutoff now days) (row : Timed Row)
    (hgone : expired now' days' row = true) : expired now days row = true :=
  decide_eq_true ((of_decide_eq_true hgone).trans_le hle)

theorem deadLetter_of_cutoff_le {now now' days days' : ℤ}
    (hle : retentionCutoff now' days' ≤ retentionCutoff now days) (row : RetryRow)
    (hgone : deadLetter now' days' row = true) : deadLetter now days row = true := by
  simp only [deadLetter, Bool.and_eq_true, decide_eq_true_eq] at hgone ⊢
  exact ⟨hgone.1, hgone.2.trans_le hle⟩

/-- The files that a whole walk has left are not outdated. -/
theorem pruneMedia_of_succeeds {now days : ℤ} {throws : MediaEntry → Option String}
    (hthrows : ∀ entry, throws entry = none) (entries : List MediaEntry) :
    (pruneMedia now days throws entries).1 =
      entries.filter fun entry => !outdated now days entry := by
  induction entries with
  | nil => rfl
  | cons entry rest ih =>
      unfold pruneMedia
      rw [hthrows entry]
      dsimp only
      cases houtdated : outdated now days entry with
      | true =>
          rw [if_pos rfl, List.filter_cons_of_neg (by simp [houtdated]), ih]
      | false =>
          rw [if_neg Bool.false_ne_true, List.filter_cons_of_pos (by simp [houtdated]), ih]

theorem pruneMedia_eq_self {now days : ℤ} (throws : MediaEntry → Option String)
    {entries : List MediaEntry} (hkeep : ∀ entry ∈ entries, outdated now days entry = false) :
    (pruneMedia now days throws entries).1 = entries ∧
      (pruneMedia now days throws entries).2.1 = 0 := by
  induction entries with
  | nil => exact ⟨rfl, rfl⟩
  | cons entry rest ih =>
      obtain ⟨hentry, hrest⟩ := List.forall_mem_cons.mp hkeep
      unfold pruneMedia
      split
      · exact ⟨rfl, rfl⟩
      · dsimp only
        rw [hentry, if_neg Bool.false_ne_true, (ih hrest).1, (ih hrest).2]
        exact ⟨rfl, rfl⟩

theorem pruneDirectory_again {days days' : ℤ} {r r' : CleanupRun}
    (hthrows : ∀ entry, r.throws entry = none)
    (hfewer : ∀ entry, outdated r'.filesNow days' entry = true →
      outdated r.filesNow days entry = true) (media : Option (List MediaEntry)) :
    let left := (pruneDirectory days r media).1
    (pruneDirectory days' r' left).1 = left ∧ (pruneDirectory days' r' left).2.1 = 0 := by
  cases media with
  | none => exact ⟨rfl, rfl⟩
  | some entries =>
      have hkeep : ∀ entry ∈ (pruneMedia r.filesNow days r.throws entries).1,
          outdated r'.filesNow days' entry = false := by
        intro entry hentry
        rw [pruneMedia_of_succeeds hthrows] at hentry
        by_contra hgone
        have hstays := (List.mem_filter.mp hentry).2
        rw [hfewer entry (Bool.eq_true_of_not_eq_false hgone)] at hstays
        cases hstays
      obtain ⟨hsame, hnone⟩ := pruneMedia_eq_self r'.throws hkeep
      exact ⟨congrArg some hsame, hnone⟩

end

/-- The signals that a cleanup has left, however the second one ranks them. -/
theorem cleanupSignals_again {rows ranked again : List SignalRow} {summaries : List SummaryRow}
    {now now' days days' : ℤ} (hids : (rows.map SignalRow.id).Nodup)
    (hranked : Sql.IsOrdering (·.observedAt) ranked rows)
    (hagain : Sql.IsOrdering (·.observedAt) again
      (cleanupSignals ranked summaries now days rows))
    (hle : retentionCutoff now' days' ≤ retentionCutoff now days) :
    cleanupSignals again summaries now' days' (cleanupSignals ranked summaries now days rows) =
      cleanupSignals ranked summaries now days rows := by
  have hpruned := isPruned_cleanupSignals hids hranked summaries now days
  have hrest := isPruned_cleanupSignals (hids.sublist (hpruned.sublist.map SignalRow.id)) hagain
    summaries now' days'
  refine hpruned.again hranked (List.Nodup.of_map _ hids) ?_
    (fun row _ hgone => disposable_of_cutoff_le hle hgone) hagain hrest
  intro row other hpart hkey hgone
  have hdevice : row.deviceId = other.deviceId := congrArg Prod.fst hpart
  rwa [← hdevice, ← hkey]

theorem deleteWhere_signals (ranked rows : List SignalRow) (summaries : List SummaryRow)
    (now days : ℤ) : (deleteWhere true (cleanupDeletes ranked summaries now days) rows).1 =
      cleanupSignals ranked summaries now days rows := rfl

/-- **A cleanup after a cleanup has nothing to do**, as long as its cutoffs are not later: whatever
order the engine ranks the signals in, and whether or not its statements succeed. -/
theorem dataCleanup_again {config config' : Json} {r r' : CleanupRun} {s s' s'' : CleanupDb}
    {result result' : JobResult} {days days' : ℤ} (hids : (s.signals.map SignalRow.id).Nodup)
    (hranked : Sql.IsOrdering (·.observedAt) r.ranked s.signals) (hsucceeds : r.Succeeds)
    (hdays : readRetention r.casts config = some days)
    (hdays' : readRetention r'.casts config' = some days')
    (hlater : NoLater days days' r r')
    (hfirst : dataCleanup config r s = some (result, s'))
    (hagain : Sql.IsOrdering (·.observedAt) r'.ranked s'.signals)
    (hsecond : dataCleanup config' r' s' = some (result', s'')) :
    s'' = s' ∧ result'.itemsProcessed = 0 := by
  simp only [dataCleanup, hdays, hdays', Option.bind_eq_bind, Option.bind_some,
    Option.pure_def, Option.some.injEq] at hfirst hsecond
  obtain ⟨-, rfl⟩ := Prod.mk.inj hfirst
  obtain ⟨rfl, rfl⟩ := Prod.mk.inj hsecond
  dsimp only [cleanup] at hagain
  rw [hsucceeds.signals, deleteWhere_signals] at hagain
  have hsignals : deleteWhere r'.signals.ok
      (cleanupDeletes r'.ranked s.summaries r'.signals.now days')
      (cleanupSignals r.ranked s.summaries r.signals.now days s.signals) =
        (cleanupSignals r.ranked s.summaries r.signals.now days s.signals, 0) := by
    have hself := cleanupSignals_again hids hranked hagain hlater.signals
    refine deleteWhere_eq_self fun row hrow => ?_
    simpa using List.filter_eq_self.mp hself row hrow
  have hmedia := pruneDirectory_again hsucceeds.files hlater.files s.media
  dsimp only [cleanup, cleanupResult, Deleted.total]
  rw [hsucceeds.signals, hsucceeds.events, hsucceeds.notifications, hsucceeds.executions,
    hsucceeds.retryQueue, deleteWhere_signals, hsignals,
    deleteWhere_again fun row => disposable_of_cutoff_le hlater.events,
    deleteWhere_again (expired_of_cutoff_le hlater.notifications),
    deleteWhere_again (expired_of_cutoff_le hlater.executions),
    deleteWhere_again (deadLetter_of_cutoff_le hlater.retryQueue), hmedia.1, hmedia.2]
  exact ⟨rfl, rfl⟩

/-! ### A day after the retention -/

/-- Six readings and an old notification. -/
def sixReadings : CleanupDb where
  signals := insertedRows sixInserts
  events := []
  summaries := []
  notifications := [⟨⟨"device", none, "user", "Care", "key", "title", none, "medium", "scheduled",
    .null, "dedupe"⟩, 0⟩]
  executions := []
  retryQueue := [⟨"dead_letter", 0⟩, ⟨"pending", 0⟩]
  media := some [⟨"old.mp4", true, 0⟩, ⟨"directory", false, 0⟩]

/-- The thirty-first day. -/
def thirtyFirstDay (ranked : List SignalRow) : CleanupRun where
  ranked := ranked
  signals := ⟨31 * dayMicros, true⟩
  events := ⟨31 * dayMicros, true⟩
  notifications := ⟨31 * dayMicros, true⟩
  executions := ⟨31 * dayMicros, true⟩
  retryQueue := ⟨31 * dayMicros, true⟩
  filesNow := 31 * 24 * hourNanos
  throws _ := none
  casts := .saturating

/-- The first run deletes four things, the second none. -/
theorem dataCleanup_again_sixReadings :
    let first := cleanup 30 (thirtyFirstDay sixReadings.signals.reverse) sixReadings
    let second := cleanup 30 (thirtyFirstDay first.2.signals.reverse) first.2
    first.1.itemsProcessed = 4 ∧ second.2 = first.2 ∧ second.1.itemsProcessed = 0 := by
  intro first second
  have hconfig : readRetention .saturating (.obj []) = some 30 := rfl
  have hlater : NoLater 30 30 (thirtyFirstDay sixReadings.signals.reverse)
      (thirtyFirstDay first.2.signals.reverse) :=
    ⟨le_rfl, le_rfl, le_rfl, le_rfl, le_rfl, fun _ => id⟩
  exact ⟨by decide +kernel, dataCleanup_again (by decide +kernel) (by decide +kernel)
    ⟨rfl, rfl, rfl, rfl, rfl, fun _ => rfl⟩ hconfig hconfig hlater rfl (by decide +kernel) rfl⟩

end OroEdge.Jobs
