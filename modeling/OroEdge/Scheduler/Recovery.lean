import OroEdge.Scheduler.JobExecutor
import Mathlib.Data.List.Induction

/-!
# Locks of instances that have crashed

Nobody releases the lock of an instance that has crashed while it runs a job.  Its row stays in
the table, and another instance takes it over once it has expired.

So a job is refused for a limited time only.  Wherever the database refuses the lock of a job, a row
is in the way that has not expired.  Nothing but an attempt writes rows, and an attempt does so only
where it finds none, or an expired one (`WritesRow`); so the row in the way is, field by field, the
one that was written when its owner was last granted the lock, and it is in the way until the clock
of the database has passed the time of that attempt by `lockTtl` (`refused_of_recent`).

The proof follows the row back through the history.  A row that is there after an action was there
before it, or the action has written it (`table_step`), so by induction on the history every row
has an origin (`origin_run`).
-/

namespace OroEdge.Scheduler.Executors

open OroEdge.Lib

/-- An attempt of an idle instance to run a job reaches the database, which finds no lock of the
job that has not expired, and writes a row. -/
structure WritesRow (s : Executors) (owner jobName : String) (nowMs : ℤ) (delivery : Delivery)
    (row : LockRow) : Prop where
  idle : s.stage owner = .idle
  reached : delivery ≠ .failed
  free : ∀ held ∈ s.locks.table jobName, held.lockedUntil < s.locks.now
  written : ∃ job, findJob jobName = some job ∧ row =
    ⟨owner ++ "_" ++ toString nowMs, s.locks.now, secondsFrom s.locks.now job.lockTtl, owner⟩

/-- Where a row comes from: in the `history` that leads from `start`, an attempt of its owner has
written it. -/
def Origin (start : Executors) (history : List Action) (jobName : String) (row : LockRow) :
    Prop :=
  ∃ earlier nowMs delivery later,
    history = earlier ++ .tryAcquire row.owner jobName nowMs delivery :: later ∧
      WritesRow (run step start earlier) row.owner jobName nowMs delivery row

section

variable {s : Executors} {jobName : String} {row : LockRow}

theorem Origin.snoc {start : Executors} {history : List Action}
    (horigin : Origin start history jobName row) (action : Action) :
    Origin start (history ++ [action]) jobName row := by
  obtain ⟨earlier, nowMs, delivery, later, rfl, hwrites⟩ := horigin
  exact ⟨earlier, nowMs, delivery, later ++ [action], by simp, hwrites⟩

theorem name_of_findJob {job : ExecutedJob} (hfind : findJob jobName = some job) :
    job.name = jobName := by
  have hname := List.find?_some hfind
  exact of_decide_eq_true hname

/-- The row after an attempt to acquire it is the one before, or a new one where none was in the
way. -/
theorem table_tryAcquire {locks : Locks} {owner other : String} {ttlSeconds nowMs : ℤ}
    {delivery : Delivery}
    (hrow : (locks.tryAcquire owner other ttlSeconds nowMs delivery).1.table jobName = some row) :
    locks.table jobName = some row ∨ (jobName = other ∧ delivery ≠ .failed ∧
      (∀ held ∈ locks.table jobName, held.lockedUntil < locks.now) ∧
      row = ⟨owner ++ "_" ++ toString nowMs, locks.now, secondsFrom locks.now ttlSeconds,
        owner⟩) := by
  by_cases hsame : jobName = other
  · subst hsame
    rcases Locks.lockAcquire_cases locks.now (owner ++ "_" ++ toString nowMs) ttlSeconds owner
      (locks.table jobName) with ⟨hfree, hacquired⟩ | hacquired
    · cases delivery with
      | failed => exact Or.inl hrow
      | executed =>
          simp only [Locks.tryAcquire, hacquired, if_true, Locks.setGranted, Locks.setRow,
            Function.update_self, Option.some.injEq] at hrow
          exact Or.inr ⟨rfl, by decide, hfree, hrow.symm⟩
      | unheard =>
          simp only [Locks.tryAcquire, hacquired, Locks.setRow, Function.update_self,
            Option.some.injEq] at hrow
          exact Or.inr ⟨rfl, by decide, hfree, hrow.symm⟩
    · cases delivery with
      | failed => exact Or.inl hrow
      | executed =>
          simp only [Locks.tryAcquire, hacquired] at hrow
          exact Or.inl hrow
      | unheard =>
          simp only [Locks.tryAcquire, hacquired, Locks.setRow, Function.update_self] at hrow
          exact Or.inl hrow
  · left
    unfold Locks.tryAcquire at hrow
    cases delivery with
    | failed => exact hrow
    | unheard => simpa only [Locks.setRow, Function.update_of_ne hsame] using hrow
    | executed =>
        dsimp only at hrow
        split at hrow
        · simpa only [Locks.setGranted, Locks.setRow, Function.update_of_ne hsame] using hrow
        · exact hrow

/-- A release writes no row. -/
theorem table_release {locks : Locks} {owner other : String} {delivery : Delivery}
    (hrow : (locks.release owner other delivery).table jobName = some row) :
    locks.table jobName = some row := by
  unfold Locks.release at hrow
  split at hrow
  · exact hrow
  · by_cases hsame : jobName = other
    · subst hsame
      simp only [Locks.setGranted, Locks.setRow, Function.update_self, lockRelease] at hrow
      exact (Option.filter_eq_some_iff.mp hrow).1
    · simpa only [Locks.setGranted, Locks.setRow, Function.update_of_ne hsame] using hrow

/-- A row after an action is one that was there, or the action has written it. -/
theorem table_step {action : Action} (hrow : (s.step action).locks.table jobName = some row) :
    s.locks.table jobName = some row ∨ ∃ nowMs delivery,
      action = .tryAcquire row.owner jobName nowMs delivery ∧
        WritesRow s row.owner jobName nowMs delivery row := by
  cases action with
  | tryAcquire owner other nowMs delivery =>
      simp only [Executors.step] at hrow
      split at hrow
      · rename_i job hidle hfind
        have hname := name_of_findJob hfind
        have hacquired : (s.locks.tryAcquire owner other job.lockTtl nowMs delivery).1.table
            jobName = some row := by
          rw [← hname]
          unfold Executors.acquire at hrow
          dsimp only at hrow
          split at hrow <;> exact hrow
        rcases table_tryAcquire hacquired with hold | ⟨rfl, hreached, hfree, rfl⟩
        · exact Or.inl hold
        · exact Or.inr ⟨nowMs, delivery, rfl, hidle, hreached, hfree, job, hfind, rfl⟩
      · exact Or.inl hrow
  | finish owner result =>
      simp only [Executors.step] at hrow
      split at hrow <;> exact Or.inl hrow
  | logExecution owner written =>
      simp only [Executors.step] at hrow
      split at hrow
      · cases written <;> exact Or.inl hrow
      · cases written <;> exact Or.inl hrow
      · exact Or.inl hrow
  | release owner delivery =>
      simp only [Executors.step] at hrow
      split at hrow
      · exact Or.inl (table_release hrow)
      · exact Or.inl hrow
  | crash owner => exact Or.inl hrow
  | advance micros => exact Or.inl hrow

end

/-- Every row has an origin. -/
theorem origin_run (now : ℤ) (history : List Action) {jobName : String} {row : LockRow}
    (hrow : (run step (start (fun _ => none) now) history).locks.table jobName = some row) :
    Origin (start (fun _ => none) now) history jobName row := by
  induction history using List.reverseRecOn with
  | nil => cases hrow
  | append_singleton earlier action ih =>
      rw [run_append] at hrow
      rcases table_step hrow with hold | ⟨nowMs, delivery, rfl, hwrites⟩
      · exact (ih hold).snoc action
      · exact ⟨earlier, nowMs, delivery, [], rfl, hwrites⟩

/-- The database refuses a lock only while the row of the job has not expired. -/
theorem exists_row_of_skipped {s : Executors} {owner jobName : String} {nowMs : ℤ}
    {job : ExecutedJob} (hfind : findJob jobName = some job) (hidle : s.stage owner = .idle)
    (hskipped : (s.step (.tryAcquire owner jobName nowMs .executed)).stage owner = .skipped job) :
    ∃ row, s.locks.table jobName = some row ∧ s.locks.now ≤ row.lockedUntil := by
  have hname := name_of_findJob hfind
  simp only [Executors.step, hidle, hfind, Executors.acquire] at hskipped
  split at hskipped
  · rw [stage_setStage_self] at hskipped
    cases hskipped
  · rename_i hrefused
    simp only [Locks.tryAcquire, hname] at hrefused
    cases hrow : s.locks.table jobName with
    | none => simp [hrow, lockAcquire] at hrefused
    | some row =>
        refine ⟨row, rfl, not_lt.mp fun hexpired => ?_⟩
        simp [hrow, lockAcquire, hexpired] at hrefused

/-- **A job is blocked for a limited time only**, whichever instances crash, however long the
handlers take and whatever replies are lost.  Wherever the database refuses the lock of a job to an
instance, a row has not expired that was written for an attempt of its owner, and it expires
`lockTtl` after this attempt. -/
theorem refused_of_recent (now : ℤ) (history : List Action) (owner jobName : String) (nowMs : ℤ)
    (job : ExecutedJob) (hfind : findJob jobName = some job)
    (hidle : (run step (start (fun _ => none) now) history).stage owner = .idle)
    (hskipped : ((run step (start (fun _ => none) now) history).step
      (.tryAcquire owner jobName nowMs .executed)).stage owner = .skipped job) :
    ∃ row, (run step (start (fun _ => none) now) history).locks.table jobName = some row ∧
      Origin (start (fun _ => none) now) history jobName row ∧
      row.lockedUntil = secondsFrom row.lockedAt job.lockTtl ∧
      (run step (start (fun _ => none) now) history).locks.now ≤ row.lockedUntil := by
  obtain ⟨row, hrow, hlive⟩ := exists_row_of_skipped hfind hidle hskipped
  have horigin := origin_run now history hrow
  refine ⟨row, hrow, horigin, ?_, hlive⟩
  obtain ⟨earlier, nowMs', delivery, later, -, hwrites⟩ := horigin
  obtain ⟨job', hfind', hwritten⟩ := hwrites.written
  rw [hfind] at hfind'
  cases hfind'
  rw [hwritten]

/-- `a` crashes inside the care reminders. -/
def crashed : List Action :=
  [.tryAcquire "a" "care_reminder_dispatch" 0 .executed, .crash "a", .advance 30000000]

/-- `b` is refused half a minute later. -/
theorem refused_after_crash :
    ∃ row, (run step (start (fun _ => none) 0) crashed).locks.table "care_reminder_dispatch" =
        some row ∧
      Origin (start (fun _ => none) 0) crashed "care_reminder_dispatch" row ∧
      row.lockedUntil = secondsFrom row.lockedAt 40 ∧
      (run step (start (fun _ => none) 0) crashed).locks.now ≤ row.lockedUntil :=
  refused_of_recent 0 crashed "b" "care_reminder_dispatch" 0 ⟨"care_reminder_dispatch", 10⟩ rfl rfl
    rfl

end OroEdge.Scheduler.Executors
