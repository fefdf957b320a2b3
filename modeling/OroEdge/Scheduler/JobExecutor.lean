import OroEdge.Scheduler.Job
import OroEdge.Scheduler.Locks

/-!
# The job executor

`JobExecutor::execute` acquires the lock of a job, runs its handler, logs the execution and
releases the lock; it logs that the job is skipped if the lock is not acquired.  The
handler can take any time: its timeout only sets how long the lock lasts, the lock is never
extended, and nothing is checked when the handler returns.

Only one instance should run a job at a time (`OneAtATime`).  A lock that expires under a
handler lets in another instance, so the property holds in a run in which every handler
returns before its lock has expired (`oneAtATime_run`).

The model has one stage for each instance and the lock table of `OroEdge.Scheduler.Locks`.  How
long a handler takes is not fixed: it returns in an action of its own, and the clock moves in
between by as much as it likes.

The invariant says of an instance inside a handler that its lock was granted, and until when
(`Guarded`); with the exclusion of the lock table this keeps two instances out of one handler as
long as the clock is not past that time.  So the only action that can break it is one of the
clock, and the condition of the run is about those alone (`InTime`).  Every other action is
looked at once (`Guarded.step`), and the frame lemmas of the locks say that what the other
instances were granted stays.
-/

namespace OroEdge.Scheduler

open OroEdge.Lib

/-! ## The registry -/

/-- The fields of a job that `execute` reads, beside its handler. -/
structure ExecutedJob where
  name : String
  timeoutSeconds : ℤ
  deriving DecidableEq, Repr

/-- The jobs that `JobRegistry::initialize` registers. -/
def jobRegistry : List ExecutedJob :=
  [⟨"care_reminder_dispatch", 10⟩, ⟨"overdue_task_checker", 15⟩, ⟨"device_health_check", 20⟩,
    ⟨"sensor_data_freshness_check", 15⟩, ⟨"health_signal_evaluator", 30⟩,
    ⟨"baseline_recalculation", 60⟩, ⟨"daily_pet_summary_generator", 60⟩,
    ⟨"weekly_pet_summary_generator", 120⟩, ⟨"failed_sync_retry", 30⟩, ⟨"notification_retry", 30⟩,
    ⟨"data_cleanup", 120⟩]

/-- `JobRegistry::find`. -/
def findJob (name : String) : Option ExecutedJob := jobRegistry.find? fun job => job.name = name

/-- The seconds that a lock lasts. -/
def ExecutedJob.lockTtl (job : ExecutedJob) : ℤ := job.timeoutSeconds + 30

/-! ## Executing jobs -/

/-- A row of `stm_job_executions`, without its times. -/
structure ExecutionRow where
  jobName : String
  status : String
  itemsProcessed : ℕ
  error : String
  owner : String
  deriving DecidableEq, Repr

/-- Where an instance is in `execute`.  The end of the lock, when it was granted, is for the
statements only. -/
inductive Stage
  | idle
  | skipped (job : ExecutedJob)
  | handling (job : ExecutedJob) (lockedUntil : ℤ)
  | handled (job : ExecutedJob) (result : JobResult)
  | logged (job : ExecutedJob)
  | stopped

/-- The lock table, where each instance is, and the log of the executions. -/
structure Executors where
  locks : Locks
  stage : String → Stage
  executions : List ExecutionRow

namespace Executors

/-- No instance has started. -/
def start (table : String → Option LockRow) (now : ℤ) : Executors :=
  ⟨.start table now, fun _ => .idle, []⟩

/-- The three parts of `execute_job`, a crash, and the time that passes. -/
inductive Action
  /-- 1. An instance is asked to run a job. -/
  | tryAcquire (owner jobName : String) (nowMs : ℤ) (delivery : Delivery)
  /-- The handler returns; an exception gives a result as well. -/
  | finish (owner : String) (result : JobResult)
  /-- 2. -/
  | logExecution (owner : String) (written : Bool)
  /-- 3. -/
  | release (owner : String) (delivery : Delivery)
  | crash (owner : String)
  | advance (micros : ℕ)

/-- One instance goes on. -/
def setStage (s : Executors) (owner : String) (stage : Stage) : Executors :=
  { s with stage := Function.update s.stage owner stage }

theorem stage_setStage_self (s : Executors) (owner : String) (stage : Stage) :
    (s.setStage owner stage).stage owner = stage :=
  Function.update_self ..

theorem stage_setStage_of_ne (s : Executors) {owner other : String} (hne : other ≠ owner)
    (stage : Stage) : (s.setStage owner stage).stage other = s.stage other :=
  Function.update_of_ne hne ..

/-- `log_execution`; a row that cannot be written is dropped. -/
def log (s : Executors) (row : ExecutionRow) (written : Bool) : Executors :=
  if written then { s with executions := s.executions ++ [row] } else s

/-- The first part of `execute`. -/
def acquire (s : Executors) (owner : String) (job : ExecutedJob) (nowMs : ℤ)
    (delivery : Delivery) : Executors :=
  let acquired := s.locks.tryAcquire owner job.name job.lockTtl nowMs delivery
  let s' := { s with locks := acquired.1 }
  if acquired.2 then s'.setStage owner (.handling job (secondsFrom s.locks.now job.lockTtl))
  else s'.setStage owner (.skipped job)

/-- An action of an instance that is not where the action needs it does nothing. -/
def step (s : Executors) : Action → Executors
  | .tryAcquire owner jobName nowMs delivery =>
      match s.stage owner, findJob jobName with
      | .idle, some job => s.acquire owner job nowMs delivery
      | _, _ => s
  | .finish owner result =>
      match s.stage owner with
      | .handling job _ => s.setStage owner (.handled job result)
      | _ => s
  | .logExecution owner written =>
      match s.stage owner with
      | .skipped job =>
          (s.setStage owner .idle).log ⟨job.name, "skipped", 0, "Lock busy", owner⟩ written
      | .handled job result =>
          (s.setStage owner (.logged job)).log ⟨job.name,
            if result.success then "completed" else "failed", result.itemsProcessed,
            result.error, owner⟩ written
      | _ => s
  | .release owner delivery =>
      match s.stage owner with
      | .logged job =>
          { s with locks := s.locks.release owner job.name delivery }.setStage owner .idle
      | _ => s
  | .crash owner => s.setStage owner .stopped
  | .advance micros => { s with locks := s.locks.step (.advance micros) }

/-! ## The property -/

/-- The instance is inside the handler of the job. -/
def Inside (s : Executors) (owner jobName : String) : Prop :=
  ∃ job lockedUntil, s.stage owner = .handling job lockedUntil ∧ job.name = jobName

/-- No two instances are inside the handler of a job. -/
def OneAtATime (s : Executors) : Prop :=
  ∀ jobName first second, s.Inside first jobName → s.Inside second jobName → first = second

/-- The clock does not pass the end of a lock while its owner is inside the handler. -/
def InTime (s : Executors) : Action → Prop
  | .advance micros => ∀ owner job lockedUntil, s.stage owner = .handling job lockedUntil →
      s.locks.now + micros ≤ lockedUntil
  | _ => True

/-! ## The invariant -/

/-- An instance inside a handler has been granted the lock, which has not expired. -/
structure Guarded (s : Executors) : Prop where
  backed : s.locks.Backed
  held : ∀ owner job lockedUntil, s.stage owner = .handling job lockedUntil →
    s.locks.granted job.name owner = some lockedUntil ∧ s.locks.now ≤ lockedUntil

theorem Guarded.oneAtATime {s : Executors} (hguarded : s.Guarded) : s.OneAtATime := by
  rintro jobName first second ⟨job, lockedUntil, hfirst, rfl⟩ ⟨job', lockedUntil', hsecond, hname⟩
  obtain ⟨hgranted, hle⟩ := hguarded.held first job lockedUntil hfirst
  obtain ⟨hgranted', hle'⟩ := hguarded.held second job' lockedUntil' hsecond
  rw [hname] at hgranted'
  exact hguarded.backed.exclusive job.name first second _ _ hgranted hle hgranted' hle'

/-- An instance goes on to another stage, and leaves what the others have been granted. -/
theorem Guarded.setStage {s : Executors} (hguarded : s.Guarded) {owner : String} {stage : Stage}
    {locks : Locks} (hbacked : locks.Backed) (hnow : locks.now = s.locks.now)
    (hothers : ∀ jobName, ∀ other ≠ owner,
      locks.granted jobName other = s.locks.granted jobName other)
    (hheld : ∀ job lockedUntil, stage = .handling job lockedUntil →
      locks.granted job.name owner = some lockedUntil ∧ locks.now ≤ lockedUntil) :
    ({ s with locks }.setStage owner stage).Guarded := by
  refine ⟨hbacked, fun other job lockedUntil hstage => ?_⟩
  by_cases hsame : other = owner
  · subst hsame
    rw [stage_setStage_self] at hstage
    exact hheld job lockedUntil hstage
  · rw [stage_setStage_of_ne _ hsame] at hstage
    show locks.granted job.name other = some lockedUntil ∧ locks.now ≤ lockedUntil
    rw [hothers _ _ hsame, hnow]
    exact hguarded.held other job lockedUntil hstage

theorem Guarded.log {s : Executors} (hguarded : s.Guarded) (row : ExecutionRow) (written : Bool) :
    (s.log row written).Guarded := by
  unfold Executors.log
  split_ifs
  · exact ⟨hguarded.backed, hguarded.held⟩
  · exact hguarded

/-- A lock lasts for some time. -/
theorem lockTtl_pos {jobName : String} {job : ExecutedJob} (hfind : findJob jobName = some job) :
    0 < job.lockTtl := by
  have hall : ∀ job ∈ jobRegistry, 0 < job.lockTtl := by decide
  exact hall job (List.mem_of_find?_eq_some hfind)

theorem Guarded.acquire {s : Executors} (hguarded : s.Guarded) {owner jobName : String}
    {job : ExecutedJob} (hfind : findJob jobName = some job) (nowMs : ℤ) (delivery : Delivery) :
    (s.acquire owner job nowMs delivery).Guarded := by
  obtain ⟨hnow, hothers⟩ := Locks.tryAcquire_frame s.locks owner job.name delivery job.lockTtl nowMs
  have hbacked : (s.locks.tryAcquire owner job.name job.lockTtl nowMs delivery).1.Backed :=
    fun other => (Locks.move_tryAcquire s.locks owner delivery job.name other job.lockTtl
      nowMs).backed (hguarded.backed other)
  unfold Executors.acquire
  dsimp only
  split_ifs with hacquired
  · refine hguarded.setStage hbacked hnow hothers fun job' lockedUntil hstage => ?_
    cases hstage
    refine ⟨Locks.granted_of_tryAcquire s.locks owner job.name delivery hacquired, ?_⟩
    have hpos := lockTtl_pos hfind
    rw [hnow]
    unfold secondsFrom
    omega
  · exact hguarded.setStage hbacked hnow hothers fun _ _ hstage => by cases hstage

/-- The stage of an instance outside a handler, where the locks stay. -/
theorem Guarded.leave {s : Executors} (hguarded : s.Guarded) (owner : String) {stage : Stage}
    (houtside : ∀ job lockedUntil, stage ≠ .handling job lockedUntil) :
    (s.setStage owner stage).Guarded :=
  hguarded.setStage hguarded.backed rfl (fun _ _ _ => rfl)
    fun job lockedUntil hstage => absurd hstage (houtside job lockedUntil)

/-- An action keeps the invariant, if it does not let a lock expire under a handler. -/
theorem Guarded.step {s : Executors} (hguarded : s.Guarded) {action : Action}
    (hin : s.InTime action) : (s.step action).Guarded := by
  cases action with
  | tryAcquire owner jobName nowMs delivery =>
      simp only [Executors.step]
      split
      · rename_i job _ hfind
        exact hguarded.acquire hfind nowMs delivery
      · exact hguarded
  | finish owner result =>
      simp only [Executors.step]
      split
      · exact hguarded.leave owner fun _ _ => Stage.noConfusion
      · exact hguarded
  | logExecution owner written =>
      simp only [Executors.step]
      split
      · exact (hguarded.leave owner fun _ _ => Stage.noConfusion).log _ _
      · exact (hguarded.leave owner fun _ _ => Stage.noConfusion).log _ _
      · exact hguarded
  | release owner delivery =>
      simp only [Executors.step]
      split
      · rename_i job _
        obtain ⟨hnow, hothers⟩ := Locks.release_frame s.locks owner job.name delivery
        refine hguarded.setStage (fun other => ?_) hnow hothers fun _ _ hstage => by cases hstage
        exact (Locks.move_release s.locks owner delivery job.name other).backed
          (hguarded.backed other)
      · exact hguarded
  | crash owner => exact hguarded.leave owner fun _ _ => Stage.noConfusion
  | advance micros =>
      refine ⟨fun jobName => (Locks.move_view s.locks (.advance micros) jobName).backed
        (hguarded.backed jobName), fun owner job lockedUntil hstage => ?_⟩
      exact ⟨(hguarded.held owner job lockedUntil hstage).1, hin owner job lockedUntil hstage⟩

theorem guarded_start (table : String → Option LockRow) (now : ℤ) : (start table now).Guarded :=
  ⟨Locks.backed_start table now, fun _ _ _ hstage => by cases hstage⟩

/-! ## Main theorem -/

/-- **One instance at a time.**  In a run in which no lock expires while its owner is inside the
handler, no two instances are inside the handler of a job. -/
theorem oneAtATime_run (table : String → Option LockRow) (now : ℤ) (actions : List Action)
    (hall : AllSteps step InTime (start table now) actions) :
    (run step (start table now) actions).OneAtATime := by
  have hstep : ∀ (s : Executors) (action : Action), s.InTime action → s.Guarded →
      (s.step action).Guarded := fun _ _ hin hguarded => hguarded.step hin
  exact (AllSteps.run_induction hstep (guarded_start table now) hall).oneAtATime

/-! ### A slow handler -/

/-- `a` runs the care reminders; `b` is asked to after some seconds. -/
def reminders (seconds : ℕ) : List Action :=
  [.tryAcquire "a" "care_reminder_dispatch" 0 .executed, .advance (1000000 * seconds),
    .tryAcquire "b" "care_reminder_dispatch" (1000 * seconds) .executed]

/-- After 40 seconds the lock of `a` has not expired. -/
theorem oneAtATime_reminders : (run step (start (fun _ => none) 0) (reminders 40)).OneAtATime := by
  refine oneAtATime_run (fun _ => none) 0 (reminders 40) ⟨trivial, ?_, trivial, trivial⟩
  intro owner job lockedUntil hstage
  by_cases ha : owner = "a"
  · subst ha
    have hstage : Stage.handling ⟨"care_reminder_dispatch", 10⟩ 40000000 =
        .handling job lockedUntil := hstage
    cases hstage
    decide
  · have hidle : (start (fun _ => none) 0).stage owner = .handling job lockedUntil := by
      rw [← hstage]
      exact (stage_setStage_of_ne _ ha _).symm
    cases hidle

/-- **Failing input.**  After 41 seconds it has, and `b` enters the handler that `a` has not
left. -/
theorem not_oneAtATime_reminders :
    ¬ (run step (start (fun _ => none) 0) (reminders 41)).OneAtATime := by
  intro hone
  have hsame := hone "care_reminder_dispatch" "a" "b"
    ⟨⟨"care_reminder_dispatch", 10⟩, 40000000, rfl, rfl⟩
    ⟨⟨"care_reminder_dispatch", 10⟩, 81000000, rfl, rfl⟩
  exact absurd hsame (by decide)

end Executors

end OroEdge.Scheduler
