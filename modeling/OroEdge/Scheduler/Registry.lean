import OroEdge.Scheduler.CronConfig
import OroEdge.Scheduler.JobExecutor

/-!
# Starting the scheduled task manager

`main` reads its arguments and the configuration, and fills the registry of jobs.  It then either
runs a single job, or writes the crontab.  A handler stands for itself: it is known by the name of
its job.

What is `none` here throws there, and nothing catches it.

The order of things in `main` decides what an error leads to.  Arguments that are not understood
end in the help text; a configuration that cannot be read is an error; and a value of a wrong
type in the configuration of a job throws while the registry is filled, before anything is run
or written, so one wrong value stops all jobs.  Each definition is made with the two values that
the configuration can override, whether it is enabled and its interval.

The registry has an index by name, which is all that a run of a single job looks at. 
`indexed_foldl` says what it finds, however many jobs are registered and also if two have one
name: the last one that was registered under that name.
-/

namespace OroEdge.Scheduler

open OroEdge.Lib

/-! ## The configuration -/

/-- The whole configuration, and its part for this service. -/
structure SchedulerConfig where
  config : Json
  stmConfig : Json
  deriving Repr

namespace SchedulerConfig

/-- `load`, for a file that can be parsed. -/
def load (config : Json) : SchedulerConfig :=
  ⟨config, (config.get? "scheduled_task_manager").getD .null⟩

/-- `get_db_connection_string`; `none` is an exception. -/
def dbConnectionString (c : SchedulerConfig) : Option String :=
  match c.config.at? ["global", "db_connection_string"] with
  | some text => text.asString
  | none => some "host=localhost user=oro_user password=ogmen dbname=oro_base_db"

/-- `get<bool>()`. -/
def asBool : Json → Option Bool
  | .bool b => some b
  | _ => none

/-- `is_job_enabled`; `none` is an exception. -/
def isJobEnabled (c : SchedulerConfig) (jobName : String) : Option Bool :=
  match c.stmConfig.at? ["jobs", jobName, "enabled"] with
  | some enabled => asBool enabled
  | none => some true

/-- `get_job_interval_seconds`; `none` is an exception. -/
def jobIntervalSeconds (casts : FloatCasts) (c : SchedulerConfig) (jobName : String)
    (default : ℤ) : Option ℤ :=
  match c.stmConfig.at? ["jobs", jobName, "interval_seconds"] with
  | some seconds => seconds.asInt32 casts
  | none => some default

end SchedulerConfig

/-! ## The registry -/

inductive JobCategory
  | reminder
  | health
  | device
  | summary
  | retry
  | cleanup
  deriving DecidableEq, Repr

/-- A job, with the fields that the crontab does not need. -/
structure RegisteredJob extends JobDefinition where
  category : JobCategory
  maxRetries : ℕ
  timeoutSeconds : ℤ
  deriving DecidableEq, Repr

/-- The jobs, and their places by name. -/
structure JobRegistry where
  jobs : List RegisteredJob
  nameIndex : String → Option ℕ

namespace JobRegistry

def empty : JobRegistry := ⟨[], fun _ => none⟩

/-- A second job of a name takes the place of the first one in the index. -/
def registerJob (r : JobRegistry) (job : RegisteredJob) : JobRegistry where
  jobs := r.jobs ++ [job]
  nameIndex := Function.update r.nameIndex job.name (some r.jobs.length)

def find (r : JobRegistry) (name : String) : Option RegisteredJob :=
  (r.nameIndex name).bind fun index => r.jobs[index]?

/-- `make_job`, and the two calls in its arguments. -/
def makeJob (casts : FloatCasts) (c : SchedulerConfig) (name display : String)
    (category : JobCategory) (priority : JobPriority) (interval : ℤ) (retries : ℕ) (timeout : ℤ) :
    Option RegisteredJob := do
  let intervalSeconds ← c.jobIntervalSeconds casts name interval
  let enabled ← c.isJobEnabled name
  return ⟨⟨name, display, priority, intervalSeconds, enabled⟩, category, retries, timeout⟩

/-- The jobs of `initialize`, in order. -/
def definitions (casts : FloatCasts) (c : SchedulerConfig) : List (Option RegisteredJob) :=
  [makeJob casts c "care_reminder_dispatch" "Care Reminder Dispatch" .reminder .high 60 2 10,
    makeJob casts c "overdue_task_checker" "Overdue Task Checker" .reminder .high 900 2 15,
    makeJob casts c "device_health_check" "Device Health Check" .device .critical 300 3 20,
    makeJob casts c "sensor_data_freshness_check" "Sensor Data Freshness" .device .critical 600 3
      15,
    makeJob casts c "health_signal_evaluator" "Health Signal Evaluator" .health .critical 1800 2 30,
    makeJob casts c "baseline_recalculation" "Baseline Recalculation (STUB)" .health .low 86400 2
      60,
    makeJob casts c "daily_pet_summary_generator" "Daily Pet Summary" .summary .low 86400 3 60,
    makeJob casts c "weekly_pet_summary_generator" "Weekly Pet Summary" .summary .low 604800 3 120,
    makeJob casts c "failed_sync_retry" "Failed Sync Retry (STUB)" .retry .medium 300 0 30,
    makeJob casts c "notification_retry" "Notification Retry (STUB)" .retry .medium 300 0 30,
    makeJob casts c "data_cleanup" "Data Cleanup (STUB)" .cleanup .low 86400 1 120]

/-- `initialize`. -/
def initializeJobs (casts : FloatCasts) (c : SchedulerConfig) : Option JobRegistry :=
  (definitions casts c).foldlM (fun r job => job.map r.registerJob) empty

end JobRegistry

/-! ## The arguments -/

/-- What `main` is asked to do. -/
inductive Mode
  | setupCron
  | runJob
  deriving DecidableEq, Repr

/-- The command line, as it has been read. -/
structure Options where
  configPath : String
  mode : Mode
  runJobName : String
  runDate : String
  deriving DecidableEq, Repr

/-- Where the configuration is, unless `--config` says otherwise. -/
def defaultConfigPath : String :=
  "/home/radxa/oro_base/oro_base_edge_layer/config/oro_base_edge_layer_config.json"

/-- Without arguments the crontab is written. -/
def defaultOptions : Options := ⟨defaultConfigPath, .setupCron, "", ""⟩

/-- The loop over the arguments; `none` when it ends in the help text. -/
def parseArgs (o : Options) : List String → Option Options
  | "--config" :: path :: rest => parseArgs { o with configPath := path } rest
  | "--run" :: name :: rest => parseArgs { o with mode := .runJob, runJobName := name } rest
  | "--date" :: date :: rest => parseArgs { o with runDate := date } rest
  | "--setup-cron" :: rest => parseArgs { o with mode := .setupCron } rest
  | "-h" :: _ => none
  | "--help" :: _ => none
  | _ :: rest => parseArgs o rest
  | [] => some o

/-! ## `main` -/

/-- The command of the lines of the crontab. -/
def binaryPath : String := "/usr/local/bin/scheduled_task_manager_node"

/-- What `main` comes to. -/
inductive Start
  | help
  | failed
  | executes (job : RegisteredJob) (config : Json)
  | writes (text : Option String)

/-- The mode of the options, with the configuration and the registry. -/
def runMode (o : Options) (config : Json) (registry : JobRegistry) (isOpen : Bool) : Start :=
  match o.mode with
  | .runJob =>
      match registry.find o.runJobName with
      | none => .failed
      | some job =>
          if o.runDate = "" then .executes job config
          else
            match config.set? "run_date" (.str o.runDate) with
            | none => .failed
            | some config => .executes job config
  | .setupCron =>
      .writes (generateCronConfig (registry.jobs.map RegisteredJob.toJobDefinition) isOpen
        binaryPath)

/-- `files` are the configurations that can be opened and parsed; `isOpen` says whether one of the
two crontabs can be written. -/
def main (casts : FloatCasts) (files : String → Option Json) (isOpen : Bool)
    (args : List String) : Start :=
  match parseArgs defaultOptions args with
  | none => .help
  | some o =>
      match files o.configPath with
      | none => .failed
      | some config =>
          match (SchedulerConfig.load config).dbConnectionString,
            JobRegistry.initializeJobs casts (.load config) with
          | some _, some registry => runMode o config registry isOpen
          | _, _ => .failed

/-! ## Finding jobs -/

namespace JobRegistry

/-- The index of a name is that of the last job that was registered under it. -/
def Indexed (r : JobRegistry) : Prop :=
  ∀ name, r.find name = r.jobs.reverse.find? fun job => job.name = name

theorem indexed_empty : empty.Indexed := fun _ => rfl

/-- The indices stay below the number of jobs. -/
def InRange (r : JobRegistry) : Prop := ∀ name index, r.nameIndex name = some index →
  index < r.jobs.length

theorem InRange.registerJob {r : JobRegistry} (hrange : r.InRange) (job : RegisteredJob) :
    (r.registerJob job).InRange := by
  intro name index hindex
  simp only [JobRegistry.registerJob, List.length_append, List.length_singleton] at hindex ⊢
  by_cases hname : name = job.name
  · subst hname
    rw [Function.update_self] at hindex
    have hlength := Option.some.inj hindex
    omega
  · rw [Function.update_of_ne hname] at hindex
    exact (hrange name index hindex).trans (Nat.lt_succ_self _)

theorem find_registerJob {r : JobRegistry} (hrange : r.InRange) (job : RegisteredJob)
    (name : String) : (r.registerJob job).find name =
      if job.name = name then some job else r.find name := by
  unfold find JobRegistry.registerJob
  dsimp only
  split
  · rename_i hname
    subst hname
    simp
  · rename_i hname
    rw [Function.update_of_ne (Ne.symm hname)]
    cases hindex : r.nameIndex name with
    | none => rfl
    | some index =>
        exact List.getElem?_append_left (hrange name index hindex)

/-- Registered jobs are found: the last one of each name. -/
theorem indexed_foldl (jobs : List RegisteredJob) {r : JobRegistry} (hrange : r.InRange)
    (hindexed : r.Indexed) : (jobs.foldl registerJob r).Indexed := by
  induction jobs generalizing r with
  | nil => exact hindexed
  | cons job jobs ih =>
      refine ih (hrange.registerJob job) fun name => ?_
      rw [find_registerJob hrange, JobRegistry.registerJob, List.reverse_append,
        List.reverse_singleton, List.singleton_append, List.find?_cons, hindexed name]
      split
      · rename_i hname
        simp [hname]
      · rename_i hname
        simp [hname]

end JobRegistry

end OroEdge.Scheduler
