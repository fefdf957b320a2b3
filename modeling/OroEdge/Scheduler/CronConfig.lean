import OroEdge.Lib.Cron
import OroEdge.Scheduler.Job

/-!
# The generated crontab

`SchedulerEngine::generate_cron_config` writes one line for each enabled job of
the registry.  Four intervals have a pattern of their own; any other interval
becomes a step of minutes.

An interval is a number of seconds in the configuration, and cron knows minutes, hours and
days.  A minute, an hour, a day and a week are written as such; the week starts on a Sunday. 
Whatever else an interval is, it is divided by 60, a quotient below 1 is raised to 1, and the
minutes are written as a step.  Nothing is said where this is not what was meant: an interval of
two hours has a pattern of every 120 minutes, and cron starts such a step anew with each hour. 
`OroEdge.Scheduler.CronSpacing` says for which intervals the pattern is right.

A job that is not enabled has a comment in place of its lines, and the file is written as a
whole, so that an old crontab leaves nothing behind.
-/

namespace OroEdge.Scheduler

open OroEdge.Lib

/-- The minutes of an interval; one minute is the least that cron can do. -/
def cronMinutes (intervalSeconds : ℤ) : ℤ :=
  let minutes := intervalSeconds.tdiv 60
  if minutes < 1 then 1 else minutes

/-- The pattern for an interval: four of them are special, and the others are taken for minutes. -/
def cronPattern (intervalSeconds : ℤ) : Cron.Pattern :=
  if intervalSeconds = 60 then ⟨.any, .any, .any, .any, .any⟩
  else if intervalSeconds = 3600 then ⟨.value 0, .any, .any, .any, .any⟩
  else if intervalSeconds = 86400 then ⟨.value 0, .value 0, .any, .any, .any⟩
  else if intervalSeconds = 604800 then ⟨.value 0, .value 0, .any, .any, .value 0⟩
  else ⟨.every (cronMinutes intervalSeconds).toNat, .any, .any, .any, .any⟩

/-- What the loop writes for one job. -/
def cronEntry (binaryPath : String) (job : JobDefinition) : String :=
  if job.enabled then
    "# " ++ job.displayName ++ " (Interval: " ++ toString job.intervalSeconds ++
      "s, Priority: " ++ job.priority.toString ++ ")\n" ++
      (cronPattern job.intervalSeconds).render ++ " root " ++ binaryPath ++ " --run " ++
      job.name ++ "\n\n"
  else
    "# Job '" ++ job.name ++ "' is disabled in configuration\n"

/-- The lines before the first job. -/
def cronHeader : String :=
  "# ORO Scheduled Task Manager Cron Jobs\n" ++
    "# Generated dynamically by scheduled_task_manager_node\n" ++
    "SHELL=/bin/bash\n" ++
    "PATH=/usr/local/sbin:/usr/local/bin:/sbin:/bin:/usr/sbin:/usr/bin\n\n"

/-- The text of the crontab; `none` when the file cannot be opened. -/
def generateCronConfig (jobs : List JobDefinition) (isOpen : Bool) (binaryPath : String) :
    Option String :=
  if isOpen then some (cronHeader ++ String.join (jobs.map (cronEntry binaryPath))) else none

/-! ## When the lines fire -/

theorem cronPattern_day : cronPattern 86400 = ⟨.value 0, .value 0, .any, .any, .any⟩ := rfl

/-- A job with an interval of one day is started in the first minute of the day. -/
theorem cronPattern_day_fires_iff {localMicros : ℤ} :
    (cronPattern 86400).fires localMicros ↔ timeOfDay localMicros < minuteMicros := by
  have hlow : 0 ≤ timeOfDay localMicros := Int.emod_nonneg _ (by decide)
  have hhigh : timeOfDay localMicros < dayMicros := Int.emod_lt_of_pos _ (by decide)
  simp only [cronPattern_day, Cron.Pattern.fires, Cron.Field.any_matches,
    Cron.Field.value_matches, Bool.and_true, Bool.and_eq_true, decide_eq_true_eq]
  unfold hourMicros minuteMicros dayMicros at *
  omega

end OroEdge.Scheduler
