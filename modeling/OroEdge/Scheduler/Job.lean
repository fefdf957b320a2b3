import OroEdge.Lib.Json

/-!
# Jobs

The parts of `job.hpp` that the jobs and the scheduler use.

A job is a name, an interval and a handler; what else there is about it, such as its priority,
is carried along for texts and logs.  A run of a handler gives a `JobResult`: what goes wrong is
told by it, with `success = false` and an error, and it says how many items the run has
processed.  An exception of a handler is made such a result by whoever has started it, and the
result is logged.

The jobs themselves are in `OroEdge.Jobs`, each with its own answers from the database; the
executor, which sees results only, is `OroEdge.Scheduler.JobExecutor`; and which jobs there are
is decided by `OroEdge.Scheduler.Registry`.
-/

namespace OroEdge.Scheduler

open OroEdge.Lib

/-- `JobPriority`; no run depends on it. -/
inductive JobPriority
  | critical
  | high
  | medium
  | low
  deriving DecidableEq, Repr

/-- `priority_to_string`. -/
def JobPriority.toString : JobPriority → String
  | .critical => "CRITICAL"
  | .high => "HIGH"
  | .medium => "MEDIUM"
  | .low => "LOW"

/-- The fields of a job that `generate_cron_config` reads. -/
structure JobDefinition where
  name : String
  displayName : String
  priority : JobPriority
  intervalSeconds : ℤ
  enabled : Bool
  deriving DecidableEq, Repr

/-- What a job returns; the metadata is an object. -/
structure JobResult where
  success : Bool
  itemsProcessed : ℕ
  error : String
  metadata : List (String × Json)
  deriving Repr

end OroEdge.Scheduler
