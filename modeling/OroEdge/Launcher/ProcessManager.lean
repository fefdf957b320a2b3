import OroEdge.Lib.Run
import Mathlib.Algebra.Order.Ring.Nat
import Mathlib.Logic.Function.Basic

/-!
# The process manager

`launch_edge_layer.py` starts the nodes of the edge layer, restarts those that exit, and
terminates all of them when it is told to shut down.  All of this is done by its main thread,
which is always at one `Stage`; `go` is what it does next.  In between a signal may come, a
process may exit, and time passes.

Times are nanoseconds of the monotonic clock.  A process is known by a number of its own, as
`Popen` objects are told apart.

The stages are as fine as the points at which something can come in between: at the head of each
loop, before the backoff, inside it, before `Popen`, and in the sleep of the monitor.  A signal
only sets a flag, which the main thread looks at when it passes certain points, so what the flag
stops depends on where the main thread is.  The loops over the nodes are unrolled into the names
that are still to come, and a call of `start_process` keeps its caller, `main` or `monitor`, to
return to.

A node is known by its name and its entry holds the last process only.  What has been started,
terminated and killed is recorded besides, as a history, for the statements of
`OroEdge.Launcher.Shutdown` and `OroEdge.Launcher.Restarts`.
-/

namespace OroEdge.Launcher

open OroEdge.Lib

def secondNanos : ℕ := 1000000000

def maxRestarts : ℕ := 20

def maxBackoffS : ℕ := 30

/-- The backoff before a restart: 1 s, 2 s, 4 s, … up to 30 s. -/
def backoff (restarts : ℕ) : ℕ := min maxBackoffS (2 ^ (restarts - 1)) * secondNanos

/-! ## The state -/

/-- An entry of `nodes`.  There is no `process` until the first start has succeeded. -/
structure NodeInfo where
  restarts : ℕ
  lastStart : ℕ
  process : Option ℕ
  deriving DecidableEq, Repr

/-- Who calls `start_process`, with the names that its loop has not reached yet. -/
inductive Caller
  | main (rest : List String)
  | monitor (rest : List String)
  deriving DecidableEq, Repr

/-- Where the main thread is. -/
inductive Stage
  /-- at the head of a loop over names -/
  | looping (caller : Caller)
  /-- at the call of `start_process` -/
  | starting (name : String) (caller : Caller)
  /-- in the loop of the backoff -/
  | waiting (name : String) (deadline : ℕ) (caller : Caller)
  /-- before `Popen` -/
  | spawning (name : String) (caller : Caller)
  /-- at the head of the loop of `monitor` -/
  | monitoring
  | sleeping (wake : ℕ)
  /-- in the loops of `terminate_all` -/
  | terminating (rest : List String)
  | reaping (rest : List String)
  | finished
  deriving DecidableEq, Repr

/-- A process that `Popen` has started. -/
structure Launch where
  name : String
  pid : ℕ
  time : ℕ
  restarts : ℕ
  deriving DecidableEq, Repr

/-- `names` are the keys of `nodes`, in the order of their insertion; `live` are the processes
that run.  What has been started, terminated and killed is kept for the statements. -/
structure ProcessManager where
  names : List String
  info : String → NodeInfo
  shuttingDown : Bool
  stage : Stage
  now : ℕ
  live : List ℕ
  launches : List Launch
  terminated : List ℕ
  killed : List ℕ

/-- The nodes, in the order in which they are started. -/
def nodeNames : List String :=
  ["command_executor", "dog_wellbeing_node", "environment_condition", "health_monitoring"]

namespace ProcessManager

/-- The start of `main`. -/
def start (now : ℕ) : ProcessManager where
  names := []
  info _ := ⟨0, 0, none⟩
  shuttingDown := false
  stage := .looping (.main nodeNames)
  now := now
  live := []
  launches := []
  terminated := []
  killed := []

def setInfo (s : ProcessManager) (name : String) (info : NodeInfo) : ProcessManager :=
  { s with info := Function.update s.info name info }

/-- `p.poll() is None`. -/
def running (s : ProcessManager) (name : String) : Option ℕ :=
  (s.info name).process.filter fun pid => decide (pid ∈ s.live)

/-- The node has had a process, and it has exited. -/
def exited (s : ProcessManager) (name : String) : Bool :=
  (s.info name).process.any fun pid => decide (pid ∉ s.live)

/-! ## The main thread -/

/-- A new name gets an entry. -/
def register (s : ProcessManager) (name : String) : ProcessManager :=
  if name ∈ s.names then s
  else { s.setInfo name ⟨0, 0, none⟩ with names := s.names ++ [name] }

/-- `start_process` up to the backoff. -/
def startProcess (s : ProcessManager) (name : String) (caller : Caller) : ProcessManager :=
  if s.shuttingDown then { s with stage := .looping caller }
  else
    let s := s.register name
    let deadline := (s.info name).lastStart + backoff (s.info name).restarts
    if 0 < (s.info name).restarts ∧ s.now < deadline then
      { s with stage := .waiting name deadline caller }
    else { s with stage := .spawning name caller }

/-- `Popen`, which may fail. -/
def spawn (s : ProcessManager) (name : String) (ok : Bool) (caller : Caller) : ProcessManager :=
  if ok then
    let pid := s.launches.length
    { s.setInfo name { s.info name with process := some pid, lastStart := s.now } with
      stage := .looping caller
      live := s.live ++ [pid]
      launches := s.launches ++ [⟨name, pid, s.now, (s.info name).restarts⟩] }
  else { s with stage := .looping caller }

/-- The monitor looks at a node. -/
def inspect (s : ProcessManager) (name : String) (rest : List String) : ProcessManager :=
  if s.exited name ∧ s.shuttingDown = false ∧ (s.info name).restarts < maxRestarts then
    { s.setInfo name { s.info name with restarts := (s.info name).restarts + 1 } with
      stage := .starting name (.monitor rest) }
  else { s with stage := .looping (.monitor rest) }

/-- `terminate_all`, up to its loops. -/
def terminateAll (s : ProcessManager) : ProcessManager :=
  { s with shuttingDown := true, stage := .terminating s.names }

/-- What the main thread does next.  `ok` is the answer of the system, where the step asks for
one: whether the executable exists, whether `Popen` has started a process, and whether a
process that has been told to terminate exits within three seconds. -/
def go (s : ProcessManager) (ok : Bool) : ProcessManager :=
  match s.stage with
  | .looping (.main []) => { s with stage := if s.names = [] then .finished else .monitoring }
  | .looping (.main (name :: rest)) =>
      { s with stage := if ok then .starting name (.main rest) else .looping (.main rest) }
  | .looping (.monitor []) => { s with stage := .monitoring }
  | .looping (.monitor (name :: rest)) => s.inspect name rest
  | .starting name caller => s.startProcess name caller
  | .waiting name deadline caller =>
      if s.shuttingDown then { s with stage := .looping caller }
      else if s.now < deadline then s
      else { s with stage := .spawning name caller }
  | .spawning name caller => s.spawn name ok caller
  | .monitoring =>
      if s.shuttingDown then s.terminateAll
      else { s with stage := .sleeping (s.now + 2 * secondNanos) }
  | .sleeping wake =>
      if s.now < wake then s
      else if s.shuttingDown then s.terminateAll
      else { s with stage := .looping (.monitor s.names) }
  | .terminating [] => { s with stage := .reaping s.names }
  | .terminating (name :: rest) =>
      { s with terminated := s.terminated ++ (s.running name).toList, stage := .terminating rest }
  | .reaping [] => { s with stage := .finished }
  | .reaping (name :: rest) =>
      match s.running name with
      | none => { s with stage := .reaping rest }
      | some pid =>
          if ok then { s with live := s.live.filter (· ≠ pid), stage := .reaping rest }
          else { s with killed := s.killed ++ [pid], stage := .reaping rest }
  | .finished => s

/-! ## Interleavings -/

/-- The main thread goes on, or something happens to it. -/
inductive Action
  | go (ok : Bool)
  /-- SIGINT or SIGTERM -/
  | signal
  /-- a process exits, for whatever reason -/
  | exit (pid : ℕ)
  | advance (nanos : ℕ)
  deriving DecidableEq, Repr

/-- One action. -/
def step (s : ProcessManager) : Action → ProcessManager
  | .go ok => s.go ok
  | .signal => { s with shuttingDown := true }
  | .exit pid => { s with live := s.live.filter (· ≠ pid) }
  | .advance nanos => { s with now := s.now + nanos }

/-- The manager after the actions. -/
def after (now : ℕ) (actions : List Action) : ProcessManager := run step (start now) actions

end ProcessManager

end OroEdge.Launcher
