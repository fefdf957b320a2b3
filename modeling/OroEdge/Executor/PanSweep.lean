import OroEdge.Executor.Actuation
import OroEdge.Executor.CameraRange
import OroEdge.Lib.Simulation

/-!
# The camera after a panoramic capture

The thread of `#139` turns the camera while it records: to one end, to the other end, and home.
Its values go to the same stepper as those of `#134`, from a socket of its own, so the values of
several captures and of the worker come in any order, and some may not arrive at all.  A capture
never reads or writes the angle that the worker keeps.

`CameraSystem` is the worker with all detached threads and these values.  What is known after any
run is `Settled` (`camera_after`):

* `video`: with the values left out it is a run of `Executor.Video`, since `matches_video` says so
  of one action;
* `home`: when no thread is left, the last value to arrive sends the camera home, or comes from a
  `#134`, unless a capture's way home got lost.  A capture has values to send only before the end
  of its recorder, and these end with the way home (`Owing`); so whenever the last value is one
  that turns the camera away, its capture is still there (`OwesReturn`);
* `tracks`: the angle that the worker keeps is the one of its own last value.  It is not the one
  of the camera after a capture, as `turnAndSweep` shows.
-/

namespace OroEdge.Executor

open OroEdge.Lib

/-! ## The system -/

/-- Who sends a value: a capture, or the worker, with the integer that a NaN is converted to
there. -/
inductive Sender
  | capture
  | worker (nanCast : ℤ)
  deriving DecidableEq, Repr

/-- A value for the stepper: who sends it, and whether it arrives. -/
structure StepperValue where
  sender : Sender
  value : ℤ
  arrives : Bool
  deriving DecidableEq, Repr

/-- A capture has sent the value. -/
def StepperValue.ofSweep (v : StepperValue) : Bool := decide (v.sender = .capture)

/-- The value of a request for the camera. -/
def Request.stepperValue? : Request → Option ℤ
  | .mcu .cameraStepper value _ => some value
  | _ => none

/-- A thread of `Executor.Video`, and the values that it still has to send. -/
abbrev CameraTask := Thread × List ℤ

/-- The worker with its threads and the values that have been sent. -/
structure CameraSystem where
  worker : Worker
  tasks : List CameraTask
  threads_eq : tasks.map Prod.fst = worker.video.threads
  stepper : List StepperValue
  /-- An exception has ended the process. -/
  ended : Bool

namespace CameraSystem

/-- A new worker, no threads, and nothing has been sent. -/
def construct (environment : Option String) : CameraSystem :=
  ⟨.construct environment, [], rfl, [], false⟩

/-- What happens to the camera: a command, or the next action of a thread.  `arrives` says whether
what it sends gets to the stepper. -/
inductive Action
  /-- The worker runs the handler of a command. -/
  | command (e : Surroundings) (cmd : Command) (arrives : Bool)
  /-- The `i`-th detached thread takes its next action. -/
  | resume (i : ℕ) (clock : ℤ) (ok arrives : Bool)

/-- What a command sends to the stepper. -/
def turns (e : Surroundings) (w : Worker) (cmd : Command) (arrives : Bool) : List StepperValue :=
  ((asked e w cmd).bind Request.stepperValue?).toList.map fun value =>
    ⟨.worker e.nanCast, value, arrives⟩

end CameraSystem

/-- A command only adds threads. -/
theorem prefix_threads_of_workerStep {e : Surroundings} {w w' : Worker} {cmd : Command}
    (hnext : (workerStep e w cmd).next = some w') : w.video.threads <+: w'.video.threads := by
  obtain ⟨h, hrun, rfl⟩ := exists_runHandler_of_next hnext
  rcases video_of_runHandler hrun with ⟨hsame, -⟩ | hstep
  · exact ⟨[], by rw [List.append_nil, hsame]⟩
  · rw [hstep]
    exact List.prefix_append _ _

/-- A thread that is about to end the recorder sends its values first. -/
def nextMove? : CameraTask → Option (ℤ × CameraTask)
  | (.captureStop recording, move :: rest) => some (move, (.captureStop recording, rest))
  | _ => none

theorem fst_of_nextMove? {task next : CameraTask} {move : ℤ}
    (hmove : nextMove? task = some (move, next)) : next.1 = task.1 ∧ task.2 = move :: next.2 := by
  unfold nextMove? at hmove
  split at hmove
  · cases hmove
    exact ⟨rfl, rfl⟩
  · cases hmove

namespace CameraSystem

/-- The worker runs a handler, the callback and the logger. -/
def command (s : CameraSystem) (e : Surroundings) (cmd : Command) (arrives : Bool) :
    CameraSystem :=
  match hnext : (workerStep e s.worker cmd).next with
  | none => { s with stepper := s.stepper ++ turns e s.worker cmd arrives, ended := true }
  | some worker =>
      { worker := worker
        tasks := s.tasks ++ (worker.video.threads.drop s.worker.video.threads.length).map fun t =>
          (t, t.moves)
        threads_eq := by
          obtain ⟨spawned, hspawned⟩ := prefix_threads_of_workerStep hnext
          rw [← hspawned, List.drop_left, List.map_append, s.threads_eq, List.map_map]
          exact congrArg _ (List.map_id spawned)
        stepper := s.stepper ++ turns e s.worker cmd arrives
        ended := s.ended }

/-- A detached thread sends its next value, or does what it does in `Executor.Video`. -/
def resume (s : CameraSystem) (i : ℕ) (clock : ℤ) (ok arrives : Bool) : CameraSystem :=
  match hi : s.tasks[i]? with
  | none => s
  | some task =>
      match hmove : nextMove? task with
      | some (move, next) =>
          { s with
            tasks := replaceAt s.tasks i [next]
            threads_eq := by
              rw [map_replaceAt, List.map_singleton, (fst_of_nextMove? hmove).1, s.threads_eq]
              refine replaceAt_self ?_
              rw [← s.threads_eq, List.getElem?_map, hi]
              rfl
            stepper := s.stepper ++ [⟨.capture, move, arrives⟩] }
      | none =>
          { s with
            worker := { s.worker with video := Executor.step s.worker.video (.resume i clock ok) }
            tasks := replaceAt s.tasks i
              ((threadStep s.worker.video.handlers clock ok task.1).2.map fun t => (t, task.2))
            threads_eq := by
              have hthread : s.worker.video.threads[i]? = some task.1 := by
                rw [← s.threads_eq, List.getElem?_map, hi]
                rfl
              simp only [Executor.step, hthread]
              rw [map_replaceAt, s.threads_eq, List.map_map]
              exact congrArg _ (List.map_id _) }

/-- Nothing happens after an exception has ended the process. -/
def step (s : CameraSystem) : Action → CameraSystem
  | .command e cmd arrives => if s.ended then s else s.command e cmd arrives
  | .resume i clock ok arrives => if s.ended then s else s.resume i clock ok arrives

def after (environment : Option String) (actions : List Action) : CameraSystem :=
  run step (construct environment) actions

/-! ## With the values left out -/

theorem video_command (s : CameraSystem) (e : Surroundings) (cmd : Command) (arrives : Bool) :
    (s.command e cmd arrives).worker.video = s.worker.video ∨
      (s.command e cmd arrives).worker.video =
        Executor.step s.worker.video (.command cmd e.nowMs) := by
  unfold command
  split
  · exact Or.inl rfl
  · rename_i worker hnext
    obtain ⟨h, hrun, rfl⟩ := exists_runHandler_of_next hnext
    rcases video_of_runHandler hrun with ⟨hsame, -⟩ | hstep
    · exact Or.inl hsame
    · exact Or.inr hstep

/-- The values for the stepper do not show in the system of `Executor.Video`. -/
theorem matches_video : Matches step Executor.step fun s => s.worker.video := by
  intro s action
  cases action with
  | command e cmd arrives =>
      dsimp only [step]
      split_ifs
      · exact Or.inl rfl
      · rcases video_command s e cmd arrives with hsame | hnext
        · exact Or.inl hsame
        · exact Or.inr ⟨_, hnext⟩
  | resume i clock ok arrives =>
      dsimp only [step]
      split_ifs
      · exact Or.inl rfl
      · unfold resume
        split
        · exact Or.inl rfl
        · split
          · exact Or.inl rfl
          · exact Or.inr ⟨.resume i clock ok, rfl⟩

end CameraSystem

/-! ## What a capture still owes -/

/-- The stages of a capture up to the end of its recorder. -/
def Thread.records : Thread → Bool
  | .panMkdir _ | .capturePkill _ | .captureLaunch _ | .captureStop _ => true
  | _ => false

/-- What a task has to send is the end of a sweep, and only a capture before the end of its
recorder has anything to send. -/
structure Owing (task : CameraTask) : Prop where
  isSuffix : task.2 <:+ sweep
  records : task.2 ≠ [] → task.1.records = true

theorem homing_mem_of_isSuffix {moves : List ℤ} (hsuffix : moves <:+ sweep) (hne : moves ≠ []) :
    homing ∈ moves := by
  obtain ⟨sent, hsent⟩ := hsuffix
  have hlast : moves.getLast hne = homing := by
    have happend := List.getLast_append_of_ne_nil (l := sent) (by simp [hsent, sweep]) hne
    simp only [hsent] at happend
    exact happend.symm
  rw [← hlast]
  exact List.getLast_mem hne

theorem Owing.nil (t : Thread) : Owing (t, []) :=
  ⟨List.nil_suffix, fun hne => absurd rfl hne⟩

theorem owing_moves (t : Thread) : Owing (t, t.moves) := by
  cases t with
  | panMkdir => exact ⟨List.suffix_refl _, fun _ => rfl⟩
  | _ => exact Owing.nil _

theorem Owing.of_nextMove? {task next : CameraTask} {move : ℤ} (howing : Owing task)
    (hmove : nextMove? task = some (move, next)) : Owing next := by
  obtain ⟨hthread, hmoves⟩ := fst_of_nextMove? hmove
  constructor
  · have htail : next.2 <:+ task.2 := hmoves ▸ List.suffix_cons move next.2
    exact htail.trans howing.isSuffix
  · intro _
    rw [hthread]
    exact howing.records (by rw [hmoves]; exact List.cons_ne_nil _ _)

/-- A capture that owes values goes on, to a stage before the end of its recorder. -/
theorem exists_threadStep_of_records {x : CommandHandlers} {clock : ℤ} {ok : Bool}
    {task : CameraTask} (howing : Owing task) (hne : task.2 ≠ []) (hmove : nextMove? task = none) :
    ∃ t, (threadStep x clock ok task.1).2 = [t] ∧ t.records = true := by
  obtain ⟨t, moves⟩ := task
  have hrecords := howing.records hne
  cases t with
  | panMkdir recording => exact ⟨_, rfl, rfl⟩
  | capturePkill recording => exact ⟨_, rfl, rfl⟩
  | captureLaunch recording => exact ⟨_, rfl, rfl⟩
  | captureStop recording =>
      cases moves with
      | nil => exact absurd rfl hne
      | cons move rest => simp [nextMove?] at hmove
  | _ => simp [Thread.records] at hrecords

theorem Owing.threadStep {x : CommandHandlers} {clock : ℤ} {ok : Bool} {task : CameraTask}
    {t : Thread} (howing : Owing task) (hmove : nextMove? task = none)
    (ht : t ∈ (threadStep x clock ok task.1).2) : Owing (t, task.2) := by
  by_cases hmoves : task.2 = []
  · rw [hmoves]
    exact Owing.nil t
  · obtain ⟨t', ht', hrecords⟩ := exists_threadStep_of_records howing hmoves hmove
    rw [ht', List.mem_singleton] at ht
    exact ⟨howing.isSuffix, fun _ => ht ▸ hrecords⟩

/-! ## The last value -/

/-- The last value that the stepper gets. -/
def lastArrived (log : List StepperValue) : Option StepperValue :=
  (log.filter StepperValue.arrives).getLast?

/-- No capture fails to send the camera home. -/
def HomingsArrive (log : List StepperValue) : Prop :=
  ∀ v ∈ log, v.ofSweep = true → v.value = homing → v.arrives = true

theorem lastArrived_append_singleton (log : List StepperValue) (v : StepperValue) :
    lastArrived (log ++ [v]) = if v.arrives then some v else lastArrived log := by
  unfold lastArrived
  rw [List.filter_append]
  cases harrives : v.arrives with
  | true => simp [harrives]
  | false => simp [harrives]

theorem HomingsArrive.of_append {log later : List StepperValue}
    (hhomings : HomingsArrive (log ++ later)) : HomingsArrive log :=
  fun v hv => hhomings v (List.mem_append_left later hv)

/-- If a capture has left the camera turned, some capture still owes the way home. -/
def OwesReturn (log : List StepperValue) (tasks : List CameraTask) : Prop :=
  HomingsArrive log → ∀ v, lastArrived log = some v → v.ofSweep = true →
    v.value = homing ∨ ∃ task ∈ tasks, homing ∈ task.2

section OwesReturn

variable {log : List StepperValue} {tasks tasks' : List CameraTask} {v : StepperValue}

theorem OwesReturn.of_worker (howed : OwesReturn log tasks) (hworker : v.ofSweep = false) :
    OwesReturn (log ++ [v]) tasks := by
  intro hhomings last hlast hsweep
  rw [lastArrived_append_singleton] at hlast
  split_ifs at hlast
  · cases hlast
    rw [hworker] at hsweep
    cases hsweep
  · exact howed hhomings.of_append last hlast hsweep

theorem OwesReturn.of_sweep {next : CameraTask} (hsweep : v.ofSweep = true) (hnext : next ∈ tasks)
    (howes : v.value = homing ∨ homing ∈ next.2) : OwesReturn (log ++ [v]) tasks := by
  intro hhomings last hlast _
  rcases howes with hvalue | hmem
  · have harrives : v.arrives = true := hhomings v (by simp) hsweep hvalue
    rw [lastArrived_append_singleton, if_pos harrives] at hlast
    cases hlast
    exact Or.inl hvalue
  · exact Or.inr ⟨next, hnext, hmem⟩

theorem OwesReturn.mono (howed : OwesReturn log tasks)
    (hkeeps : ∀ task ∈ tasks, homing ∈ task.2 → ∃ task' ∈ tasks', homing ∈ task'.2) :
    OwesReturn log tasks' := by
  intro hhomings last hlast hsweep
  rcases howed hhomings last hlast hsweep with hhome | ⟨task, htask, howes⟩
  · exact Or.inl hhome
  · exact Or.inr (hkeeps task htask howes)

end OwesReturn

/-! ## The angle that the worker keeps -/

/-- The last value that the worker has sent. -/
def lastOfWorker (log : List StepperValue) : Option StepperValue :=
  (log.filter fun v => !v.ofSweep).getLast?

/-- A value of the worker turns the camera to an angle, where a NaN is converted to `nanCast`. -/
inductive PointsAt (nanCast : ℤ) : ℤ → Extended → Prop
  | home : PointsAt nanCast homing (.finite 0)
  | turn (angle : Extended) : PointsAt nanCast ((angle.scale 100).toInt nanCast) angle

/-- The angle that is kept is that of the last value of the worker, or still the one of the
start. -/
def TracksOwn (log : List StepperValue) (angle : Extended) : Prop :=
  match lastOfWorker log with
  | none => angle = .finite 0
  | some last => ∃ nanCast, last.sender = .worker nanCast ∧ PointsAt nanCast last.value angle

theorem TracksOwn.of_sweep {log : List StepperValue} {angle : Extended} {v : StepperValue}
    (htracks : TracksOwn log angle) (hsweep : v.ofSweep = true) : TracksOwn (log ++ [v]) angle := by
  have hsame : lastOfWorker (log ++ [v]) = lastOfWorker log := by simp [lastOfWorker, hsweep]
  unfold TracksOwn
  rw [hsame]
  exact htracks

theorem TracksOwn.of_worker {log : List StepperValue} {angle : Extended} {v : StepperValue}
    {nanCast : ℤ} (hworker : v.sender = .worker nanCast)
    (hpoints : PointsAt nanCast v.value angle) : TracksOwn (log ++ [v]) angle := by
  have hlast : lastOfWorker (log ++ [v]) = some v := by
    simp [lastOfWorker, StepperValue.ofSweep, hworker]
  unfold TracksOwn
  rw [hlast]
  exact ⟨nanCast, hworker, hpoints⟩

/-- A rotation keeps the angle of the value that it sends. -/
theorem exists_pointsAt_of_handleCameraRotation {e : Surroundings} {w : Worker} {cmd : Command}
    {h : Handled} (hrun : handleCameraRotation e w cmd = some h) :
    ∃ value timeoutMs, h.requests = [.mcu .cameraStepper value timeoutMs] ∧
      PointsAt e.nanCast value h.worker.currentCameraAngle := by
  rcases of_handleCameraRotation hrun with ⟨-, hhome⟩ | ⟨-, angle, direction, timeoutMs, -, hturn⟩
  · obtain ⟨-, hangle, hrequests⟩ := of_rotateCamera hhome
    exact ⟨homing, 15000, hrequests, hangle ▸ .home⟩
  · obtain ⟨-, hangle, hrequests⟩ := of_rotateCamera hturn
    exact ⟨_, timeoutMs, hrequests, hangle ▸ .turn _⟩

/-- A handler sends no value and keeps the angle, or it keeps the angle of its value. -/
theorem stepperValue_of_runHandler {e : Surroundings} {w : Worker} {cmd : Command} {h : Handled}
    (hrun : runHandler e w cmd = some h) :
    ((asked e w cmd).bind Request.stepperValue? = none ∧
      h.worker.currentCameraAngle = w.currentCameraAngle) ∨
    ∃ value, (asked e w cmd).bind Request.stepperValue? = some value ∧
      PointsAt e.nanCast value h.worker.currentCameraAngle := by
  have hasked := requests_eq_asked hrun
  by_cases h134 : cmd.signalId = 134
  · right
    rw [runHandler_cameraRotation h134] at hrun
    obtain ⟨value, timeoutMs, hrequests, hpoints⟩ := exists_pointsAt_of_handleCameraRotation hrun
    rw [hrequests] at hasked
    have hsome : asked e w cmd = some (.mcu .cameraStepper value timeoutMs) :=
      Option.toList_eq_singleton_iff.mp hasked.symm
    exact ⟨value, by rw [hsome]; rfl, hpoints⟩
  · left
    have hkeeps := keeps_of_runHandler hrun h134
    refine ⟨Option.bind_eq_none_iff.mpr fun request hrequest => ?_, hkeeps.angle⟩
    have hmem : request ∈ h.requests := by
      rw [hasked, hrequest]
      exact List.mem_singleton_self _
    unfold Request.stepperValue?
    split
    · exact absurd hmem (hkeeps.requests _ _)
    · rfl

namespace CameraSystem

theorem owesReturn_turns {log : List StepperValue} {tasks : List CameraTask}
    (howed : OwesReturn log tasks) (e : Surroundings) (w : Worker) (cmd : Command)
    (arrives : Bool) : OwesReturn (log ++ turns e w cmd arrives) tasks := by
  unfold turns
  cases (asked e w cmd).bind Request.stepperValue? with
  | none => simpa using howed
  | some value => exact howed.of_worker rfl

theorem tracksOwn_turns {log : List StepperValue} {e : Surroundings} {w w' : Worker}
    {cmd : Command} (htracks : TracksOwn log w.currentCameraAngle)
    (hnext : (workerStep e w cmd).next = some w') (arrives : Bool) :
    TracksOwn (log ++ turns e w cmd arrives) w'.currentCameraAngle := by
  obtain ⟨h, hrun, rfl⟩ := exists_runHandler_of_next hnext
  unfold turns
  rcases stepperValue_of_runHandler hrun with ⟨hnone, hangle⟩ | ⟨value, hvalue, hpoints⟩
  · rw [hnone, hangle]
    simpa using htracks
  · rw [hvalue]
    exact TracksOwn.of_worker rfl hpoints

/-- The invariant of the runs. -/
structure Homeward (s : CameraSystem) : Prop where
  owing : ∀ task ∈ s.tasks, Owing task
  owed : OwesReturn s.stepper s.tasks
  tracks : s.ended = false → TracksOwn s.stepper s.worker.currentCameraAngle

theorem Homeward.command {s : CameraSystem} (hs : s.Homeward) (e : Surroundings) (cmd : Command)
    (arrives : Bool) : (s.command e cmd arrives).Homeward := by
  unfold CameraSystem.command
  split
  · exact ⟨hs.owing, owesReturn_turns hs.owed e s.worker cmd arrives, fun hended => by cases hended⟩
  · rename_i worker hnext
    constructor
    · intro task htask
      rcases List.mem_append.mp htask with hold | hnew
      · exact hs.owing task hold
      · obtain ⟨t, -, rfl⟩ := List.mem_map.mp hnew
        exact owing_moves t
    · refine (owesReturn_turns hs.owed e s.worker cmd arrives).mono fun task htask howes => ?_
      exact ⟨task, List.mem_append_left _ htask, howes⟩
    · intro hended
      exact tracksOwn_turns (hs.tracks hended) hnext arrives

theorem Homeward.resume {s : CameraSystem} (hs : s.Homeward) (i : ℕ) (clock : ℤ)
    (ok arrives : Bool) : (s.resume i clock ok arrives).Homeward := by
  unfold CameraSystem.resume
  split
  · exact hs
  · rename_i task hi
    have howing : Owing task := hs.owing task (List.mem_of_getElem? hi)
    split
    · -- the task sends a value: it is the way home, or the way home comes later
      rename_i move next hmove
      have hnext : Owing next := howing.of_nextMove? hmove
      constructor
      · refine forall_mem_replaceAt hs.owing fun other hother => ?_
        exact List.mem_singleton.mp hother ▸ hnext
      · refine OwesReturn.of_sweep rfl (mem_replaceAt_of_mem_next (List.mem_singleton_self next)) ?_
        by_cases hlast : next.2 = []
        · left
          have hmoves := (fst_of_nextMove? hmove).2
          have hmem : homing ∈ task.2 :=
            homing_mem_of_isSuffix howing.isSuffix (by rw [hmoves]; exact List.cons_ne_nil _ _)
          rw [hmoves, hlast, List.mem_singleton] at hmem
          exact hmem.symm
        · exact Or.inr (homing_mem_of_isSuffix hnext.isSuffix hlast)
      · exact fun hended => (hs.tracks hended).of_sweep rfl
    · rename_i hmove
      constructor
      · refine forall_mem_replaceAt hs.owing fun other hother => ?_
        obtain ⟨t, ht, rfl⟩ := List.mem_map.mp hother
        exact howing.threadStep hmove ht
      · refine hs.owed.mono fun other hother howes => ?_
        rcases eq_or_mem_replaceAt hi hother with rfl | hstays
        · -- it goes on with the values it owes
          obtain ⟨t, ht, -⟩ := exists_threadStep_of_records howing (List.ne_nil_of_mem howes) hmove
          refine ⟨(t, other.2), mem_replaceAt_of_mem_next ?_, howes⟩
          rw [ht]
          exact List.mem_singleton_self _
        · exact ⟨other, hstays, howes⟩
      · exact hs.tracks

theorem homeward_after (environment : Option String) (actions : List Action) :
    (after environment actions).Homeward := by
  refine run_induction (fun s action hs => ?_) ⟨?_, ?_, fun _ => rfl⟩ actions
  · cases action with
    | command e cmd arrives =>
        dsimp only [step]
        split_ifs
        · exact hs
        · exact hs.command e cmd arrives
    | resume i clock ok arrives =>
        dsimp only [step]
        split_ifs
        · exact hs
        · exact hs.resume i clock ok arrives
  · intro task htask
    cases htask
  · intro _ last hlast
    cases hlast

/-- What is known of the camera and of the recordings. -/
structure Settled (environment : Option String) (s : CameraSystem) : Prop where
  /-- The recordings are those of a run of `Executor.Video`. -/
  video : ∃ videoActions,
    s.worker.video = run Executor.step (State.construct environment) videoActions
  /-- No capture leaves the camera turned, unless its last value is lost. -/
  home : s.tasks = [] → HomingsArrive s.stepper → ∀ last, lastArrived s.stepper = some last →
    last.ofSweep = false ∨ last.value = homing
  /-- The worker keeps the angle of its own last value, whatever the captures do. -/
  tracks : s.ended = false → TracksOwn s.stepper s.worker.currentCameraAngle

theorem camera_after (environment : Option String) (actions : List Action) :
    (after environment actions).Settled environment := by
  have hs := homeward_after environment actions
  refine ⟨matches_video.exists_run _ actions, fun hdone hhomings last hlast => ?_, hs.tracks⟩
  cases hsweep : last.ofSweep with
  | false => exact Or.inl rfl
  | true =>
      right
      rcases hs.owed hhomings last hlast hsweep with hhome | ⟨task, htask, -⟩
      · exact hhome
      · rw [hdone] at htask
        cases htask

/-- `#134` to 45 degrees, and then a whole `#139`. -/
def turnAndSweep : List Action :=
  [.command turning (turnBy (.int 45)) true,
    .command turning ⟨139, "", "cmd-2", "owner", 0, .obj []⟩ true] ++
    List.replicate 9 (.resume 0 0 true true)

/-- The camera is at home in the end, and the worker still keeps 45 degrees. -/
example : (after none turnAndSweep).tasks = [] ∧
    (after none turnAndSweep).stepper.map StepperValue.value = [4500, 9000, -9000, homing] ∧
    (after none turnAndSweep).worker.currentCameraAngle = .finite 45 := by
  refine ⟨rfl, ?_, ?_⟩
  · decide +kernel
  · decide +kernel

end CameraSystem

end OroEdge.Executor
