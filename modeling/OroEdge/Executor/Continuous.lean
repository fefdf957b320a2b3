import OroEdge.Executor.Video
import OroEdge.Lib.Run

/-!
# Continuous recordings and their recorder

A start thread publishes its session in a block under the lock and launches the
recorder after the block; a stop thread and a watcher end the running recorders and
clear the session in one block.  If a session is cleared between the two steps of its
start thread, the recorder is launched afterwards, for no session
(`not_neverOrphan_stop_before_launch`).

`ClearsSafely` is the condition that a block that clears the session finds no start
thread before its launch.  It preserves `Guarded`: without a session there are
neither recorders nor launches to come.

`Guarded` is the closed form of what may be running without a session, and its proof is by cases
on the action: a command adds a thread and at most a result (`guarded_command`), a step of a
thread is one block of the source, executed under the lock or outside it
(`guarded_threadStep`).  The only block that can break it is one that clears the session while a
launch is still to come, and there `ClearsSafely` is used; every other block either keeps the
session or removes recorders.

The condition is on the state before a block and on the block alone.  So it can be read off a
schedule without knowing what the invariant says, and the orderly run at the end meets it.
-/

namespace OroEdge.Executor

open OroEdge.Lib

/-! ## Runs of start and stop commands -/

/-- A #135 command with an `action`. -/
def Command.isContinuous (cmd : Command) : Bool :=
  decide (cmd.signalId = 135) && cmd.payload.contains "action"

/-- The action is about #135, or is a step of a thread. -/
def Action.isContinuous : Action → Bool
  | .command cmd _ => cmd.isContinuous
  | .resume .. => true

/-- No command but #135 is handled in the run. -/
def ContinuousOnly (actions : List Action) : Prop := ∀ action ∈ actions, action.isContinuous

instance (actions : List Action) : Decidable (ContinuousOnly actions) :=
  inferInstanceAs (Decidable (∀ action ∈ actions, action.isContinuous))

/-- A start, stop or watcher thread. -/
def Thread.isContinuous : Thread → Bool
  | .startBlock .. => true
  | .startMkdir .. => true
  | .startLaunch .. => true
  | .watchBlock .. => true
  | .stopBlock => true
  | .upload .. => true
  | .confirm .. => true
  | _ => false

/-- The three outcomes of a command with an `action`: a start, a stop, a refusal. -/
theorem handleVideoCapture_of_action {x : CommandHandlers} {cmd : Command}
    (haction : cmd.payload.contains "action") :
    ∃ result spawned, handleVideoCapture x cmd = (result, spawned) ∧
      ((∃ deviceId dogId, spawned = [.startBlock deviceId dogId cmd] ∧
          result = ⟨true, "", .obj (acknowledgement "continuous_recording_started" cmd)⟩) ∨
        (spawned = [.stopBlock] ∧
          result = ⟨true, "", .obj (acknowledgement "continuous_recording_stopped" cmd)⟩) ∨
        spawned = [] ∧ result.data = .null ∨
        spawned = [] ∧ result = privacyModeActive cmd) := by
  obtain ⟨act, hact⟩ := Option.isSome_iff_exists.mp haction
  unfold handleVideoCapture
  rw [hact]
  split
  · exact ⟨_, _, rfl, Or.inr (Or.inr (Or.inr ⟨rfl, rfl⟩))⟩
  cases act with
  | str act =>
      simp only
      split
      · exact ⟨_, _, rfl, Or.inl ⟨_, _, rfl, rfl⟩⟩
      · split
        · split
          · exact ⟨_, _, rfl, Or.inr (Or.inl ⟨rfl, rfl⟩)⟩
          · exact ⟨_, _, rfl, Or.inr (Or.inr (Or.inl ⟨rfl, rfl⟩))⟩
        · exact ⟨_, _, rfl, Or.inr (Or.inr (Or.inl ⟨rfl, rfl⟩))⟩
  | _ => exact ⟨_, _, rfl, Or.inr (Or.inr (Or.inl ⟨rfl, rfl⟩))⟩

/-- A start or stop command adds a result, and perhaps a thread. -/
theorem handle_of_isContinuous {x : CommandHandlers} {cmd : Command} (clock : ℤ)
    (hcmd : cmd.isContinuous) :
    handle x cmd clock = ({ x with results := x.results ++ [(handleVideoCapture x cmd).1] },
      (handleVideoCapture x cmd).2) := by
  simp only [Command.isContinuous, Bool.and_eq_true, decide_eq_true_eq] at hcmd
  rw [handle, if_pos hcmd.1]

theorem contains_action {cmd : Command} (hcmd : cmd.isContinuous) :
    cmd.payload.contains "action" := by
  simp only [Command.isContinuous, Bool.and_eq_true, decide_eq_true_eq] at hcmd
  exact hcmd.2

/-- The thread of a start or stop command. -/
theorem handle_spawns (x : CommandHandlers) (clock : ℤ) {cmd : Command}
    (hcmd : cmd.isContinuous) :
    (∃ deviceId dogId, (handle x cmd clock).2 = [.startBlock deviceId dogId cmd]) ∨
      (handle x cmd clock).2 = [.stopBlock] ∨ (handle x cmd clock).2 = [] := by
  rw [handle_of_isContinuous clock hcmd]
  obtain ⟨result, spawned, hout, hcases⟩ := handleVideoCapture_of_action (x := x)
    (contains_action hcmd)
  rw [hout]
  rcases hcases with ⟨deviceId, dogId, hspawn, -⟩ | ⟨hspawn, -⟩ | ⟨hspawn, -⟩ | ⟨hspawn, -⟩
  · exact Or.inl ⟨deviceId, dogId, hspawn⟩
  · exact Or.inr (Or.inl hspawn)
  · exact Or.inr (Or.inr hspawn)
  · exact Or.inr (Or.inr hspawn)

theorem handle_threads_isContinuous {x : CommandHandlers} {cmd : Command} {clock : ℤ}
    (hcmd : cmd.isContinuous) : ∀ t ∈ (handle x cmd clock).2, t.isContinuous := by
  rcases handle_spawns x clock hcmd with ⟨_, _, hspawn⟩ | hspawn | hspawn <;>
    simp [hspawn, Thread.isContinuous]

theorem threadStep_isContinuous {x : CommandHandlers} {clock : ℤ} {ok : Bool} {t : Thread}
    (ht : t.isContinuous) : ∀ t' ∈ (threadStep x clock ok t).2, t'.isContinuous := by
  cases t with
  | watchBlock commandId =>
      simp only [threadStep]
      split <;> simp [Thread.isContinuous]
  | stopBlock =>
      simp only [threadStep]
      split <;> simp [Thread.isContinuous]
  | legacyMkdir cmd => cases ht
  | panMkdir recording => cases ht
  | capturePkill recording => cases ht
  | captureLaunch recording => cases ht
  | captureStop recording => cases ht
  | _ => simp [threadStep, Thread.isContinuous]

theorem threads_isContinuous_step {s : State} {action : Action} (haction : action.isContinuous)
    (hs : ∀ t ∈ s.threads, t.isContinuous) :
    ∀ t ∈ (step s action).threads, t.isContinuous := by
  cases action with
  | command cmd clock =>
      intro t ht
      rcases List.mem_append.mp ht with ht | ht
      · exact hs t ht
      · exact handle_threads_isContinuous haction t ht
  | resume i clock ok =>
      simp only [step]
      cases hi : s.threads[i]? with
      | none => exact hs
      | some t =>
          have ht : t.isContinuous := hs t (List.mem_of_getElem? hi)
          exact forall_mem_replaceAt hs (threadStep_isContinuous ht)

/-! ## No orphan recorder -/

/-- With no thread left and no session, no recorder is running. -/
def NoOrphan (s : State) : Prop :=
  s.threads = [] → s.handlers.continuous.active = false → s.handlers.recorders = []

/-- The start thread has published its session and not yet launched its recorder. -/
def Thread.pendingLaunch : Thread → Bool
  | .startMkdir .. => true
  | .startLaunch .. => true
  | _ => false

/-- The next block of the thread clears the session. -/
def clears (x : CommandHandlers) : Thread → Bool
  | .watchBlock commandId => x.continuous.active && decide (x.continuous.commandId = commandId)
  | .stopBlock => x.continuous.active
  | _ => false

/-- A block that clears the session finds no start thread before its launch. -/
def ClearsSafely (s : State) : Action → Prop
  | .command .. => True
  | .resume i _ _ => ∀ t ∈ s.threads[i]?, clears s.handlers t →
      ∀ t' ∈ s.threads, t'.pendingLaunch = false

instance (s : State) : ∀ action, Decidable (ClearsSafely s action)
  | .command .. => inferInstanceAs (Decidable True)
  | .resume i _ _ => inferInstanceAs (Decidable (∀ t ∈ s.threads[i]?, clears s.handlers t →
      ∀ t' ∈ s.threads, t'.pendingLaunch = false))

/-- Without a session there are neither recorders nor launches to come. -/
structure Guarded (s : State) : Prop where
  threads : ∀ t ∈ s.threads, t.isContinuous
  recorders : s.handlers.continuous.active = false → s.handlers.recorders = []
  launches : s.handlers.continuous.active = false → ∀ t ∈ s.threads, t.pendingLaunch = false

theorem guarded_construct (environment : Option String) : Guarded (State.construct environment) :=
  ⟨by simp [State.construct], fun _ => rfl, by simp [State.construct]⟩

theorem guarded_command {s : State} {cmd : Command} (clock : ℤ) (hcmd : cmd.isContinuous)
    (hs : Guarded s) : Guarded (step s (.command cmd clock)) := by
  have hsame : (step s (.command cmd clock)).handlers.continuous = s.handlers.continuous ∧
      (step s (.command cmd clock)).handlers.recorders = s.handlers.recorders := by
    simp [step, handle_of_isContinuous clock hcmd]
  have hquiet : ∀ t ∈ (handle s.handlers cmd clock).2, t.pendingLaunch = false := by
    rcases handle_spawns s.handlers clock hcmd with
      ⟨_, _, hspawn⟩ | hspawn | hspawn <;> simp [hspawn, Thread.pendingLaunch]
  have hthreads : ∀ t ∈ (step s (.command cmd clock)).threads, t.isContinuous :=
    threads_isContinuous_step hcmd hs.threads
  refine ⟨hthreads, ?_, ?_⟩
  · intro hidle
    rw [hsame.1] at hidle
    rw [hsame.2]
    exact hs.recorders hidle
  · intro hidle t ht
    rw [hsame.1] at hidle
    rcases List.mem_append.mp ht with ht | ht
    · exact hs.launches hidle t ht
    · exact hquiet t ht

/-- The step of one thread, when it leaves no session: there is no recorder, its
continuation has no launch, and neither have the other threads. -/
theorem guarded_threadStep {s : State} {i : ℕ} {clock : ℤ} {ok : Bool} {t : Thread}
    (hi : s.threads[i]? = some t) (hallowed : ClearsSafely s (.resume i clock ok))
    (hs : Guarded s) (hidle : (threadStep s.handlers clock ok t).1.continuous.active = false) :
    (threadStep s.handlers clock ok t).1.recorders = [] ∧
      (∀ t' ∈ (threadStep s.handlers clock ok t).2, t'.pendingLaunch = false) ∧
      ∀ t' ∈ s.threads, t'.pendingLaunch = false := by
  have ht := List.mem_of_getElem? hi
  cases t with
  | startBlock deviceId dogId cmd =>
      -- the block has just published a session
      simp [threadStep] at hidle
  -- without a session there is no launch to come, so neither thread is there
  | startMkdir storagePath commandId =>
      exact absurd (hs.launches hidle _ ht) (by simp [Thread.pendingLaunch])
  | startLaunch storagePath commandId =>
      exact absurd (hs.launches hidle _ ht) (by simp [Thread.pendingLaunch])
  | watchBlock commandId =>
      have hclear := hallowed _ hi
      simp only [threadStep] at hidle ⊢
      split
      · rename_i hclaims
        exact ⟨rfl, by simp [Thread.pendingLaunch], hclear hclaims⟩
      · rename_i hkeeps
        rw [if_neg hkeeps] at hidle
        exact ⟨hs.recorders hidle, by simp, hs.launches hidle⟩
  | stopBlock =>
      have hclear := hallowed _ hi
      simp only [threadStep] at hidle ⊢
      split
      · rename_i hclaims
        exact ⟨rfl, by simp [Thread.pendingLaunch], hclear hclaims⟩
      · rename_i hkeeps
        -- a stop thread ends the recorders even when another thread has taken the session
        rw [if_neg hkeeps] at hidle
        exact ⟨rfl, by simp, hs.launches hidle⟩
  | upload recording =>
      exact ⟨hs.recorders hidle, by simp [threadStep, Thread.pendingLaunch], hs.launches hidle⟩
  | confirm recording success =>
      exact ⟨hs.recorders hidle, by simp [threadStep], hs.launches hidle⟩
  | legacyMkdir cmd => exact absurd (hs.threads _ ht) (by simp [Thread.isContinuous])
  | panMkdir recording => exact absurd (hs.threads _ ht) (by simp [Thread.isContinuous])
  | capturePkill recording => exact absurd (hs.threads _ ht) (by simp [Thread.isContinuous])
  | captureLaunch recording => exact absurd (hs.threads _ ht) (by simp [Thread.isContinuous])
  | captureStop recording => exact absurd (hs.threads _ ht) (by simp [Thread.isContinuous])

theorem guarded_resume {s : State} {i : ℕ} {clock : ℤ} {ok : Bool}
    (hallowed : ClearsSafely s (.resume i clock ok)) (hs : Guarded s) :
    Guarded (step s (.resume i clock ok)) := by
  have hthreads : ∀ t ∈ (step s (.resume i clock ok)).threads, t.isContinuous :=
    threads_isContinuous_step rfl hs.threads
  simp only [step] at hthreads ⊢
  cases hi : s.threads[i]? with
  | none => exact hs
  | some t =>
      rw [hi] at hthreads
      constructor
      · exact hthreads
      · intro hidle
        exact (guarded_threadStep hi hallowed hs hidle).1
      · intro hidle
        obtain ⟨-, hnext, hothers⟩ := guarded_threadStep hi hallowed hs hidle
        exact forall_mem_replaceAt hothers hnext

theorem guarded_step (s : State) (action : Action)
    (hallowed : ClearsSafely s action ∧ action.isContinuous) (hs : Guarded s) :
    Guarded (step s action) := by
  obtain ⟨hsafely, haction⟩ := hallowed
  cases action with
  | command cmd clock => exact guarded_command clock haction hs
  | resume i clock ok => exact guarded_resume hsafely hs

/-- No state that the run passes through has an orphan recorder. -/
def NeverOrphan (environment : Option String) (actions : List Action) : Prop :=
  ∀ earlier later, actions = earlier ++ later →
    NoOrphan (run step (State.construct environment) earlier)

/-- **Cleared safely, no recorder is left alone.**  In every run of start and stop
commands in which each block that clears the session finds no start thread between its
block and its launch, a state without threads and without a session has no recorder. -/
theorem neverOrphan_of_clearsSafely (environment : Option String) (actions : List Action)
    (honly : ContinuousOnly actions)
    (hallowed : AllSteps step ClearsSafely (State.construct environment) actions) :
    NeverOrphan environment actions := by
  rintro earlier later rfl - hidle
  have hbefore : ContinuousOnly earlier := fun action hmem =>
    honly action (List.mem_append_left _ hmem)
  obtain ⟨hsafely, -⟩ := AllSteps.append_iff.mp hallowed
  have hguarded : Guarded (run step (State.construct environment) earlier) :=
    AllSteps.run_induction guarded_step (guarded_construct environment)
      (hsafely.and (.of_forall hbefore))
  exact hguarded.recorders hidle

/-! ## A run of each kind -/

/-- A #135 with an action. -/
def continuousCommand (commandId act : String) : Command :=
  ⟨135, "video_capture_command_event", commandId, "app", 0, .obj [("action", .str act)]⟩

/-- Start, launch, stop, finalise; then the watcher finds nothing to do. -/
def orderlyRun : List Action :=
  [.command (continuousCommand "a" "start") 0, .resume 0 0 true, .resume 0 0 true,
    .resume 0 0 true, .command (continuousCommand "b" "stop") 0, .resume 1 0 true,
    .resume 1 0 true, .resume 1 0 true, .resume 0 0 true]

theorem neverOrphan_orderlyRun : NeverOrphan none orderlyRun :=
  neverOrphan_of_clearsSafely none orderlyRun (by decide) (by decide)

/-- The stop thread clears the session before the start thread launches its recorder;
then all threads run to their end. -/
def stopBeforeLaunchRun : List Action :=
  [.command (continuousCommand "a" "start") 0, .resume 0 0 true,
    .command (continuousCommand "b" "stop") 0, .resume 1 0 true, .resume 0 0 true,
    .resume 0 0 true, .resume 0 0 true, .resume 0 0 true, .resume 0 0 true]

/-- The recorder runs on without a session. -/
theorem not_neverOrphan_stop_before_launch :
    ContinuousOnly stopBeforeLaunchRun ∧ ¬ NeverOrphan none stopBeforeLaunchRun := by
  refine ⟨by decide, fun hclaim => ?_⟩
  have horphan := hclaim stopBeforeLaunchRun [] (List.append_nil _).symm
    (List.isEmpty_iff.mp (by decide)) (by decide)
  exact absurd horphan (by decide)

end OroEdge.Executor
