import OroEdge.Executor.Video
import OroEdge.Lib.Run

/-!
# Recording in privacy mode

While privacy is enabled no new recording is to be started, and enabling it ends
the running recorders.  The capture handlers look at the flag before they spawn a
thread; the thread itself launches the recorder later, without looking again.  So a
thread that was spawned before the privacy command, and is still before its launch,
starts a recorder in privacy mode (`not_noLaunchInPrivacy_late_launch`).

`EnablesQuietly` is the condition that a privacy command finds no such thread.  It
preserves `QuietInPrivacy`: in privacy mode no thread is before its launch.

The flag is written by the handler of `#140` and read by the two capture handlers, both on the
worker thread, so a thread can only be spawned while privacy is off (`handle_spawns_nil`).  The
threads never look at the flag again, and a thread that is before its launch was so when it was
spawned (`beforeLaunch_threadStep`).  From these two the invariant follows: with the flag set,
no step can bring a thread before its launch, and the one command that sets it is the one that
the condition is about.

The property speaks of the commands and not of the flag.  `run_privacy` identifies the two, the
flag being what the last privacy command asked for.
-/

namespace OroEdge.Executor

open OroEdge.Lib

/-! ## The property -/

/-- The thread launches `video_recorder.py` next. -/
def Thread.launches : Thread → Bool
  | .startLaunch .. => true
  | .captureLaunch .. => true
  | _ => false

/-- The thread has a launch before it. -/
def Thread.beforeLaunch : Thread → Bool
  | .startBlock .. => true
  | .startMkdir .. => true
  | .startLaunch .. => true
  | .legacyMkdir .. => true
  | .panMkdir .. => true
  | .capturePkill .. => true
  | .captureLaunch .. => true
  | _ => false

/-- The privacy setting after an action. -/
def privacyAfter (enabled : Bool) : Action → Bool
  | .command cmd _ => if cmd.signalId = 140 then privacyRequested cmd.payload else enabled
  | .resume .. => enabled

/-- The last privacy command enabled privacy. -/
def privacyOn (actions : List Action) : Bool := actions.foldl privacyAfter false

/-- Between a command that enables privacy and the next one that disables it, no
action launches a recorder. -/
def NoLaunchInPrivacy (environment : Option String) (actions : List Action) : Prop :=
  ∀ earlier i clock ok later, actions = earlier ++ .resume i clock ok :: later →
    privacyOn earlier →
      ∀ t ∈ (run step (State.construct environment) earlier).threads[i]?, t.launches = false

/-- A command that enables privacy finds no thread before its launch. -/
def EnablesQuietly (s : State) : Action → Prop
  | .command cmd _ => cmd.signalId = 140 → privacyRequested cmd.payload →
      ∀ t ∈ s.threads, t.beforeLaunch = false
  | .resume .. => True

instance (s : State) : ∀ action, Decidable (EnablesQuietly s action)
  | .command cmd _ => inferInstanceAs (Decidable (cmd.signalId = 140 →
      privacyRequested cmd.payload → ∀ t ∈ s.threads, t.beforeLaunch = false))
  | .resume .. => inferInstanceAs (Decidable True)

/-! ## One action -/

theorem Thread.beforeLaunch_of_launches {t : Thread} (hlaunch : t.launches) : t.beforeLaunch := by
  cases t <;> first | rfl | cases hlaunch

/-- A thread that continues before a launch was before it. -/
theorem beforeLaunch_threadStep {x : CommandHandlers} {clock : ℤ} {ok : Bool} {t t' : Thread}
    (ht' : t' ∈ (threadStep x clock ok t).2) (hbefore : t'.beforeLaunch) : t.beforeLaunch := by
  cases t with
  | watchBlock commandId =>
      simp only [threadStep] at ht'
      split at ht'
      · rw [List.mem_singleton.mp ht'] at hbefore
        cases hbefore
      · cases ht'
  | stopBlock =>
      simp only [threadStep] at ht'
      split at ht'
      · rw [List.mem_singleton.mp ht'] at hbefore
        cases hbefore
      · cases ht'
  | startLaunch storagePath commandId => rfl
  | captureLaunch recording => rfl
  | captureStop recording =>
      rw [List.mem_singleton.mp ht'] at hbefore
      cases hbefore
  | upload recording =>
      rw [List.mem_singleton.mp ht'] at hbefore
      cases hbefore
  | confirm recording success => cases ht'
  | _ => rfl

@[simp] theorem threadStep_privacy (x : CommandHandlers) (clock : ℤ) (ok : Bool) (t : Thread) :
    (threadStep x clock ok t).1.privacyModeEnabled = x.privacyModeEnabled := by
  cases t with
  | watchBlock commandId =>
      simp only [threadStep]
      split <;> rfl
  | stopBlock =>
      simp only [threadStep]
      split <;> rfl
  | _ => rfl

theorem handle_privacy (x : CommandHandlers) (cmd : Command) (clock : ℤ) :
    (handle x cmd clock).1.privacyModeEnabled =
      if cmd.signalId = 140 then privacyRequested cmd.payload else x.privacyModeEnabled := by
  unfold handle
  split
  · rename_i hid
    simp [hid]
  · split
    · rename_i hid
      simp [hid]
    · split
      · simp only [handlePrivacyMode]
        split <;> rfl
      · rfl

/-- In privacy mode the handlers spawn nothing. -/
theorem handle_spawns_nil {x : CommandHandlers} (hprivate : x.privacyModeEnabled = true)
    (cmd : Command) (clock : ℤ) : (handle x cmd clock).2 = [] := by
  unfold handle handleVideoCapture handleVideoCapturePan
  rw [hprivate]
  split
  · rfl
  · split
    · rfl
    · split <;> rfl

theorem handle_spawns_nil_of_privacy {cmd : Command} (hid : cmd.signalId = 140)
    (x : CommandHandlers) (clock : ℤ) : (handle x cmd clock).2 = [] := by
  simp [handle, hid]

theorem step_privacy (s : State) (action : Action) :
    (step s action).handlers.privacyModeEnabled =
      privacyAfter s.handlers.privacyModeEnabled action := by
  cases action with
  | command cmd clock => exact handle_privacy s.handlers cmd clock
  | resume i clock ok =>
      simp only [step]
      split
      · rfl
      · exact threadStep_privacy ..

/-! ## The invariant -/

/-- In privacy mode no thread is before its launch. -/
def QuietInPrivacy (s : State) : Prop :=
  s.handlers.privacyModeEnabled = true → ∀ t ∈ s.threads, t.beforeLaunch = false

theorem quietInPrivacy_step (s : State) (action : Action) (hallowed : EnablesQuietly s action)
    (hs : QuietInPrivacy s) : QuietInPrivacy (step s action) := by
  intro hprivate
  rw [step_privacy] at hprivate
  cases action with
  | command cmd clock =>
      simp only [privacyAfter] at hprivate
      simp only [step]
      by_cases hid : cmd.signalId = 140
      · -- privacy is being enabled, which the condition allows only without such threads
        rw [if_pos hid] at hprivate
        rw [handle_spawns_nil_of_privacy hid, List.append_nil]
        exact hallowed hid hprivate
      · rw [if_neg hid] at hprivate
        rw [handle_spawns_nil hprivate, List.append_nil]
        exact hs hprivate
  | resume i clock ok =>
      simp only [step]
      cases hi : s.threads[i]? with
      | none => exact hs hprivate
      | some t =>
          have ht : t.beforeLaunch = false := hs hprivate t (List.mem_of_getElem? hi)
          refine forall_mem_replaceAt (hs hprivate) fun t' hnext => ?_
          by_contra hbefore
          rw [beforeLaunch_threadStep hnext (by simpa using hbefore)] at ht
          cases ht

theorem run_privacy (environment : Option String) (actions : List Action) :
    (run step (State.construct environment) actions).handlers.privacyModeEnabled =
      privacyOn actions := by
  have hgeneral : ∀ (s : State) (actions : List Action),
      (run step s actions).handlers.privacyModeEnabled =
        actions.foldl privacyAfter s.handlers.privacyModeEnabled := by
    intro s actions
    induction actions generalizing s with
    | nil => rfl
    | cons action rest ih => rw [run_cons, ih, List.foldl_cons, step_privacy]
  exact hgeneral (State.construct environment) actions

/-- **Enabled quietly, privacy mode launches nothing.**  In every run in which each
command that enables privacy finds no capture thread before its launch, no recorder is
launched until privacy is disabled. -/
theorem noLaunchInPrivacy_of_enablesQuietly (environment : Option String)
    (actions : List Action)
    (hallowed : AllSteps step EnablesQuietly (State.construct environment) actions) :
    NoLaunchInPrivacy environment actions := by
  rintro earlier i clock ok later rfl hprivate t ht
  obtain ⟨hquietly, -⟩ := AllSteps.append_iff.mp hallowed
  have hstart : QuietInPrivacy (State.construct environment) := by
    simp [QuietInPrivacy, State.construct, CommandHandlers.construct]
  have hquiet : QuietInPrivacy (run step (State.construct environment) earlier) :=
    AllSteps.run_induction quietInPrivacy_step hstart hquietly
  -- the handlers' flag is that of the last privacy command
  have hbefore := hquiet ((run_privacy environment earlier).trans hprivate) t
    (List.mem_of_getElem? ht)
  by_contra hlaunch
  rw [Thread.beforeLaunch_of_launches (by simpa using hlaunch)] at hbefore
  cases hbefore

/-! ## A run of each kind -/

def startCommand (commandId : String) : Command :=
  ⟨135, "video_capture_command_event", commandId, "app", 0, .obj [("action", .str "start")]⟩

def privacyCommand (commandId : String) (enabled : Bool) : Command :=
  ⟨140, "privacy_mode_command_event", commandId, "app", 0, .obj [("enabled", .bool enabled)]⟩

/-- The start thread launches its recorder, then privacy is enabled, and a further
start is refused. -/
theorem noLaunchInPrivacy_after_launch :
    NoLaunchInPrivacy none [.command (startCommand "a") 0, .resume 0 0 true, .resume 0 0 true,
      .resume 0 0 true, .command (privacyCommand "b" true) 0, .command (startCommand "c") 0,
      .resume 0 0 true] :=
  noLaunchInPrivacy_of_enablesQuietly none _ (by decide)

/-- Privacy is enabled while the start thread creates its directory; the thread then
launches the recorder. -/
theorem not_noLaunchInPrivacy_late_launch :
    ¬ NoLaunchInPrivacy none [.command (startCommand "a") 0, .resume 0 0 true,
      .command (privacyCommand "b" true) 0, .resume 0 0 true, .resume 0 0 true] := by
  intro hclaim
  have hlaunch := hclaim [.command (startCommand "a") 0, .resume 0 0 true,
    .command (privacyCommand "b" true) 0, .resume 0 0 true] 0 0 true [] rfl (by decide)
      _ rfl
  exact absurd hlaunch (by decide)

end OroEdge.Executor
