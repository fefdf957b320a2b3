import Mathlib.Data.List.Nodup
import OroEdge.Executor.Continuous

/-!
# Every continuous recording is finalised

An acknowledged start command should end in one upload and one #136 confirmation.
The start thread publishes the session without looking at the one that is there: it
ends the running recorder but takes nothing over, so the recording in progress is
neither uploaded nor confirmed (`not_finalisedOnce_second_start`), as the stop and
watcher blocks would have done.

`PublishesSafely` is the condition that a start thread publishes into an idle
session.  Under it two ledgers balance (`accounted_step`): the acknowledged starts of a
file are the uploads made, the uploads that some thread still owes, and the session;
and the same for confirmations.  A session is watched as long as it is active
(`Watched`), so when all threads have ended nothing is owed.

The two ledgers have one proof.  `Settles` says what is needed of a pair of an item that is owed
and an item that is settled: a step of a thread only moves it from one place to the next, a
start thread owes it, and a stop thread or a watcher takes it over from the session.  Uploads
and confirmations are two instances (`settles_uploads`, `settles_confirmations`), and everything
from `balanced_command` on is proved for an arbitrary one.

At the end of a run the ledger has nothing left but what is settled.  That the threads have
ended says that they owe nothing, and `Watched` says that an active session would have left a
thread; so the acknowledged starts of a file are its uploads, and different ids make that number
at most one.
-/

namespace OroEdge.Executor

open OroEdge.Lib

/-! ## The property -/

/-- The command that a result acknowledges as a started continuous recording. -/
def CommandResult.startedCommand (result : CommandResult) : Option String :=
  match result.data.get? "message", result.data.get? "command_id" with
  | some (.str message), some (.str commandId) =>
      if message = "continuous_recording_started" then some commandId else none
  | _, _ => none

/-- The file that a logged command confirms. -/
def Command.confirmedFile (cmd : Command) : Option String :=
  if cmd.signalId = 136 then
    match cmd.payload.get? "file_id" with
    | some (.str fileId) => some fileId
    | _ => none
  else
    none

/-- How often a file has been handed to the uploader. -/
def uploadsOf (fileId : String) (x : CommandHandlers) : ℕ :=
  x.uploads.countP fun recording => decide (recording.fileId = fileId)

/-- How often a file has been confirmed in the log. -/
def confirmationsOf (fileId : String) (x : CommandHandlers) : ℕ :=
  x.logged.countP fun cmd => decide (cmd.confirmedFile = some fileId)

/-- Each acknowledged start has one upload and one confirmation of its file. -/
def FinalisedOnce (s : State) : Prop :=
  ∀ result ∈ s.handlers.results, ∀ commandId ∈ result.startedCommand,
    uploadsOf ("VID_" ++ commandId) s.handlers = 1 ∧
      confirmationsOf ("VID_" ++ commandId) s.handlers = 1

def commandIds (actions : List Action) : List String :=
  actions.filterMap fun
    | .command cmd _ => some cmd.commandId
    | .resume .. => none

/-- The next block of the thread publishes a session. -/
def Thread.publishes : Thread → Bool
  | .startBlock .. => true
  | _ => false

/-- A start thread publishes its session only when there is none. -/
def PublishesSafely (s : State) : Action → Prop
  | .command .. => True
  | .resume i _ _ => ∀ t ∈ s.threads[i]?, t.publishes → s.handlers.continuous.active = false

instance (s : State) : ∀ action, Decidable (PublishesSafely s action)
  | .command .. => inferInstanceAs (Decidable True)
  | .resume i _ _ => inferInstanceAs (Decidable
      (∀ t ∈ s.threads[i]?, t.publishes → s.handlers.continuous.active = false))

/-! ## Ledgers -/

/-- The session is the recording of the file. -/
def sessionOwes (fileId : String) (session : Session) : ℕ :=
  if session.active = true ∧ session.fileId = fileId then 1 else 0

/-- The thread has an upload of the file before it. -/
def owesUpload (fileId : String) : Thread → Bool
  | .startBlock _ _ cmd => decide ("VID_" ++ cmd.commandId = fileId)
  | .upload recording => decide (recording.fileId = fileId)
  | _ => false

/-- The thread has a confirmation of the file before it. -/
def owesConfirmation (fileId : String) : Thread → Bool
  | .startBlock _ _ cmd => decide ("VID_" ++ cmd.commandId = fileId)
  | .upload recording => decide (recording.fileId = fileId)
  | .confirm recording _ => decide (recording.fileId = fileId)
  | _ => false

/-- What is settled of the file, and what threads and the session owe. -/
def ledger (owes : String → Thread → Bool) (settled : String → CommandHandlers → ℕ)
    (fileId : String) (s : State) : ℕ :=
  settled fileId s.handlers + s.threads.countP (owes fileId) +
    sessionOwes fileId s.handlers.continuous

/-- The acknowledged starts of a command. -/
def startedOf (commandId : String) (x : CommandHandlers) : ℕ :=
  x.results.countP fun result => decide (result.startedCommand = some commandId)

theorem sessionOwes_of_idle {session : Session} (hidle : session.active = false)
    (fileId : String) : sessionOwes fileId session = 0 := by
  simp [sessionOwes, hidle]

theorem sessionOwes_of_active {session : Session} (hactive : session.active = true)
    (fileId : String) :
    sessionOwes fileId session = if session.recording.fileId = fileId then 1 else 0 := by
  simp only [sessionOwes, hactive, true_and]
  rfl

theorem sessionOwes_publish (fileId : String) (x : CommandHandlers) (deviceId : String)
    (dogId : Option String) (cmd : Command) (timestamp : ℤ) :
    sessionOwes fileId (publish x deviceId dogId cmd timestamp).continuous =
      if "VID_" ++ cmd.commandId = fileId then 1 else 0 :=
  sessionOwes_of_active (publish_active ..) fileId

@[simp] theorem sessionOwes_claim (fileId : String) (x : CommandHandlers) :
    sessionOwes fileId (claim x).continuous = 0 := sessionOwes_of_idle rfl fileId

@[simp] theorem uploadsOf_claim (fileId : String) (x : CommandHandlers) :
    uploadsOf fileId (claim x) = uploadsOf fileId x := rfl

@[simp] theorem confirmationsOf_claim (fileId : String) (x : CommandHandlers) :
    confirmationsOf fileId (claim x) = confirmationsOf fileId x := rfl

@[simp] theorem confirmation_confirmedFile (recording : Recording) (success : Bool)
    (confirmedAt : ℤ) :
    (confirmation recording success confirmedAt).confirmedFile = some recording.fileId := rfl

/-- A step of a thread moves an upload from one place to the next. -/
theorem uploads_threadStep {x : CommandHandlers} {t : Thread} (clock : ℤ) (ok : Bool)
    (fileId : String) (ht : t.isContinuous)
    (hallowed : t.publishes → x.continuous.active = false) :
    uploadsOf fileId (threadStep x clock ok t).1 +
        (threadStep x clock ok t).2.countP (owesUpload fileId) +
        sessionOwes fileId (threadStep x clock ok t).1.continuous =
      uploadsOf fileId x + (if owesUpload fileId t then 1 else 0) +
        sessionOwes fileId x.continuous := by
  cases t with
  | startBlock deviceId dogId cmd =>
      -- the debt of the thread passes to the session, which must not owe anything yet
      have hidle := sessionOwes_of_idle (hallowed rfl) fileId
      simp only [threadStep, sessionOwes_publish, hidle]
      simp [owesUpload, uploadsOf, publish, CommandHandlers.pkill]
  | startMkdir storagePath commandId => simp [threadStep, owesUpload]
  | startLaunch storagePath commandId =>
      simp [threadStep, owesUpload, uploadsOf, CommandHandlers.launch]
  | watchBlock commandId =>
      simp only [threadStep]
      split
      · rename_i hclaims
        -- the debt of the session passes to the upload that follows
        rw [sessionOwes_of_active (Bool.and_eq_true_iff.mp hclaims).1]
        simp [owesUpload, List.countP_singleton]
      · simp [owesUpload]
  | stopBlock =>
      simp only [threadStep]
      split
      · rename_i hactive
        rw [sessionOwes_of_active hactive]
        simp [owesUpload, List.countP_singleton]
      · simp [owesUpload, uploadsOf, CommandHandlers.pkill]
  | upload recording =>
      simp [threadStep, owesUpload, uploadsOf, List.countP_append,
        List.countP_singleton]
  | confirm recording success => simp [threadStep, owesUpload, uploadsOf]
  | legacyMkdir cmd => cases ht
  | panMkdir recording => cases ht
  | capturePkill recording => cases ht
  | captureLaunch recording => cases ht
  | captureStop recording => cases ht

/-- The same for a confirmation. -/
theorem confirmations_threadStep {x : CommandHandlers} {t : Thread} (clock : ℤ) (ok : Bool)
    (fileId : String) (ht : t.isContinuous)
    (hallowed : t.publishes → x.continuous.active = false) :
    confirmationsOf fileId (threadStep x clock ok t).1 +
        (threadStep x clock ok t).2.countP (owesConfirmation fileId) +
        sessionOwes fileId (threadStep x clock ok t).1.continuous =
      confirmationsOf fileId x + (if owesConfirmation fileId t then 1 else 0) +
        sessionOwes fileId x.continuous := by
  cases t with
  | startBlock deviceId dogId cmd =>
      have hidle := sessionOwes_of_idle (hallowed rfl) fileId
      simp only [threadStep, sessionOwes_publish, hidle]
      simp [owesConfirmation, confirmationsOf, publish, CommandHandlers.pkill]
  | startMkdir storagePath commandId => simp [threadStep, owesConfirmation]
  | startLaunch storagePath commandId =>
      simp [threadStep, owesConfirmation, confirmationsOf, CommandHandlers.launch]
  | watchBlock commandId =>
      simp only [threadStep]
      split
      · rename_i hclaims
        rw [sessionOwes_of_active (Bool.and_eq_true_iff.mp hclaims).1]
        simp [owesConfirmation, List.countP_singleton]
      · simp [owesConfirmation]
  | stopBlock =>
      simp only [threadStep]
      split
      · rename_i hactive
        rw [sessionOwes_of_active hactive]
        simp [owesConfirmation, List.countP_singleton]
      · simp [owesConfirmation, confirmationsOf, CommandHandlers.pkill]
  | upload recording =>
      simp [threadStep, owesConfirmation, confirmationsOf, List.countP_singleton]
  | confirm recording success =>
      simp [threadStep, owesConfirmation, confirmationsOf, List.countP_append,
        List.countP_singleton]
  | legacyMkdir cmd => cases ht
  | panMkdir recording => cases ht
  | capturePkill recording => cases ht
  | captureLaunch recording => cases ht
  | captureStop recording => cases ht

/-- What makes a ledger balance: each step of a thread only moves an item, a start
thread owes the file of its command, a stop thread owes nothing, and results do not
count. -/
structure Settles (owes : String → Thread → Bool) (settled : String → CommandHandlers → ℕ) :
    Prop where
  step : ∀ {x : CommandHandlers} {t : Thread} (clock : ℤ) (ok : Bool) (fileId : String),
    t.isContinuous → (t.publishes → x.continuous.active = false) →
      settled fileId (threadStep x clock ok t).1 +
          (threadStep x clock ok t).2.countP (owes fileId) +
          sessionOwes fileId (threadStep x clock ok t).1.continuous =
        settled fileId x + (if owes fileId t then 1 else 0) + sessionOwes fileId x.continuous
  start : ∀ fileId deviceId dogId cmd,
    owes fileId (.startBlock deviceId dogId cmd) = decide ("VID_" ++ cmd.commandId = fileId)
  stop : ∀ fileId, owes fileId .stopBlock = false
  results : ∀ fileId (x : CommandHandlers) results,
    settled fileId { x with results := results } = settled fileId x

theorem settles_uploads : Settles owesUpload uploadsOf :=
  ⟨uploads_threadStep, fun _ _ _ _ => rfl, fun _ => rfl, fun _ _ _ => rfl⟩

theorem settles_confirmations : Settles owesConfirmation confirmationsOf :=
  ⟨confirmations_threadStep, fun _ _ _ _ => rfl, fun _ => rfl, fun _ _ _ => rfl⟩

/-! ## Both ledgers balance -/

/-- The ledger of the file of a command amounts to the acknowledged starts. -/
def Balanced (owes : String → Thread → Bool) (settled : String → CommandHandlers → ℕ)
    (commandId : String) (s : State) : Prop :=
  ledger owes settled ("VID_" ++ commandId) s = startedOf commandId s.handlers

theorem startedCommand_acknowledgement (message : String) (cmd : Command) :
    CommandResult.startedCommand ⟨true, "", .obj (acknowledgement message cmd)⟩ =
      if message = "continuous_recording_started" then some cmd.commandId else none := rfl

theorem startedCommand_started (cmd : Command) :
    CommandResult.startedCommand
      ⟨true, "", .obj (acknowledgement "continuous_recording_started" cmd)⟩ =
        some cmd.commandId := by
  rw [startedCommand_acknowledgement, if_pos rfl]

theorem startedCommand_stopped (cmd : Command) :
    CommandResult.startedCommand
      ⟨true, "", .obj (acknowledgement "continuous_recording_stopped" cmd)⟩ = none := by
  rw [startedCommand_acknowledgement, if_neg (by decide)]

theorem startedCommand_of_null {result : CommandResult} (hdata : result.data = .null) :
    result.startedCommand = none := by
  unfold CommandResult.startedCommand
  rw [hdata]
  rfl

theorem startedCommand_privacyModeActive (cmd : Command) :
    (privacyModeActive cmd).startedCommand = none := rfl

section Ledger

variable {owes : String → Thread → Bool} {settled : String → CommandHandlers → ℕ}

theorem ledger_command (hsettles : Settles owes settled) (fileId : String) {s : State}
    {cmd : Command} (clock : ℤ) (hcmd : cmd.isContinuous) :
    ledger owes settled fileId (step s (.command cmd clock)) =
      ledger owes settled fileId s +
        (handleVideoCapture s.handlers cmd).2.countP (owes fileId) := by
  simp only [step, handle_of_isContinuous clock hcmd]
  simp only [ledger, hsettles.results, List.countP_append]
  omega

theorem startedOf_command (commandId : String) {s : State} {cmd : Command} (clock : ℤ)
    (hcmd : cmd.isContinuous) :
    startedOf commandId (step s (.command cmd clock)).handlers =
      startedOf commandId s.handlers +
        if (handleVideoCapture s.handlers cmd).1.startedCommand = some commandId then 1 else 0 := by
  simp only [step, handle_of_isContinuous clock hcmd]
  unfold startedOf
  rw [List.countP_append, List.countP_singleton]
  simp only [decide_eq_true_eq]

/-- A start command adds its acknowledgement and a thread that owes its file. -/
theorem balanced_command (hsettles : Settles owes settled) {commandId : String} {s : State}
    {cmd : Command} (clock : ℤ) (hcmd : cmd.isContinuous) (hs : Balanced owes settled commandId s) :
    Balanced owes settled commandId (step s (.command cmd clock)) := by
  unfold Balanced at hs ⊢
  rw [ledger_command hsettles _ clock hcmd, startedOf_command _ clock hcmd, hs]
  obtain ⟨result, spawned, hout, hcases⟩ :=
    handleVideoCapture_of_action (x := s.handlers) (contains_action hcmd)
  rw [hout]
  rcases hcases with ⟨deviceId, dogId, rfl, rfl⟩ | ⟨rfl, rfl⟩ | ⟨rfl, hdata⟩ | ⟨rfl, rfl⟩
  · simp only [List.countP_singleton, hsettles.start, startedCommand_started,
      String.append_right_inj, Option.some.injEq, decide_eq_true_eq]
  · simp only [List.countP_singleton, hsettles.stop, startedCommand_stopped, Bool.false_eq_true,
      reduceCtorEq, if_false]
  · simp only [List.countP_nil, startedCommand_of_null hdata, reduceCtorEq, if_false]
  · simp only [List.countP_nil, startedCommand_privacyModeActive, reduceCtorEq, if_false]

theorem threadStep_results (x : CommandHandlers) (clock : ℤ) (ok : Bool) (t : Thread) :
    (threadStep x clock ok t).1.results = x.results := by
  cases t with
  | watchBlock commandId =>
      simp only [threadStep]
      split <;> rfl
  | stopBlock =>
      simp only [threadStep]
      split <;> rfl
  | _ => rfl

theorem balanced_resume (hsettles : Settles owes settled) {commandId : String} {s : State} {i : ℕ}
    {clock : ℤ} {ok : Bool} (hallowed : PublishesSafely s (.resume i clock ok))
    (hthreads : ∀ t ∈ s.threads, t.isContinuous) (hs : Balanced owes settled commandId s) :
    Balanced owes settled commandId (step s (.resume i clock ok)) := by
  simp only [step]
  cases hi : s.threads[i]? with
  | none => exact hs
  | some t =>
      have hlocal := hsettles.step clock ok ("VID_" ++ commandId)
        (hthreads t (List.mem_of_getElem? hi)) (hallowed t hi)
      have hpool := countP_replaceAt hi (threadStep s.handlers clock ok t).2
        (owes ("VID_" ++ commandId))
      -- `hlocal` balances the thread against its continuation, `hpool` puts both into the pool
      unfold Balanced ledger startedOf at hs ⊢
      simp only [threadStep_results]
      omega

/-- The ledger of the file balances, among threads of start and stop commands. -/
def Accounted (owes : String → Thread → Bool) (settled : String → CommandHandlers → ℕ)
    (commandId : String) (s : State) : Prop :=
  (∀ t ∈ s.threads, t.isContinuous) ∧ Balanced owes settled commandId s

theorem accounted_step (hsettles : Settles owes settled) (commandId : String) (s : State)
    (action : Action) (hallowed : PublishesSafely s action ∧ action.isContinuous)
    (hs : Accounted owes settled commandId s) :
    Accounted owes settled commandId (step s action) := by
  obtain ⟨hsafely, haction⟩ := hallowed
  obtain ⟨hthreads, hbalanced⟩ := hs
  refine ⟨threads_isContinuous_step haction hthreads, ?_⟩
  cases action with
  | command cmd clock => exact balanced_command hsettles clock haction hbalanced
  | resume i clock ok => exact balanced_resume hsettles hsafely hthreads hbalanced

end Ledger

/-! ## An active session is watched -/

/-- The thread is, or becomes, the watcher of the command's session. -/
def watches (commandId : String) : Thread → Bool
  | .startMkdir _ watched => decide (watched = commandId)
  | .startLaunch _ watched => decide (watched = commandId)
  | .watchBlock watched => decide (watched = commandId)
  | _ => false

/-- An active session has a thread that will end it. -/
def Watched (s : State) : Prop :=
  s.handlers.continuous.active = true → ∃ t ∈ s.threads, watches s.handlers.continuous.commandId t

/-- A step that leaves a session active keeps its watcher, or publishes a session and
becomes its watcher. -/
theorem watched_threadStep {x : CommandHandlers} {clock : ℤ} {ok : Bool} {t : Thread}
    (hactive : (threadStep x clock ok t).1.continuous.active = true) :
    (∃ t' ∈ (threadStep x clock ok t).2,
      watches (threadStep x clock ok t).1.continuous.commandId t') ∨
    ((threadStep x clock ok t).1.continuous = x.continuous ∧
      watches x.continuous.commandId t = false) := by
  cases t with
  | startBlock deviceId dogId cmd =>
      refine Or.inl ⟨_, List.mem_singleton_self _, ?_⟩
      simp [watches, threadStep, publish]
  | startMkdir storagePath commandId =>
      by_cases hsame : commandId = x.continuous.commandId
      · refine Or.inl ⟨_, List.mem_singleton_self _, ?_⟩
        simp [watches, threadStep, hsame]
      · exact Or.inr ⟨rfl, by simp [watches, hsame]⟩
  | startLaunch storagePath commandId =>
      by_cases hsame : commandId = x.continuous.commandId
      · refine Or.inl ⟨_, List.mem_singleton_self _, ?_⟩
        simp [watches, threadStep, hsame, CommandHandlers.launch]
      · exact Or.inr ⟨rfl, by simp [watches, hsame]⟩
  | watchBlock commandId =>
      simp only [threadStep] at hactive ⊢
      split
      · rename_i hclaims
        rw [if_pos hclaims] at hactive
        cases hactive
      · rename_i hkeeps
        rw [if_neg hkeeps] at hactive
        refine Or.inr ⟨rfl, ?_⟩
        -- the watcher of the active session would have claimed it
        by_contra hwatches
        simp only [watches, decide_eq_true_eq, Bool.not_eq_false] at hwatches
        exact hkeeps (by simp [hactive, hwatches])
  | stopBlock =>
      simp only [threadStep] at hactive ⊢
      split
      · rename_i hclaims
        rw [if_pos hclaims] at hactive
        cases hactive
      · exact Or.inr ⟨rfl, rfl⟩
  | _ => exact Or.inr ⟨rfl, rfl⟩

theorem watched_step (s : State) (action : Action) (haction : action.isContinuous)
    (hs : Watched s) : Watched (step s action) := by
  intro hactive
  cases action with
  | command cmd clock =>
      have hsame : (step s (.command cmd clock)).handlers.continuous = s.handlers.continuous := by
        simp [step, handle_of_isContinuous clock haction]
      rw [hsame] at hactive ⊢
      obtain ⟨t, ht, hwatches⟩ := hs hactive
      exact ⟨t, List.mem_append_left _ ht, hwatches⟩
  | resume i clock ok =>
      simp only [step] at hactive ⊢
      cases hi : s.threads[i]? with
      | none =>
          rw [hi] at hactive
          exact hs hactive
      | some t =>
          rw [hi] at hactive
          rcases watched_threadStep hactive with ⟨t', ht', hwatches⟩ | ⟨hsame, hnot⟩
          · exact ⟨t', mem_replaceAt_of_mem_next ht', hwatches⟩
          · rw [hsame] at hactive
            obtain ⟨w, hw, hwatches⟩ := hs hactive
            simp only [hsame]
            rcases eq_or_mem_replaceAt hi hw with rfl | hstays
            · rw [hnot] at hwatches
              cases hwatches
            · exact ⟨w, hstays, hwatches⟩

/-! ## Every run -/

/-- Only its own start command is acknowledged as started. -/
theorem eq_commandId_of_startedCommand {x : CommandHandlers} {cmd : Command} {commandId : String}
    (hcmd : cmd.isContinuous)
    (hstarted : (handleVideoCapture x cmd).1.startedCommand = some commandId) :
    cmd.commandId = commandId := by
  obtain ⟨result, spawned, hout, hcases⟩ :=
    handleVideoCapture_of_action (x := x) (contains_action hcmd)
  rw [hout] at hstarted
  rcases hcases with ⟨_, _, _, rfl⟩ | ⟨_, rfl⟩ | ⟨_, hdata⟩ | ⟨_, rfl⟩
  · exact Option.some.inj hstarted
  · rw [startedCommand_stopped] at hstarted
    cases hstarted
  · rw [startedCommand_of_null hdata] at hstarted
    cases hstarted
  · cases hstarted

/-- A command id is acknowledged no more often than it is used. -/
theorem startedOf_run_le (commandId : String) {s : State} {actions : List Action}
    (honly : ContinuousOnly actions) :
    startedOf commandId (run step s actions).handlers ≤
      startedOf commandId s.handlers + (commandIds actions).count commandId := by
  induction actions generalizing s with
  | nil => exact Nat.le_add_right _ _
  | cons action rest ih =>
      have hrest := ih (s := step s action) fun action hmem =>
        honly action (List.mem_cons_of_mem _ hmem)
      rw [run_cons]
      cases action with
      | command cmd clock =>
          have hcmd := honly _ (List.mem_cons_self ..)
          rw [startedOf_command commandId clock hcmd] at hrest
          have hids : commandIds (.command cmd clock :: rest) = cmd.commandId :: commandIds rest :=
            rfl
          rw [hids, List.count_cons]
          split at hrest
          · rename_i hstarted
            rw [if_pos (by simpa using eq_commandId_of_startedCommand hcmd hstarted)]
            omega
          · omega
      | resume i clock ok =>
          have hids : commandIds (.resume i clock ok :: rest) = commandIds rest := rfl
          have hsame : (step s (.resume i clock ok)).handlers.results = s.handlers.results := by
            simp only [step]
            cases s.threads[i]? with
            | none => rfl
            | some t => exact threadStep_results ..
          rw [hids]
          rw [startedOf, startedOf, hsame] at hrest
          exact hrest

/-- **Published safely, every recording is finalised once.**  In every run of start and
stop commands with distinct ids in which no start thread publishes over an active
session, once all threads have finished, each acknowledged start has exactly one upload
and exactly one #136 confirmation of its file. -/
theorem finalisedOnce_of_publishesSafely (environment : Option String) (actions : List Action)
    (honly : ContinuousOnly actions) (hids : (commandIds actions).Nodup)
    (hallowed : AllSteps step PublishesSafely (State.construct environment) actions)
    (hfinished : (run step (State.construct environment) actions).threads = []) :
    FinalisedOnce (run step (State.construct environment) actions) := by
  intro result hresult commandId hstarted
  -- an active session would still have a thread that watches it
  have hidle : (run step (State.construct environment) actions).handlers.continuous.active =
      false := by
    by_contra hactive
    have hstart : Watched (State.construct environment) := by
      simp [Watched, State.construct, CommandHandlers.construct]
    have hwatched : Watched (run step (State.construct environment) actions) :=
      AllSteps.run_induction watched_step hstart (.of_forall honly)
    obtain ⟨t, ht, -⟩ := hwatched (by simpa using hactive)
    rw [hfinished] at ht
    cases ht
  have hone :
      startedOf commandId (run step (State.construct environment) actions).handlers = 1 := by
    have hpos : 0 < startedOf commandId
        (run step (State.construct environment) actions).handlers :=
      List.countP_pos_iff.mpr ⟨result, hresult, by simpa using hstarted⟩
    have hle := startedOf_run_le commandId (s := State.construct environment) honly
    have hcount := List.nodup_iff_count_le_one.mp hids commandId
    have hzero : startedOf commandId (State.construct environment).handlers = 0 := rfl
    omega
  -- with no thread and no session left, what is settled is all of the ledger
  have hbalance : ∀ {owes : String → Thread → Bool} {settled : String → CommandHandlers → ℕ},
      Settles owes settled →
        settled ("VID_" ++ commandId) (State.construct environment).handlers = 0 →
          settled ("VID_" ++ commandId)
            (run step (State.construct environment) actions).handlers = 1 := by
    intro owes settled hsettles hzero
    have hstart : Accounted owes settled commandId (State.construct environment) := by
      refine ⟨by simp [State.construct], ?_⟩
      rw [Balanced, ledger, hzero, sessionOwes_of_idle rfl]
      rfl
    obtain ⟨-, hbalanced⟩ := AllSteps.run_induction (accounted_step hsettles commandId) hstart
      (hallowed.and (.of_forall honly))
    rw [Balanced, ledger, hfinished, sessionOwes_of_idle hidle, hone] at hbalanced
    simpa using hbalanced
  exact ⟨hbalance settles_uploads rfl, hbalance settles_confirmations rfl⟩

/-! ## A run of each kind -/

theorem finalisedOnce_orderlyRun : FinalisedOnce (run step (State.construct none) orderlyRun) :=
  finalisedOnce_of_publishesSafely none orderlyRun
    (by decide) (by decide) (by decide) (List.isEmpty_iff.mp rfl)

/-- A second start comes while the first recording is in progress; all threads run to
their end. -/
def secondStartRun : List Action :=
  [.command (continuousCommand "a" "start") 0, .resume 0 1 true, .resume 0 1 true,
    .resume 0 1 true, .command (continuousCommand "b" "start") 2, .resume 1 2 true,
    .resume 1 2 true, .resume 1 2 true, .resume 0 3 true, .resume 0 4 true, .resume 0 5 true,
    .resume 0 6 true]

/-- The first recording is neither uploaded nor confirmed. -/
theorem not_finalisedOnce_second_start :
    ContinuousOnly secondStartRun ∧ (commandIds secondStartRun).Nodup ∧
      (run step (State.construct none) secondStartRun).threads.isEmpty ∧
        ¬ FinalisedOnce (run step (State.construct none) secondStartRun) := by
  refine ⟨by decide, by decide, rfl, fun hclaim => ?_⟩
  have hacknowledged : "a" ∈ ((run step (State.construct none)
      secondStartRun).handlers.results.filterMap CommandResult.startedCommand) := by decide
  obtain ⟨result, hresult, hstarted⟩ := List.mem_filterMap.mp hacknowledged
  have honce := (hclaim result hresult "a" hstarted).1
  exact absurd honce (by decide)

end OroEdge.Executor
