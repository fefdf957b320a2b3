import OroEdge.Executor.Message
import OroEdge.Lib.Pool

/-!
# Video capture and privacy mode

The handlers of #135, #139 and #140, and the detached threads that they spawn.  The
worker thread runs one handler at a time; what a handler does before it returns is
one action.  A detached thread takes one action for each block under
`continuous_mutex_` and for each `std::system` call; sleeping takes no action.
Actions of all threads happen in any order.

The processes on the board are part of the state: `recorders` lists the running
`video_recorder.py`, each by its output path.  Uploads and logged confirmations are
kept in the order in which they are made.

A thread is modelled by its continuation: each constructor of `Thread` is a place in the source
where the thread can be interrupted, with the values that it has captured, and `threadStep` is
the block from there to the next place.  So a block under the lock is atomic and the `sleep`
before a watcher's block is not a step at all: the watcher may take its step at any time, and
nothing is proved from its coming late.

A failed upload is an argument of the step, chosen by the run.  A file that is killed by `pkill`
leaves the list of recorders and nothing else, as the process does.
-/

namespace OroEdge.Executor

open OroEdge.Lib

/-! ## State -/

/-- The `continuous_*` fields; no recording is in progress when the path is empty. -/
structure Session where
  storagePath : String
  fileId : String
  commandId : String
  deviceId : String
  dogId : Option String
  deriving DecidableEq, Repr

/-- There is no recording. -/
def Session.idle : Session := ⟨"", "", "", "", none⟩

/-- There is a recording if its path is set. -/
def Session.active (session : Session) : Bool := decide (session.storagePath ≠ "")

/-- What the last part of a capture thread uploads and confirms. -/
structure Recording where
  storagePath : String
  fileId : String
  commandId : String
  deriving DecidableEq, Repr

/-- What the upload of a session needs. -/
def Session.recording (session : Session) : Recording :=
  ⟨session.storagePath, session.fileId, session.commandId⟩

/-- A detached thread, by what it does next. -/
inductive Thread
  /-- Start of a continuous recording: the block that publishes the session. -/
  | startBlock (deviceId : String) (dogId : Option String) (cmd : Command)
  | startMkdir (storagePath commandId : String)
  | startLaunch (storagePath commandId : String)
  /-- The watcher of a continuous recording, after its 30 seconds. -/
  | watchBlock (commandId : String)
  /-- Stop of a continuous recording. -/
  | stopBlock
  /-- A recording of fixed duration. -/
  | legacyMkdir (cmd : Command)
  /-- A panoramic recording. -/
  | panMkdir (recording : Recording)
  /-- The rest of the two: end running recorders, record, end the recorder. -/
  | capturePkill (recording : Recording)
  | captureLaunch (recording : Recording)
  | captureStop (recording : Recording)
  /-- The rest of every capture: upload, then log #136. -/
  | upload (recording : Recording)
  | confirm (recording : Recording) (success : Bool)
  deriving Repr

/-- The handlers' fields, the processes, and what has been sent out. -/
structure CommandHandlers where
  environment : Option String
  privacyModeEnabled : Bool
  continuous : Session
  recorders : List String
  uploads : List Recording
  logged : List Command
  results : List CommandResult
  deriving Repr

/-- Nothing is recorded, and privacy is not enabled. -/
def CommandHandlers.construct (environment : Option String) : CommandHandlers :=
  ⟨environment, false, Session.idle, [], [], [], []⟩

/-- `pkill -INT -f 'video_recorder.py'`. -/
def CommandHandlers.pkill (x : CommandHandlers) : CommandHandlers := { x with recorders := [] }

/-- `video_recorder.py --output storage_path &`. -/
def CommandHandlers.launch (x : CommandHandlers) (storagePath : String) : CommandHandlers :=
  { x with recorders := x.recorders ++ [storagePath] }

/-! ## Handlers -/

def directory : String := "/home/radxa/oro_base_video_audio/"

/-- The output path of a recording that is started at a clock reading. -/
def storagePathAt (label : String) (timestamp : ℤ) : String :=
  directory ++ (label ++ toString timestamp ++ ".mp4")

def CommandResult.failure (failureReason : String) : CommandResult := ⟨false, failureReason, .null⟩

/-- The result of a command that is refused because privacy is enabled. -/
def privacyModeActive (cmd : Command) : CommandResult :=
  ⟨false, "privacy_mode_active", .obj [("status", .str "failed"),
    ("error", .str "privacy_mode_active"), ("command_id", .str cmd.commandId),
    ("event_time", .int cmd.eventTime)]⟩

/-- The fields of an acknowledgement. -/
def acknowledgement (message : String) (cmd : Command) : List (String × Json) :=
  [("status", .str "acknowledged"), ("message", .str message),
    ("command_id", .str cmd.commandId), ("event_time", .int cmd.eventTime)]

/-- The check of `duration`; `none` when it passes. -/
def durationFailure (payload : Json) : Option String :=
  match payload.get? "duration" with
  | none => none
  | some (.int n) =>
      if wrap32 n ≤ 0 then
        some "invalid_duration_value: duration must be greater than 0"
      else
        none
  | some _ => some "invalid_duration_type: duration must be an integer"

/-- `handle_video_capture`, with the threads that it spawns. -/
def handleVideoCapture (x : CommandHandlers) (cmd : Command) : CommandResult × List Thread :=
  if x.privacyModeEnabled then (privacyModeActive cmd, [])
  else
    match cmd.payload.get? "action" with
    | some (.str act) =>
        if act = "start" then
          (⟨true, "", .obj (acknowledgement "continuous_recording_started" cmd)⟩,
            [.startBlock (resolveDeviceId x.environment cmd) (resolveDogId cmd) cmd])
        else if act = "stop" then
          if x.continuous.active then
            (⟨true, "", .obj (acknowledgement "continuous_recording_stopped" cmd)⟩, [.stopBlock])
          else
            (.failure "no_active_continuous_recording", [])
        else
          (.failure ("invalid_action_value: " ++ act), [])
    | some _ => (.failure "invalid_action_type: action must be a string", [])
    | none =>
        match durationFailure cmd.payload with
        | some failureReason => (.failure failureReason, [])
        | none =>
            (⟨true, "", .obj (acknowledgement "video_capture_initiated" cmd)⟩, [.legacyMkdir cmd])

/-- `handle_video_capture_pan`, at a clock reading. -/
def handleVideoCapturePan (x : CommandHandlers) (cmd : Command) (timestamp : ℤ) :
    CommandResult × List Thread :=
  if x.privacyModeEnabled then (privacyModeActive cmd, [])
  else
    let storagePath := storagePathAt "ORoBase_PAN_VID_" timestamp
    let fileId := "PAN_VID_" ++ cmd.commandId
    (⟨true, "", .obj (acknowledgement "pan_video_capture_initiated" cmd ++
        [("file_id", .str fileId), ("storage_path", .str storagePath)])⟩,
      [.panMkdir ⟨storagePath, fileId, cmd.commandId⟩])

/-- The flag asked for by a #140 command. -/
def privacyRequested (payload : Json) : Bool :=
  match payload.get? "enabled" with
  | some (.bool b) => b
  | some (.int n) => decide (1 ≤ n)
  | some (.float q) => decide (1 / 2 ≤ q)
  | some (.str s) => decide (s = "true") || decide (s = "1")
  | _ => false

/-- #140.  Recordings are killed when privacy is enabled. -/
def handlePrivacyMode (x : CommandHandlers) (cmd : Command) : CommandHandlers × CommandResult :=
  let enable := privacyRequested cmd.payload
  let x := { x with privacyModeEnabled := enable }
  (if enable then x.pkill else x,
    ⟨true, "", .obj [("status", .str "success"), ("privacy_enabled", .bool enable),
      ("command_id", .str cmd.commandId), ("event_time", .int cmd.eventTime)]⟩)

/-! ## Threads -/

/-- The first block of a start thread: end running recorders and publish. -/
def publish (x : CommandHandlers) (deviceId : String) (dogId : Option String) (cmd : Command)
    (timestamp : ℤ) : CommandHandlers :=
  { x.pkill with
    continuous := ⟨storagePathAt "ORoBase_VID_" timestamp, "VID_" ++ cmd.commandId, cmd.commandId,
      deviceId, dogId⟩ }

/-- End the recorder and take the session over. -/
def claim (x : CommandHandlers) : CommandHandlers := { x.pkill with continuous := Session.idle }

/-- The command that carries a confirmation to the signal logger. -/
def confirmation (recording : Recording) (success : Bool) (confirmedAt : ℤ) : Command where
  signalId := 136
  signalType := "video_file_save_confirmation"
  commandId := recording.commandId
  issuedBy := "system"
  eventTime := confirmedAt
  payload := .obj [("file_id", .str recording.fileId),
    ("storage_path", .str recording.storagePath),
    ("status", .str (if success then "success" else "failed"))]

/-- The next action of a thread, at a clock reading; `ok` tells whether an upload ends
with exit code 0. -/
def threadStep (x : CommandHandlers) (clock : ℤ) (ok : Bool) :
    Thread → CommandHandlers × List Thread
  | .startBlock deviceId dogId cmd =>
      let x := publish x deviceId dogId cmd clock
      (x, [.startMkdir x.continuous.storagePath cmd.commandId])
  | .startMkdir storagePath commandId => (x, [.startLaunch storagePath commandId])
  | .startLaunch storagePath commandId => (x.launch storagePath, [.watchBlock commandId])
  | .watchBlock commandId =>
      if x.continuous.active && decide (x.continuous.commandId = commandId) then
        (claim x, [.upload x.continuous.recording])
      else
        (x, [])
  | .stopBlock =>
      if x.continuous.active then (claim x, [.upload x.continuous.recording])
      else (x.pkill, [])
  | .legacyMkdir cmd =>
      (x, [.capturePkill ⟨storagePathAt "ORoBase_VID_" clock, "VID_" ++ cmd.commandId,
        cmd.commandId⟩])
  | .panMkdir recording => (x, [.capturePkill recording])
  | .capturePkill recording => (x.pkill, [.captureLaunch recording])
  | .captureLaunch recording => (x.launch recording.storagePath, [.captureStop recording])
  | .captureStop recording => (x.pkill, [.upload recording])
  | .upload recording =>
      ({ x with uploads := x.uploads ++ [recording] }, [.confirm recording ok])
  | .confirm recording success =>
      ({ x with logged := x.logged ++ [confirmation recording success clock] }, [])

/-! ## The system -/

/-- The handlers, and the detached threads that they have started. -/
structure State where
  handlers : CommandHandlers
  threads : List Thread
  deriving Repr

def State.construct (environment : Option String) : State := ⟨.construct environment, []⟩

/-- A command is handled by the worker, or a thread takes a step. -/
inductive Action
  /-- The worker runs the handler of an accepted command. -/
  | command (cmd : Command) (clock : ℤ)
  /-- The `i`-th detached thread takes its next action. -/
  | resume (i : ℕ) (clock : ℤ) (ok : Bool)
  deriving Repr

/-- The handler of a command, by its signal number. -/
def handle (x : CommandHandlers) (cmd : Command) (clock : ℤ) : CommandHandlers × List Thread :=
  if cmd.signalId = 135 then
    let (result, spawned) := handleVideoCapture x cmd
    ({ x with results := x.results ++ [result] }, spawned)
  else if cmd.signalId = 139 then
    let (result, spawned) := handleVideoCapturePan x cmd clock
    ({ x with results := x.results ++ [result] }, spawned)
  else if cmd.signalId = 140 then
    let (x, result) := handlePrivacyMode x cmd
    ({ x with results := x.results ++ [result] }, [])
  else
    (x, [])

/-- The threads that a handler or a thread starts come last. -/
def step (s : State) : Action → State
  | .command cmd clock =>
      ⟨(handle s.handlers cmd clock).1, s.threads ++ (handle s.handlers cmd clock).2⟩
  | .resume i clock ok =>
      match s.threads[i]? with
      | none => s
      | some t =>
          ⟨(threadStep s.handlers clock ok t).1,
            replaceAt s.threads i (threadStep s.handlers clock ok t).2⟩

/-! ### Small facts -/

@[simp] theorem storagePathAt_ne_empty (label : String) (timestamp : ℤ) :
    storagePathAt label timestamp ≠ "" := by
  intro hempty
  have hlength := congrArg String.length hempty
  simp [storagePathAt, directory] at hlength

@[simp] theorem idle_active : Session.idle.active = false := rfl

@[simp] theorem publish_active (x : CommandHandlers) (deviceId : String) (dogId : Option String)
    (cmd : Command) (timestamp : ℤ) :
    (publish x deviceId dogId cmd timestamp).continuous.active = true := by
  simp [publish, Session.active]

end OroEdge.Executor
