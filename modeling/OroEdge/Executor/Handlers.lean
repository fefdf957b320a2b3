import OroEdge.Executor.Dispatcher
import OroEdge.Executor.Video
import OroEdge.Lib.Numeral

/-!
# The command handlers

The handlers of all commands.  Each reads its fields from the payload, asks the MCU or
`RadxaServices` for a reply, and fills a result.  `none` stands for an exception that
leaves the handler, and for waiting without an end.

A handler makes at most one request.  Replies are any bytes; all that is known of a
reply that has been parsed is that it can be dumped again.

What C++ leaves open is a parameter of the surroundings and not chosen here: the cast of a
floating-point number beyond the range of an integer (`casts`), and of one that is no number
(`nanCast`).  So a theorem about the handlers holds for every platform, and whoever wants to
know what a given machine does puts its conversion in.

The readers of a payload are three, and they differ in what they take for a number. 
`Json.asInt32` is the `get` of the library, which converts any number and throws on anything
else.  `looseInt` and `looseFloat` try a number, then a text, and pass over other values.  Each
is written down with the order in which the source tries the keys, because a key that is there
and cannot be read is an exception even if a later one could be.
-/

namespace OroEdge.Executor

open OroEdge.Lib

/-! ## Requests and replies -/

/-- A text that is JSON, another text, and bytes that are no text in UTF-8. -/
inductive Reply
  | json (j : Json) (parsed : j.dumps = true)
  | text (s : String)
  | bytes

inductive Peripheral
  | lid1Stepper
  | lid2Stepper
  | cameraStepper
  deriving DecidableEq, Repr

/-- What is asked for: a packet for the MCU, or a JSON text for `RadxaServices`. -/
inductive Request
  | mcu (peripheral : Peripheral) (value timeoutMs : ℤ)
  | radxa (command : Json)
  deriving Repr

/-- What becomes of a packet for the MCU: a reply, none before the timeout, or an error of
the socket with its text. -/
inductive McuOutcome
  | reply (reply : Reply)
  | timeout
  | error (what : String)

/-- The clock, what becomes of the request of a handler, and what C++ leaves open: the casts of
numbers beyond the range of an integer type, and the integer that a NaN is converted to. -/
structure Surroundings where
  nowMs : ℕ
  mcu : McuOutcome
  radxaReply : Reply
  casts : FloatCasts
  nanCast : ℤ

/-- The fields of the handlers. -/
structure Worker where
  video : State
  currentSessionId : String
  currentCameraAngle : Extended

/-- A new worker: no session is going on, and the camera is taken to be at 0. -/
def Worker.construct (environment : Option String) : Worker :=
  ⟨.construct environment, "", .finite 0⟩

/-- What a handler returns, with the command as the handler leaves it. -/
structure Handled where
  worker : Worker
  cmd : Command
  result : CommandResult
  requests : List Request

/-! ## Reading the payload -/

/-- The first of the keys that the payload contains, or a default. -/
def readFirst {α : Type} (read : Json → Option α) (payload : Json) (keys : List String)
    (fallback : α) : Option α :=
  match keys.findSome? payload.get? with
  | some inner => read inner
  | none => some fallback

/-- A number, or a text that is converted; other values are passed over. -/
def looseInt (casts : FloatCasts) (fallback : ℤ) : Json → Option ℤ
  | .str s => stoi s
  | .int n => some (wrap32 n)
  | .float q => some (casts.toInt32 q)
  | _ => some fallback

/-- `looseInt` with a `double` between a number and its cast. -/
def looseDouble (casts : FloatCasts) (fallback : ℤ) : Json → Option ℤ
  | .str s => stoi s
  | .int n => some (casts.toInt32 n)
  | .float q => some (casts.toInt32 q)
  | _ => some fallback

/-- `looseInt` for angles, which are floating-point numbers. -/
def looseFloat : Json → Option Extended
  | .str s => stof s
  | .int n => some (.finite n)
  | .float q => some (.finite q)
  | _ => some (.finite 0)

/-! ## The MCU -/

/-- `send_packet_to_mcu`.  A timeout below -1 is an exception, and one again where the
exception is caught; -1 waits without an end. -/
def sendPacketToMcu (e : Surroundings) (timeoutMs : ℤ) : Option CommandResult :=
  if timeoutMs < -1 then none
  else
    match e.mcu with
    | .reply (.json j _) => some ⟨true, "", j⟩
    | .reply (.text s) =>
        some ⟨true, "", .obj [("raw_response", .str s), ("status", .str "success")]⟩
    | .reply .bytes =>
        some ⟨true, "", .obj [("raw_response", .notUtf8), ("status", .str "success")]⟩
    | .timeout =>
        if timeoutMs = -1 then none
        else some ⟨true, "", .obj [("completion_time", .int e.nowMs), ("mcu_timeout", .bool true),
          ("status", .str "success")]⟩
    | .error what =>
        some ⟨false, "", .obj [("completion_time", .int e.nowMs), ("mcu_error", .str what),
          ("status", .str "failed")]⟩

/-- 1 to open a lid, and 0 to close it. -/
def lidValue (casts : FloatCasts) (payload : Json) : ℤ :=
  match payload.get? "action" with
  | some (.int n) => if n.bmod 256 = 0 then 0 else 1
  | some (.float q) => if casts.toInt8 q = 0 then 0 else 1
  | some (.str s) => if s = "open" ∨ s = "1" then 1 else 0
  | some _ => 0
  | none => 1

/-- The action of a payload, if it is there, is rewritten. -/
def rewriteAction (payload : Json) (action : String) : Option Json :=
  if payload.contains "action" then payload.set? "action" (.str action) else some payload

/-- #64.  Every lid but 2 is lid 1, and the payload keeps the action as a word. -/
def handleLidActuation (e : Surroundings) (w : Worker) (cmd : Command) : Option Handled := do
  let lidId ← readFirst (Json.asUint8 e.casts) cmd.payload ["lid_id"] 1
  let pid := if lidId = 2 then Peripheral.lid2Stepper else Peripheral.lid1Stepper
  let val := lidValue e.casts cmd.payload
  let action := if val = 1 then "open" else "close"
  let payload ← rewriteAction cmd.payload action
  let timeoutMs ← readFirst (Json.asInt32 e.casts) payload ["timeout_ms"] 10000
  let res ← sendPacketToMcu e timeoutMs
  let action ← payload.value Json.asString "action" action
  let data ← res.data.setAll? [("command_id", .str cmd.commandId), ("action", .str action),
    ("lid_id", .int lidId), ("completion_time", .int e.nowMs),
    ("failure_reason", .str (if res.success then "" else res.failureReason))]
  return ⟨w, { cmd with payload }, { res with data }, [.mcu pid val timeoutMs]⟩

/-- The fields that a rotation adds to its result. -/
def rotationFields (e : Surroundings) (cmd : Command) (angle : Extended) :
    List (String × Json) :=
  [("command_id", .str cmd.commandId),
    -- a number that is not finite is dumped as null
    ("angle", match angle with
      | .finite q => .float q
      | _ => .null),
    ("completion_time", .int e.nowMs), ("failure_reason", .str "")]

/-- The camera is homed, or turned by an angle in hundredths of a degree. -/
def rotateCamera (e : Surroundings) (w : Worker) (cmd : Command) (angle : Extended)
    (valHundreds timeoutMs : ℤ) : Option Handled := do
  let res ← sendPacketToMcu e timeoutMs
  let data ← res.data.setAll? (rotationFields e cmd angle)
  return ⟨{ w with currentCameraAngle := angle }, cmd, ⟨true, res.failureReason, data⟩,
    [.mcu .cameraStepper valHundreds timeoutMs]⟩

/-- The angle to turn to, before it is constrained. -/
def requestedAngle (current angle : Extended) (direction : ℤ) : Extended :=
  if direction = 1 then current.add angle
  else if direction = -1 then angle.neg
  else angle

/-- The two comparisons that constrain an angle. -/
def constrainAngle (target : Extended) : Extended :=
  let target := if target.below (-90) then .finite (-90) else target
  if target.above 90 then .finite 90 else target

/-- The angle that a command asks for, as far as the mechanism allows it. -/
def targetAngle (current angle : Extended) (direction : ℤ) : Extended :=
  constrainAngle (requestedAngle current angle direction)

/-- #134, to an angle or home.  Going home is remembered as the angle 0. -/
def handleCameraRotation (e : Surroundings) (w : Worker) (cmd : Command) : Option Handled :=
  match cmd.payload.get? "action" with
  | some (.str "home") => rotateCamera e w cmd (.finite 0) 99900 15000
  | _ => do
      let angle ← readFirst looseFloat cmd.payload ["angle", "value"] (.finite 0)
      let direction ← readFirst (looseInt e.casts 0) cmd.payload ["direction"] 0
      let target := targetAngle w.currentCameraAngle angle direction
      let valHundreds := (target.scale 100).toInt e.nanCast
      let timeoutMs ← readFirst (Json.asInt32 e.casts) cmd.payload ["timeout_ms"] 15000
      rotateCamera e w cmd target valHundreds timeoutMs

/-! ## `RadxaServices` -/

/-- A reply that is not what it should be. -/
def parseError (failureReason : String) : CommandResult :=
  ⟨false, failureReason, .obj [("error", .str "parse_error"), ("status", .str "failed")]⟩

/-- The result of a reply: an object whose status tells of success. -/
def radxaResult : Reply → CommandResult
  | .json j _ =>
      match j.value Json.asString "status" "" with
      | some status => ⟨decide (status = "success"), "", j⟩
      | none => parseError ""
  | _ => parseError ""

/-- The result of a reply about treats, where failures have a reason. -/
def treatResult : Reply → CommandResult
  | .json j _ =>
      match j.value Json.asString "status" "" with
      | some "success" => ⟨true, "", j⟩
      | some _ =>
          match j.value Json.asString "error" "unknown_dispense_error" with
          | some failureReason => ⟨false, failureReason, j⟩
          | none => parseError "parse_error"
      | none => parseError "parse_error"
  | _ => parseError "parse_error"

/-- A command for `RadxaServices` with a topic and a value. -/
def topicCommand (topic : String) (value : ℚ) : Json :=
  .obj [("topic", .str topic), ("value", .float value)]

/-- The result of a reply about treats, with the fields that are added to it. -/
def treatHandled (w : Worker) (cmd : Command) (res : CommandResult) (quantity : ℚ)
    (requests : List Request) : Option Handled := do
  let data ← res.data.setAll? [("command_id", .str cmd.commandId), ("dispenser_id", .int 1),
    ("event_time", .int cmd.eventTime)]
  let data ← data.setMissing? "treats_dispensed" (.float quantity)
  return ⟨w, cmd, { res with data }, requests⟩

/-- #85.  The quantity is passed on as `value`, with the speed. -/
def handleTreatDispense (e : Surroundings) (w : Worker) (cmd : Command) : Option Handled := do
  let quantity ← readFirst Json.asDouble cmd.payload ["treat_quantity", "value"] 1
  let speed ← readFirst (Json.asInt32 e.casts) cmd.payload ["treat_speed", "speed"] 3
  treatHandled w cmd (treatResult e.radxaReply) quantity [.radxa (.obj [("speed", .int speed),
    ("topic", .str "/commands/treat/dispense"), ("value", .float quantity)])]

/-- #91.  While privacy is enabled no photo is asked for, and the command fails. -/
def handlePhotoCapture (e : Surroundings) (w : Worker) (cmd : Command) : Option Handled :=
  if w.video.handlers.privacyModeEnabled then some ⟨w, cmd, privacyModeActive cmd, []⟩
  else do
    let res := radxaResult e.radxaReply
    let data ← res.data.setAll? [("command_id", .str cmd.commandId),
      ("event_time", .int cmd.eventTime)]
    let data ← data.setMissing? "saved" (.bool res.success)
    let data ← data.setMissing? "file_id" (.str ("IMG_" ++ cmd.commandId))
    let data ← data.setMissing? "storage_path"
      (.str ("/home/radxa/oro_base_images/ORoBase_IMG_" ++ cmd.commandId ++ ".jpg"))
    return ⟨w, cmd, { res with data }, [.radxa (topicCommand "/commands/photo_capture" 1)]⟩

/-- #88.  The session is remembered also where `RadxaServices` has refused it. -/
def handleLiveSessionStart (e : Surroundings) (w : Worker) (cmd : Command) : Option Handled := do
  let res := radxaResult e.radxaReply
  let data ← res.data.setAll? [("session_id", .str cmd.commandId),
    ("initiated_by", .str cmd.issuedBy), ("event_time", .int cmd.eventTime),
    ("command_id", .str cmd.commandId)]
  return ⟨{ w with currentSessionId := cmd.commandId }, cmd, { res with data },
    [.radxa (topicCommand "/commands/live_session/start" 1)]⟩

/-- The session that is going on, or the one that the payload names. -/
def endedSessionId (w : Worker) (cmd : Command) : Option String :=
  if w.currentSessionId ≠ "" then some w.currentSessionId
  else cmd.payload.value Json.asString "session_id" cmd.commandId

/-- #133.  The session is forgotten also where `RadxaServices` has refused to end it. -/
def handleLiveSessionEnd (e : Surroundings) (w : Worker) (cmd : Command) : Option Handled := do
  let res := radxaResult e.radxaReply
  let sessionId ← endedSessionId w cmd
  let data ← res.data.setAll? [("session_id", .str sessionId),
    ("initiated_by", .str cmd.issuedBy), ("event_time", .int cmd.eventTime),
    ("command_id", .str cmd.commandId)]
  return ⟨{ w with currentSessionId := "" }, cmd, { res with data },
    [.radxa (topicCommand "/commands/live_session/end" 1)]⟩

/-- #98.  The payload is passed on as it is. -/
def handleSettingsApply (e : Surroundings) (w : Worker) (cmd : Command) : Option Handled := do
  let res := radxaResult e.radxaReply
  let data ← res.data.setAll? [("command_id", .str cmd.commandId),
    ("event_time", .int cmd.eventTime)]
  return ⟨w, cmd, { res with data }, [.radxa cmd.payload]⟩

/-- The field of the payload, if it is there, is copied. -/
def copyField (payload : Json) (key : String) (data : Json) : Option Json :=
  match payload.get? key with
  | some inner => data.set? key inner
  | none => some data

/-- The action code for playing music, which has two keys that are not read alike. -/
def playCode (casts : FloatCasts) (payload : Json) : Option ℤ :=
  match payload.get? "action_code" with
  | some inner => looseInt casts 1 inner
  | none => readFirst (looseDouble casts 1) payload ["value"] 1

/-- The code that #138 sends; `value` is not looked at. -/
def stopCode (casts : FloatCasts) (payload : Json) : Option ℤ :=
  readFirst (looseInt casts 0) payload ["action_code"] 0

/-- The two handlers of the speakers, which differ in how the action code is read. -/
def handleSpeakers (readCode : FloatCasts → Json → Option ℤ) (e : Surroundings) (w : Worker)
    (cmd : Command) : Option Handled := do
  let actionCode ← readCode e.casts cmd.payload
  let res := radxaResult e.radxaReply
  let data ← res.data.setAll? [("command_id", .str cmd.commandId),
    ("event_time", .int cmd.eventTime), ("action_code", .int actionCode)]
  let data ← copyField cmd.payload "file_id" data
  let data ← copyField cmd.payload "storage_path" data
  return ⟨w, cmd, { res with data }, [.radxa (topicCommand "/commands/audio/speakers" actionCode)]⟩

def handlePlayMusic : Surroundings → Worker → Command → Option Handled :=
  handleSpeakers playCode

def handleStopMusic : Surroundings → Worker → Command → Option Handled :=
  handleSpeakers stopCode

/-! ## Handlers without a request -/

/-- The two handlers of lids that have been moved by hand. -/
def manualLidResult (e : Surroundings) : CommandResult :=
  ⟨true, "", .obj [("completion_time", .int e.nowMs), ("status", .str "success")]⟩

/-- #84.  Nothing is asked for: the lid has been moved by hand. -/
def handleManualLidOpen (e : Surroundings) (w : Worker) (cmd : Command) : Handled :=
  ⟨w, cmd, manualLidResult e, []⟩

def handleManualLidClose (e : Surroundings) (w : Worker) (cmd : Command) : Handled :=
  ⟨w, cmd, manualLidResult e, []⟩

/-- A command of the video handlers, which have their own state. -/
def handleVideo (e : Surroundings) (w : Worker) (cmd : Command) (result : CommandResult) :
    Handled :=
  ⟨{ w with video := step w.video (.command cmd e.nowMs) }, cmd, result, []⟩

/-- The handler of a command. -/
def runHandler (e : Surroundings) (w : Worker) (cmd : Command) : Option Handled :=
  match dispatch cmd.signalId with
  | some .manualLidOpen => some (handleManualLidOpen e w cmd)
  | some .manualLidClose => some (handleManualLidClose e w cmd)
  | some .lidActuation => handleLidActuation e w cmd
  | some .treatDispense => handleTreatDispense e w cmd
  | some .liveSessionStart => handleLiveSessionStart e w cmd
  | some .photoCapture => handlePhotoCapture e w cmd
  | some .settingsApply => handleSettingsApply e w cmd
  | some .liveSessionEnd => handleLiveSessionEnd e w cmd
  | some .cameraRotation => handleCameraRotation e w cmd
  | some .videoCapture => some (handleVideo e w cmd (handleVideoCapture w.video.handlers cmd).1)
  | some .videoCapturePan =>
      some (handleVideo e w cmd (handleVideoCapturePan w.video.handlers cmd e.nowMs).1)
  | some .playMusic => handlePlayMusic e w cmd
  | some .stopMusic => handleStopMusic e w cmd
  | some .privacyMode => some (handleVideo e w cmd (handlePrivacyMode w.video.handlers cmd).2)
  | none => some ⟨w, cmd, .failure "No handler found", []⟩

end OroEdge.Executor
