import OroEdge.Executor.Message

/-!
# The command dispatcher

`parse` reads a command from a message, `validate` decides whether it is executed, and
the `switch` of `CommandExecutor::run` picks its handler.

The registry is an array of 20 descriptors, of which 19 are written down; the last one is
initialised with zeros.

The functions are written down as they are in the source and in its order, with an exception of
the JSON library as `none` and a parse error as a result of its own, since the two take
different branches of the caller.  Nothing is proved here.  What a message must look like to be
accepted is `Admission`, which unfolds these definitions once; the pipeline and the ids of
commands use only what is proved there.

The zero-initialised descriptor is part of the array, and is found by a search for the id 0 like
any other.  Its direction and its type are the first ones of their enumerations, because these
are what a zero means.
-/

namespace OroEdge.Executor

open OroEdge.Lib

/-! ## The registry -/

/-- In the order of the enumeration: zero is `inbound`. -/
inductive SignalDirection
  | inbound
  | outbound
  deriving DecidableEq, Repr

/-- In the order of the enumeration: zero is `event`. -/
inductive ValueType
  | event
  | enum
  | numeric
  | boolean
  deriving DecidableEq, Repr

/-- A text is `none` for a null pointer. -/
structure SignalDescriptor where
  signalId : ℕ
  signalType : Option String
  direction : SignalDirection
  valueType : ValueType
  timeoutMs : ℕ
  displayName : Option String
  deriving DecidableEq, Repr

/-- A row of the registry for a command. -/
def inbound (signalId : ℕ) (signalType : String) (valueType : ValueType) (timeoutMs : ℕ)
    (displayName : String) : SignalDescriptor :=
  ⟨signalId, some signalType, .inbound, valueType, timeoutMs, some displayName⟩

def outbound (signalId : ℕ) (signalType : String) (valueType : ValueType) (timeoutMs : ℕ)
    (displayName : String) : SignalDescriptor :=
  ⟨signalId, some signalType, .outbound, valueType, timeoutMs, some displayName⟩

/-- The descriptors that are written down. -/
def writtenDescriptors : List SignalDescriptor :=
  [inbound 84 "manual_lid_open_command_event" .event 3000 "Manual Lid Open Command Event",
    inbound 85 "treat_dispense_command_event" .event 20000 "Treat Dispense Command Event",
    inbound 123 "manual_lid_close_command_event" .event 3000 "Manual Lid Close Command Event",
    inbound 64 "lid_actuation_command" .enum 3000 "Lid Actuation Command",
    outbound 65 "lid_actuation_result" .enum 0 "Lid Actuation Result",
    outbound 125 "treat_dispensed_quantity" .numeric 0 "Treat Dispensed Quantity",
    outbound 126 "treat_dispense_confirmation" .boolean 0 "Treat Dispense Confirmation",
    inbound 91 "photo_capture_command_event" .event 5000 "Photo Capture Command Event",
    outbound 93 "image_file_save_confirmation" .boolean 0 "Image File Save Confirmation",
    inbound 88 "live_session_start_event" .event 10000 "Live Session Start Event",
    inbound 133 "live_session_end_event" .event 10000 "Live Session End Event",
    inbound 98 "settings_apply_success_status" .boolean 5000 "Settings Apply Success Status",
    inbound 134 "camera_rotation_command" .numeric 5000 "Camera Rotation Command",
    inbound 135 "video_capture_command_event" .event 15000 "Video Capture Command Event",
    outbound 136 "video_file_save_confirmation" .boolean 0 "Video File Save Confirmation",
    inbound 137 "play_music_event" .event 10000 "Play Music from library",
    inbound 138 "stop_music_event" .event 10000 "Stop the current playing music",
    inbound 139 "record_video_pan_command_event" .event 30000 "Record Video Pan Command Event",
    inbound 140 "privacy_mode_command_event" .boolean 5000 "Privacy Mode Command Event"]

/-- A descriptor that is not written down. -/
def zeroDescriptor : SignalDescriptor := ⟨0, none, .inbound, .event, 0, none⟩

/-- `COMMAND_REGISTRY`. -/
def commandRegistry : List SignalDescriptor :=
  writtenDescriptors ++ List.replicate (20 - writtenDescriptors.length) zeroDescriptor

/-- The inbound ids that are written down. -/
def inboundIds : List ℕ :=
  (writtenDescriptors.filter fun d => d.direction = .inbound).map SignalDescriptor.signalId

/-! ## Parsing -/

namespace CommandDispatcher

/-- What `parse` returns for a message: `threw` is an exception other than a parse error. -/
inductive Parsed
  | rejected
  | threw
  | parsed (cmd : Command)

/-- The object that the fields of a command are read from. -/
def header? (j : Json) : Option Json :=
  if j.contains "header" then j.get? "header"
  else if j.contains "signal_id" then some j
  else none

/-- The assignment of an `int` to a `uint16_t`. -/
def toUint16 (n : ℤ) : ℕ := (n % 65536).toNat

/-- A field that has a default of its own if it is missing. -/
def fieldOr (header : Json) (key missing : String) : Option String :=
  if header.contains key then Json.value Json.asString header key "" else some missing

/-- The fields of a header; `none` is an exception. -/
def readCommand (casts : FloatCasts) (nowMs : ℤ) (j header : Json) : Option Command := do
  let signalId ← Json.value (Json.asInt32 casts) header "signal_id" 0
  let signalType ← Json.value Json.asString header "signal_type" ""
  let commandId ← fieldOr header "command_id"
    ("CMD_" ++ toString (toUint16 signalId) ++ "_" ++ toString nowMs)
  let issuedBy ← fieldOr header "issued_by" "unknown_sender"
  let eventTime ← Json.value (Json.asInt64 casts) header "event_time" 0
  let payload ← Json.value some j "payload" (.obj [])
  return ⟨toUint16 signalId, signalType, commandId, issuedBy, eventTime, payload⟩

/-- `parse` of a text that is JSON. -/
def parse (casts : FloatCasts) (nowMs : ℤ) (j : Json) : Parsed :=
  match header? j with
  | none => .rejected
  | some header =>
      match readCommand casts nowMs j header with
      | some cmd => .parsed cmd
      | none => .threw

/-! ## Validation -/

/-- 1. The first descriptor with the id is inbound. -/
def isInbound (signalId : ℕ) : Bool :=
  match commandRegistry.find? fun d => d.signalId = signalId with
  | some d => decide (d.direction = .inbound)
  | none => false

/-- `validate`, with the ids of the commands that have been accepted before. -/
def validate (activeCommandIds : List String) (cmd : Command) : Bool × List String :=
  if isInbound cmd.signalId = false then (false, activeCommandIds)
  else if cmd.commandId = "" ∨ cmd.issuedBy = "" then (false, activeCommandIds)
  else if cmd.commandId ∈ activeCommandIds then (false, activeCommandIds)
  else (true, cmd.commandId :: activeCommandIds)

end CommandDispatcher

/-! ## Dispatch -/

/-- The handlers, named as in the source. -/
inductive Handler
  | manualLidOpen
  | manualLidClose
  | lidActuation
  | treatDispense
  | liveSessionStart
  | photoCapture
  | settingsApply
  | liveSessionEnd
  | cameraRotation
  | videoCapture
  | videoCapturePan
  | playMusic
  | stopMusic
  | privacyMode
  deriving DecidableEq, Repr

/-- The `switch` of `CommandExecutor::run`; `none` is its default branch. -/
def dispatch (signalId : ℕ) : Option Handler :=
  match signalId with
  | 84 => some .manualLidOpen
  | 123 => some .manualLidClose
  | 64 => some .lidActuation
  | 85 => some .treatDispense
  | 88 => some .liveSessionStart
  | 91 => some .photoCapture
  | 98 => some .settingsApply
  | 133 => some .liveSessionEnd
  | 134 => some .cameraRotation
  | 135 => some .videoCapture
  | 139 => some .videoCapturePan
  | 137 => some .playMusic
  | 138 => some .stopMusic
  | 140 => some .privacyMode
  | _ => none

end OroEdge.Executor
