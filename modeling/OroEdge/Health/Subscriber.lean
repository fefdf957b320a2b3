import OroEdge.Health.SettingsMetadata
import OroEdge.Lib.Multipart
import OroEdge.Sensors.Subscribers

/-!
# The subscriber of the health node

`ZmqSubscriber` polls three sockets and hands what it receives to the monitor, while the main
loop of the node calls `tick`.  Both take the mutex of the monitor for a call, so the node makes
one call after the other.  A socket that has something is read for one round of
`receive_and_dispatch`; in which order the sockets are read is left open.

Other than the loops of `OroEdge.Sensors`, this one asks whether a second frame belongs to the
message.  It never takes a topic and a payload from different messages, and of messages of two
frames it drops none and doubles none (`received_after`).

The text of an applied setting is parsed by a library, and a reading of the battery is a `float`,
so `parse` and `level` stand for what their bytes denote.  The level is a finite one.

The sockets are an instance of the library's, one for each endpoint, and `Separate` says that
they are read apart: what a socket has let through is what has been published to it and
admitted, less what still waits.  An action moves one socket, so the invariant is preserved by
cases on the action and by the library's lemma for that socket (`Separate.step`).  The calls of
the monitor are then those of the messages that have been read, whatever the order of the
rounds.
-/

namespace OroEdge.Health

open OroEdge.Lib OroEdge.Sensors

/-! ## The wire -/

/-- The ten bytes that every payload begins with. -/
structure MsgHeader where
  sensorId : ℕ
  seqNum : ℕ
  timestampMs : ℕ
  deriving DecidableEq, Repr

/-- The bytes of a `float` follow the header. -/
structure AnalogPayload where
  header : MsgHeader
  value : Frame
  deriving DecidableEq, Repr

/-- A byte follows the header. -/
structure DigitalPayload where
  header : MsgHeader
  state : ℕ
  deriving DecidableEq, Repr

/-- The byte at an index. -/
def byteAt (data : Frame) (index : ℕ) : ℕ := (data.getD index 0).toNat

/-- The fields of a header, little-endian. -/
def MsgHeader.read (data : Frame) : MsgHeader :=
  ⟨byteAt data 0, byteAt data 1, uint64Of ((data.drop 2).take 8)⟩

/-- `memcpy`, if there are enough bytes. -/
def AnalogPayload.read (data : Frame) : Option AnalogPayload :=
  if 14 ≤ data.length then some ⟨.read data, (data.drop 10).take 4⟩ else none

/-- A payload that is too short is ignored. -/
def DigitalPayload.read (data : Frame) : Option DigitalPayload :=
  if 11 ≤ data.length then some ⟨.read data, byteAt data 10⟩ else none

/-! ## Dispatch -/

/-- The byte is promoted to an `int`. -/
def powerStatus (state : ℕ) : String :=
  if (state : ℤ) = -1 then "off"
  else if state = 0 then "on_mains"
  else if state = 1 then "on_battery"
  else "unknown"

/-- The word for a state of the connection. -/
def connectivityStatus (state : ℕ) : String :=
  if state = 0 then "disconnected"
  else if state = 1 then "local_only"
  else if state = 2 then "connected"
  else "unknown"

/-- The word for a state of the pump. -/
def pumpStatus (state : ℕ) : String := if state = 1 then "running" else "idle"

def heartbeatTopic : Frame := bytes "/system/device/heartbeat"

def batteryTopic : Frame := bytes "/system/power/battery_level"

def powerTopic : Frame := bytes "/system/power/switch"

def connectivityTopic : Frame := bytes "/system/connectivity/state"

def pumpTopic : Frame := bytes "/status/water_pump"

def settingsTopic : Frame := bytes "/status/settings/apply"

def bowlTopic : Frame := bytes "/sensors/water_level/bowl"

section

variable (parse : Frame → Option Json) (level : Frame → ℚ)

/-- `sysInfo` is what `get_system_network_info` finds. -/
def dispatchTopic (sysInfo : HealthMonitor.NetworkInfo) (now : ℕ) (topic data : Frame) :
    List WholeCall :=
  if topic = heartbeatTopic then
    (DigitalPayload.read data).toList.map fun payload =>
      .change (.base (.deviceHeartbeat payload.header.seqNum now))
  else if topic = batteryTopic then
    (AnalogPayload.read data).toList.map fun payload =>
      .change (.base (.batteryLevel (level payload.value) "default" "unknown" now))
  else if topic = powerTopic then
    (DigitalPayload.read data).toList.map fun payload =>
      .change (.base (.powerSupplyStatus (powerStatus payload.state) "mains" "normal"))
  else if topic = connectivityTopic then
    (DigitalPayload.read data).toList.map fun payload =>
      .change (.base (.connectivityStatus (connectivityStatus payload.state) sysInfo now))
  else if topic = pumpTopic then
    (DigitalPayload.read data).toList.map fun payload =>
      .change (.base (.waterPumpState (pumpStatus payload.state) now))
  else if topic = settingsTopic then
    ((parse data).bind fun j => dispatchSettingsApply j now).toList
  else if topic = bowlTopic then
    (DigitalPayload.read data).toList.map fun payload =>
      .change (.base (.bowlWaterLevel payload.state))
  else []

end

/-- The calls that `dispatch_topic` makes. -/
inductive BusCall : WholeCall → Prop
  | heartbeat (seqNum now : ℕ) : BusCall (.change (.base (.deviceHeartbeat seqNum now)))
  | battery (level : ℚ) (now : ℕ) :
      BusCall (.change (.base (.batteryLevel level "default" "unknown" now)))
  | power (state : ℕ) :
      BusCall (.change (.base (.powerSupplyStatus (powerStatus state) "mains" "normal")))
  | connectivity (state : ℕ) (sysInfo : HealthMonitor.NetworkInfo) (now : ℕ) :
      BusCall (.change (.base (.connectivityStatus (connectivityStatus state) sysInfo now)))
  | pump (state now : ℕ) : BusCall (.change (.base (.waterPumpState (pumpStatus state) now)))
  | bowl (state : ℤ) : BusCall (.change (.base (.bowlWaterLevel state)))
  | settings (profileId : String) (success : Bool) (failureReason : String) (now : ℕ) :
      BusCall (.settingsApplyStatus profileId success failureReason now)

theorem busCall_of_mem_dispatchTopic {parse : Frame → Option Json} {level : Frame → ℚ}
    {sysInfo : HealthMonitor.NetworkInfo} {now : ℕ} {topic data : Frame} {call : WholeCall}
    (hcall : call ∈ dispatchTopic parse level sysInfo now topic data) : BusCall call := by
  unfold dispatchTopic at hcall
  split_ifs at hcall
  · obtain ⟨payload, -, rfl⟩ := List.mem_map.mp hcall
    exact .heartbeat _ now
  · obtain ⟨payload, -, rfl⟩ := List.mem_map.mp hcall
    exact .battery _ now
  · obtain ⟨payload, -, rfl⟩ := List.mem_map.mp hcall
    exact .power _
  · obtain ⟨payload, -, rfl⟩ := List.mem_map.mp hcall
    exact .connectivity _ sysInfo now
  · obtain ⟨payload, -, rfl⟩ := List.mem_map.mp hcall
    exact .pump _ now
  · obtain ⟨j, -, hsettings⟩ := Option.bind_eq_some_iff.mp (Option.mem_toList.mp hcall)
    obtain ⟨profileId, -, hstatus⟩ := Option.bind_eq_some_iff.mp hsettings
    obtain ⟨status, -, hreason⟩ := Option.bind_eq_some_iff.mp hstatus
    obtain ⟨reason, -, hreturn⟩ := Option.bind_eq_some_iff.mp hreason
    rw [← Option.some.inj hreturn]
    exact .settings _ _ _ now
  · obtain ⟨payload, -, rfl⟩ := List.mem_map.mp hcall
    exact .bowl _
  · cases hcall

/-! ## The sockets -/

/-- The three sockets. -/
inductive Endpoint
  | sensor
  | system
  | status
  deriving DecidableEq, Repr

/-- What each socket subscribes to. -/
def Endpoint.subscriptions : Endpoint → List Frame
  | .sensor => [bytes "/sensors/camera", bowlTopic]
  | .system => [heartbeatTopic, batteryTopic, powerTopic, connectivityTopic]
  | .status => [pumpTopic, settingsTopic]

/-- The socket lets the message through. -/
def Endpoint.admits (endpoint : Endpoint) : List Frame → Bool
  | [] => false
  | topic :: _ => endpoint.subscriptions.any fun subscription => subscription.isPrefixOf topic

/-! ## The node -/

/-- What the node writes at its start, with the time of it. -/
def bootCalls (boot : ℕ) : List WholeCall :=
  [.change (.base (.timeoutConfig 15 "default" "boot_default" boot)),
    .change (.base (.batteryLowConfig 20 "default" "boot_default" boot))]

/-- The sockets, and the monitor with what it has handed over. -/
structure HealthNode where
  sockets : Endpoint → Multipart.Reader Frame
  node : WholeNode

/-- `main` up to its loop; the monitor is constructed at `start`. -/
def HealthNode.boot (start boot : ℕ) : HealthNode where
  sockets _ := .empty
  node := run wholeStep (.construct start) (bootCalls boot)

/-- What happens at the sockets and in the main loop. -/
inductive NodeAction
  /-- a message comes in at a socket -/
  | publish (endpoint : Endpoint) (message : List Frame)
  /-- a round of `receive_and_dispatch` -/
  | receive (endpoint : Endpoint) (sysInfo : HealthMonitor.NetworkInfo) (now : ℕ)
  /-- a round of the main loop -/
  | tick (sysInfo : HealthMonitor.NetworkInfo) (now : ℕ)
  deriving DecidableEq

def HealthNode.setSocket (s : HealthNode) (endpoint : Endpoint) (r : Multipart.Reader Frame) :
    HealthNode :=
  { s with sockets := Function.update s.sockets endpoint r }

/-- The calls of an action. -/
def NodeAction.calls (parse : Frame → Option Json) (level : Frame → ℚ) (s : HealthNode) :
    NodeAction → List WholeCall
  | .publish _ _ => []
  | .receive endpoint sysInfo now =>
      (Multipart.receive (s.sockets endpoint).queue).1.toList.flatMap fun frames =>
        dispatchTopic parse level sysInfo now frames.1 frames.2
  | .tick sysInfo now => [.change (.base (.tick sysInfo now))]

/-- What an action does to the sockets. -/
def HealthNode.moveSockets (s : HealthNode) : NodeAction → HealthNode
  | .publish endpoint message =>
      if endpoint.admits message then
        s.setSocket endpoint ((s.sockets endpoint).arrive message)
      else s
  | .receive endpoint _ _ => s.setSocket endpoint (s.sockets endpoint).read
  | .tick _ _ => s

/-- The sockets move, and the calls that follow from it are made. -/
def nodeStep (parse : Frame → Option Json) (level : Frame → ℚ) (s : HealthNode)
    (action : NodeAction) : HealthNode :=
  { s.moveSockets action with node := run wholeStep s.node (action.calls parse level s) }

/-- The node after the actions. -/
def HealthNode.after (parse : Frame → Option Json) (level : Frame → ℚ) (start boot : ℕ)
    (actions : List NodeAction) : HealthNode :=
  run (nodeStep parse level) (.boot start boot) actions

/-! ## Messages are kept apart -/

/-- The messages that a socket has let through. -/
def admitted (endpoint : Endpoint) (actions : List NodeAction) : List (List Frame) :=
  actions.flatMap fun action =>
    match action with
    | .publish other message =>
        if other = endpoint ∧ endpoint.admits message = true then [message] else []
    | _ => []

section

variable {parse : Frame → Option Json} {level : Frame → ℚ} {s : HealthNode}

/-- The sockets are read apart, and have let through what was published. -/
structure Separate (s : HealthNode) (actions : List NodeAction) : Prop where
  apart : ∀ endpoint, (s.sockets endpoint).Apart
  arrived : ∀ endpoint, (s.sockets endpoint).arrived = admitted endpoint actions

theorem Separate.step {earlier : List NodeAction} (hs : Separate s earlier)
    (action : NodeAction) : Separate (nodeStep parse level s action) (earlier ++ [action]) := by
  have hadmitted (endpoint : Endpoint) : admitted endpoint (earlier ++ [action]) =
      (s.sockets endpoint).arrived ++ admitted endpoint [action] := by
    rw [hs.arrived, admitted, admitted, admitted, List.flatMap_append]
  cases action with
  | publish endpoint message =>
      simp only [nodeStep, HealthNode.moveSockets]
      split
      · rename_i hadmits
        constructor
        · intro other
          by_cases hsame : other = endpoint
          · subst hsame
            simpa only [HealthNode.setSocket, Function.update_self] using
              (hs.apart other).arrive message
          · simpa only [HealthNode.setSocket, Function.update_of_ne hsame] using hs.apart other
        · intro other
          rw [hadmitted]
          by_cases hsame : other = endpoint
          · subst hsame
            simp [HealthNode.setSocket, Multipart.Reader.arrive, admitted, hadmits]
          · simp [HealthNode.setSocket, admitted, hsame, Ne.symm hsame]
      · rename_i hdropped
        refine ⟨hs.apart, fun other => ?_⟩
        rw [hadmitted]
        have hnone : ¬(endpoint = other ∧ other.admits message = true) := by
          rintro ⟨rfl, hadmits⟩
          exact hdropped hadmits
        simp [admitted, hnone]
  | receive endpoint sysInfo now =>
      constructor
      · intro other
        by_cases hsame : other = endpoint
        · subst hsame
          simpa only [nodeStep, HealthNode.moveSockets, HealthNode.setSocket,
            Function.update_self] using (hs.apart other).read
        · simpa only [nodeStep, HealthNode.moveSockets, HealthNode.setSocket,
            Function.update_of_ne hsame] using hs.apart other
      · intro other
        rw [hadmitted]
        by_cases hsame : other = endpoint
        · subst hsame
          simp [nodeStep, HealthNode.moveSockets, HealthNode.setSocket, Multipart.Reader.read,
            admitted]
        · simp [nodeStep, HealthNode.moveSockets, HealthNode.setSocket, admitted, hsame]
  | tick sysInfo now =>
      refine ⟨hs.apart, fun other => ?_⟩
      rw [hadmitted]
      simp [admitted, nodeStep, HealthNode.moveSockets]

variable (parse level) in
theorem separate_after (start boot : ℕ) (actions : List NodeAction) :
    Separate (HealthNode.after parse level start boot actions) actions := by
  induction actions using List.reverseRecOn with
  | nil => exact ⟨fun _ => Multipart.Reader.apart_empty, fun _ => rfl⟩
  | append_singleton earlier action ih =>
      rw [HealthNode.after, run_append]
      exact ih.step action

end

/-- **Messages are kept apart**, whatever is published, however malformed, and however the rounds
of the sockets and of the main loop are interleaved.  What has been dispatched from a socket are
pairs of frames of one message each, of all messages in the order in which they came, and once
the socket is drained none is missing. -/
theorem received_after (parse : Frame → Option Json) (level : Frame → ℚ) (start boot : ℕ)
    (actions : List NodeAction) (endpoint : Endpoint) :
    let socket := (HealthNode.after parse level start boot actions).sockets endpoint
    socket.received <+: (admitted endpoint actions).flatMap Multipart.pairs ∧
      (socket.queue = [] →
        socket.received = (admitted endpoint actions).flatMap Multipart.pairs) := by
  have hs := separate_after parse level start boot actions
  rw [← hs.arrived endpoint]
  exact ⟨(hs.apart endpoint).prefix_pairs, (hs.apart endpoint).received_eq⟩

end OroEdge.Health
