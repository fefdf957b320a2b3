import OroEdge.Executor.Message
import OroEdge.Lib.Numeral

/-!
# The status subscriber

`StatusSubscriber::handle_message` follows the two lids and their motors, and emits a
command for a lid that has been moved by hand: `#84` if it went from closed to open, and
`#123` if it went from open to closed, in both cases over a transition.

The members of the two lids have the same names but for their number; `LidTracker` holds
those of one lid.  `motorRunning`, `systemActuating` and `state` are written only.

A message changes one tracker and emits at most one command, which the theorems use in the form
of `handleMessage_snd_eq_some_iff`: a command is emitted exactly if the message is a report that
completes a manual move of a lid, and the last event of that lid is a second ago (`Emits`).  The
clock of the debounce is the steady one and that of the command the system one, so a message
comes with both.

A payload shorter than the byte that is read is ignored, as in the source.  A state is read as a
byte and as a float; both are fields of the message, as nothing ties the one to the other.
-/

namespace OroEdge.Executor

open OroEdge.Lib

inductive Lid
  | lid1
  | lid2
  deriving DecidableEq, Repr

namespace Lid

def id : Lid → ℕ
  | lid1 => 1
  | lid2 => 2

/-- Where the state of a lid is published. -/
def topic : Lid → String
  | lid1 => "/status/lid/1"
  | lid2 => "/status/lid/2"

/-- Where the state of the motor of a lid is published. -/
def motorTopic : Lid → String
  | lid1 => "/status/lid_motor/1"
  | lid2 => "/status/lid_motor/2"

end Lid

/-- A message of the bus: the size of its payload, byte 10, and the bytes 10 to 13 as a
`float`. -/
structure StatusMessage where
  topic : String
  size : ℕ
  state : ℕ
  value : Extended
  deriving DecidableEq, Repr

/-- The steady clock in nanoseconds, and the system clock in milliseconds. -/
structure Clocks where
  steadyNs : ℤ
  nowMs : ℤ
  deriving DecidableEq, Repr

/-- A stable state is 0 for closed, 1 for open and -1 for unknown. -/
structure LidTracker where
  state : Extended
  lastStableState : ℚ
  motorRunning : Bool
  systemActuating : Bool
  manualTransition : Bool
  lastEventTime : ℤ
  deriving DecidableEq, Repr

/-- Nothing is known of the lid. -/
def LidTracker.initial : LidTracker := ⟨.finite (-1), -1, false, false, false, 0⟩

/-- One tracker for each lid. -/
structure StatusSubscriber where
  lid1 : LidTracker
  lid2 : LidTracker
  deriving DecidableEq, Repr

namespace StatusSubscriber

/-- Nothing is known of the lids. -/
def initial : StatusSubscriber := ⟨.initial, .initial⟩

def tracker (s : StatusSubscriber) : Lid → LidTracker
  | .lid1 => s.lid1
  | .lid2 => s.lid2

def setTracker (s : StatusSubscriber) (t : LidTracker) : Lid → StatusSubscriber
  | .lid1 => { s with lid1 := t }
  | .lid2 => { s with lid2 := t }

@[simp] theorem tracker_setTracker_self (s : StatusSubscriber) (t : LidTracker) (lid : Lid) :
    (s.setTracker t lid).tracker lid = t := by
  cases lid <;> rfl

theorem tracker_setTracker_of_ne (s : StatusSubscriber) (t : LidTracker) {lid other : Lid}
    (hne : other ≠ lid) : (s.setTracker t lid).tracker other = s.tracker other := by
  cases lid <;> cases other <;> first | rfl | exact absurd rfl hne

end StatusSubscriber

/-! ## Emitting an event -/

/-- Less than a second has passed since the last event of the lid. -/
def debounced (clocks : Clocks) (lastEventTime : ℤ) : Bool :=
  decide (0 < lastEventTime) && decide ((clocks.steadyNs - lastEventTime).tdiv 1000000 < 1000)

/-- The command of a manual event. -/
def manualCommand (nowMs : ℤ) (lid : Lid) (signalId : ℕ) : Command where
  signalId := signalId
  signalType :=
    if signalId = 84 then "manual_lid_open_command_event" else "manual_lid_close_command_event"
  commandId := "hw_evt_" ++ toString signalId ++ "_" ++ toString nowMs
  issuedBy := "status_subscriber"
  eventTime := nowMs
  payload := .obj [("action", .int (if signalId = 84 then 1 else 0)), ("lid_id", .int lid.id)]

/-- `emit_manual_event`: the time of the last event, and the command that is pushed. -/
def emitManualEvent (clocks : Clocks) (lid : Lid) (signalId : ℕ) (lastEventTime : ℤ) :
    ℤ × Option Command :=
  if debounced clocks lastEventTime then (lastEventTime, none)
  else (clocks.steadyNs, some (manualCommand clocks.nowMs lid signalId))

/-! ## Handling a message -/

/-- The state of a motor. -/
def LidTracker.motor (t : LidTracker) (state : ℕ) : LidTracker :=
  if state ≠ 0 then
    { t with motorRunning := true, manualTransition := false, systemActuating := true }
  else { t with motorRunning := false }

/-- The signal of the manual move that a report completes. -/
def LidTracker.moved (t : LidTracker) (value : Extended) : Option ℕ :=
  if value = .finite 1 ∧ t.manualTransition = true ∧ t.lastStableState = 0 then some 84
  else if value = .finite 0 ∧ t.manualTransition = true ∧ t.lastStableState = 1 then some 123
  else none

/-- The flags after a report: a transition arms the trigger, a stable state disarms it. -/
def LidTracker.reported (t : LidTracker) (value : Extended) : LidTracker :=
  if value = .finite 3 then { t with state := value, manualTransition := true }
  else if value = .finite 1 then
    { t with state := value, lastStableState := 1, manualTransition := false }
  else if value = .finite 0 then
    { t with state := value, lastStableState := 0, manualTransition := false }
  else { t with state := value }

/-- A report of a lid. -/
def LidTracker.report (t : LidTracker) (clocks : Clocks) (lid : Lid) (value : Extended) :
    LidTracker × Option Command :=
  match t.moved value with
  | some signalId =>
      let (lastEventTime, cmd) := emitManualEvent clocks lid signalId t.lastEventTime
      ({ t.reported value with lastEventTime }, cmd)
  | none => (t.reported value, none)

namespace StatusSubscriber

/-- The lid and the motor that a topic is about. -/
inductive Source
  | motor (lid : Lid)
  | lid (lid : Lid)
  deriving DecidableEq, Repr

/-- Other topics are ignored. -/
def source? (topic : String) : Option Source :=
  if topic = Lid.motorTopic .lid1 then some (.motor .lid1)
  else if topic = Lid.motorTopic .lid2 then some (.motor .lid2)
  else if topic = Lid.topic .lid1 then some (.lid .lid1)
  else if topic = Lid.topic .lid2 then some (.lid .lid2)
  else none

/-- `handle_message`: the state after it, and the command that is pushed. -/
def handleMessage (clocks : Clocks) (s : StatusSubscriber) (m : StatusMessage) :
    StatusSubscriber × Option Command :=
  match source? m.topic with
  | some (.motor lid) =>
      -- sizeof(DigitalPayload)
      if m.size ≠ 11 then (s, none)
      else (s.setTracker ((s.tracker lid).motor m.state) lid, none)
  | some (.lid lid) =>
      -- sizeof(AnalogPayload)
      if m.size ≠ 14 then (s, none)
      else
        let (t, cmd) := (s.tracker lid).report clocks lid m.value
        (s.setTracker t lid, cmd)
  | none => (s, none)

/-! ## What is emitted -/

/-- The message completes a manual move of the lid, and is not debounced. -/
def Emits (clocks : Clocks) (s : StatusSubscriber) (m : StatusMessage) (lid : Lid)
    (signalId : ℕ) : Prop :=
  source? m.topic = some (.lid lid) ∧ m.size = 14 ∧ (s.tracker lid).moved m.value = some signalId ∧
    debounced clocks (s.tracker lid).lastEventTime = false

instance (clocks : Clocks) (s : StatusSubscriber) (m : StatusMessage) (lid : Lid)
    (signalId : ℕ) : Decidable (Emits clocks s m lid signalId) :=
  inferInstanceAs (Decidable (_ ∧ _ ∧ _ ∧ _))

theorem report_snd_eq_some_iff {t : LidTracker} {clocks : Clocks} {lid : Lid} {value : Extended}
    {cmd : Command} :
    (t.report clocks lid value).2 = some cmd ↔ ∃ signalId, t.moved value = some signalId ∧
      debounced clocks t.lastEventTime = false ∧ cmd = manualCommand clocks.nowMs lid signalId := by
  unfold LidTracker.report emitManualEvent
  cases hmoved : t.moved value with
  | none => simp
  | some signalId => cases debounced clocks t.lastEventTime <;> simp [eq_comm]

theorem handleMessage_snd_eq_some_iff {clocks : Clocks} {s : StatusSubscriber} {m : StatusMessage}
    {cmd : Command} :
    (s.handleMessage clocks m).2 = some cmd ↔ ∃ lid signalId, Emits clocks s m lid signalId ∧
      cmd = manualCommand clocks.nowMs lid signalId := by
  unfold handleMessage Emits
  cases source? m.topic with
  | none => simp
  | some source =>
      cases source with
      | motor lid => by_cases hsize : m.size = 11 <;> simp [hsize]
      | lid lid =>
          by_cases hsize : m.size = 14
          · simp [hsize, report_snd_eq_some_iff, and_assoc]
          · simp [hsize]

end StatusSubscriber

end OroEdge.Executor
