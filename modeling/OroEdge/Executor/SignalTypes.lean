import OroEdge.Executor.Admission
import OroEdge.Executor.Frame
import OroEdge.Executor.Worker

/-!
# The types of the rows

Every row that the logger writes for a command should carry the type that the registry
lists for its id (`RowsTyped`).

The rows about effects have types of their own.  The row about the command itself has the
type that the sender has put into the message, except for `#98`, and for `#139`, where the
constant is not the type of the registry.  So the property holds exactly for a message with
the right type, but not for `#139`, and for a command whose type is not used
(`rowsTyped_iff`).

The rows about effects carry constants, and comparing them with the registry is a computation
over the few branches of the logger (`typed_of_mem_logOutbound`); the row that the thread of a
treat command writes later is another constant (`typed_confirmation`).  So the property is about
one row (`rowsTyped_iff_inboundType`), and this row takes its type from the message or from a
constant that depends on the id (`inboundType_fits_iff`).

The theorem is about commands that have been accepted.  For other ids there is no row in the
registry to compare with, and the worker never sees them.
-/

namespace OroEdge.Executor

open OroEdge.Lib CommandDispatcher SignalLogger

/-! ## The property -/

/-- The type that the registry lists for an id. -/
def registryType? (signalId : ℤ) : Option String :=
  (commandRegistry.find? fun d => (d.signalId : ℤ) = signalId).bind SignalDescriptor.signalType

/-- The rows of an execution, with that of the thread that `#85` starts. -/
def writtenRows (environment : Option String) (now confirmedAt : ℕ) (x : Execution) :
    List LogRecord :=
  (log environment now x).records ++
    if x.cmd.signalId = 85 then [SignalLogger.confirmation environment now x confirmedAt] else []

/-- All rows carry the type that belongs to their id. -/
def RowsTyped (environment : Option String) (now : ℕ) (x : Execution) : Prop :=
  ∀ confirmedAt, ∀ row ∈ writtenRows environment now confirmedAt x,
    registryType? row.signalId = some row.signalType

/-- The type in the message is not used, or is the one of the registry. -/
def TypeFits (cmd : Command) : Prop :=
  cmd.signalId ∈ [0, 98, 140] ∨
    (cmd.signalId ≠ 139 ∧ registryType? cmd.signalId = some cmd.signalType)

/-! ## The rows -/

section

variable {environment : Option String} {now : ℕ} {x : Execution}

/-- The rows about effects have types of their own. -/
theorem typed_of_mem_logOutbound {row : LogRecord}
    (hrow : row ∈ (logOutbound environment now x).records) :
    registryType? row.signalId = some row.signalType := by
  obtain ⟨-, ⟨-, rfl⟩ | ⟨-, rfl⟩ | ⟨-, rfl⟩⟩ := mem_logOutbound.mp hrow
  · show registryType? 65 = some "lid_actuation_result"
    decide
  · show registryType? 125 = some "treat_dispensed_quantity"
    decide
  · show registryType? 93 = some "image_file_save_confirmation"
    decide

theorem typed_confirmation (confirmedAt : ℕ) :
    registryType? (SignalLogger.confirmation environment now x confirmedAt).signalId =
      some (SignalLogger.confirmation environment now x confirmedAt).signalType := by
  show registryType? 126 = some "treat_dispense_confirmation"
  decide

/-- What the row about the command itself needs. -/
theorem rowsTyped_iff_inboundType (hthrew : (log environment now x).threw = false) :
    RowsTyped environment now x ↔ (x.cmd.signalId ∈ loggedIds →
      registryType? x.cmd.signalId = some (inboundType x.cmd)) := by
  obtain ⟨hrecords, hinbound, -⟩ := records_of_threw_eq_false hthrew
  unfold RowsTyped writtenRows
  rw [hrecords]
  constructor
  · intro htyped hlogged
    obtain ⟨row, hrow, hid, htype⟩ := exists_logInbound hlogged hinbound
    rw [← hid, ← htype]
    exact htyped 0 row (List.mem_append_left _ (List.mem_append_left _ hrow))
  · intro hfits confirmedAt row hrow
    rcases List.mem_append.mp hrow with hrow | hrow
    · rcases List.mem_append.mp hrow with hrow | hrow
      · obtain ⟨hlogged, hid, htype⟩ := mem_logInbound hrow
        rw [hid, htype]
        exact hfits hlogged
      · exact typed_of_mem_logOutbound hrow
    · split_ifs at hrow
      · rw [List.mem_singleton.mp hrow]
        exact typed_confirmation confirmedAt
      · cases hrow

end

/-- For an accepted id, the constants are those of the registry, but for `#139`. -/
theorem inboundType_fits_iff {cmd : Command} (hid : cmd.signalId ∈ 0 :: inboundIds) :
    (cmd.signalId ∈ loggedIds → registryType? cmd.signalId = some (inboundType cmd)) ↔
      TypeFits cmd := by
  unfold TypeFits inboundType
  have hlogged : ∀ n ∈ 0 :: inboundIds, n ∉ [0, 98, 140] → n ∈ loggedIds ∧ n ≠ 136 := by decide
  by_cases hunused : cmd.signalId ∈ [0, 98, 140]
  · refine iff_of_true (fun hmem => ?_) (Or.inl hunused)
    have h98 : ∀ n ∈ [0, 98, 140], n ∈ loggedIds → n = 98 := by decide
    have h98 := h98 _ hunused hmem
    rw [h98, if_pos rfl]
    decide
  · obtain ⟨hmem, h136⟩ := hlogged _ hid hunused
    have h98 : cmd.signalId ≠ 98 := by
      rintro h98
      exact hunused (by rw [h98]; decide)
    rw [if_neg h98, if_neg h136]
    by_cases h139 : cmd.signalId = 139
    · rw [if_pos h139]
      refine iff_of_false (fun hfits => ?_) ?_
      · have hwrong := hfits hmem
        rw [h139] at hwrong
        exact absurd hwrong (by decide)
      · rintro (hin | ⟨hne, -⟩)
        · exact hunused hin
        · exact hne h139
    · rw [if_neg h139]
      constructor
      · exact fun hfits => Or.inr ⟨h139, hfits hmem⟩
      · rintro (hin | ⟨-, hfits⟩) -
        · exact absurd hin hunused
        · exact hfits

/-! ## Main theorem -/

theorem rowsTyped_iff_of_mem {e : Surroundings} {w : Worker} {cmd : Command} {h : Handled}
    (hid : cmd.signalId ∈ 0 :: inboundIds) (hrun : runHandler e w cmd = some h)
    {environment : Option String}
    (hthrew : (log environment e.nowMs h.execution).threw = false) :
    RowsTyped environment e.nowMs h.execution ↔ TypeFits cmd := by
  obtain ⟨payload, hcmd⟩ := exists_payload_of_runHandler hrun
  have hcmd : h.execution.cmd = { cmd with payload } := hcmd
  rw [rowsTyped_iff_inboundType hthrew, hcmd]
  exact inboundType_fits_iff hid

/-- **Types of the rows, exactly.**  The rows of an accepted command that is executed without an
exception carry the types of the registry if and only if the type in the message is not used,
or is that of the registry and the id is not 139. -/
theorem rowsTyped_iff (activeCommandIds : List String) (e : Surroundings) (w : Worker)
    (cmd : Command) (haccepted : (validate activeCommandIds cmd).1 = true) (h : Handled)
    (hrun : runHandler e w cmd = some h)
    (hthrew : (log h.worker.video.handlers.environment e.nowMs h.execution).threw = false) :
    RowsTyped h.worker.video.handlers.environment e.nowMs h.execution ↔ TypeFits cmd :=
  rowsTyped_iff_of_mem ((validate_iff activeCommandIds cmd).mp haccepted).1 hrun hthrew

/-! ### A turn of the camera -/

/-- A message that turns the camera by 3 degrees, with a type. -/
def turnMessage (signalType : String) : Json :=
  .obj [("header", .obj [("command_id", .str "cmd-1"), ("issued_by", .str "owner"),
      ("signal_id", .int 134), ("signal_type", .str signalType)]),
    ("payload", .obj [("angle", .int 3)])]

/-- The command that is read from it. -/
def turnCommand (signalType : String) : Command :=
  ⟨134, signalType, "cmd-1", "owner", 0, .obj [("angle", .int 3)]⟩

/-- The MCU replies with a text. -/
def turned : Surroundings := ⟨0, .reply (.text "OK"), .text "", .saturating, 0⟩

/-- The command is executed without an exception. -/
theorem exists_turned (signalType : String) : ∃ h,
    runHandler turned (.construct none) (turnCommand signalType) = some h ∧
      (log h.worker.video.handlers.environment 0 h.execution).threw = false ∧
      (log h.worker.video.handlers.environment 0 h.execution).records.map
        (fun row => (row.signalType, row.numericVal)) = [(signalType, some 3)] :=
  ⟨_, rfl, rfl, rfl⟩

theorem rowsTyped_turn : ∃ h,
    runHandler turned (.construct none) (turnCommand "camera_rotation_command") = some h ∧
      RowsTyped h.worker.video.handlers.environment 0 h.execution := by
  obtain ⟨h, hrun, hthrew, -⟩ := exists_turned "camera_rotation_command"
  exact ⟨h, hrun, (rowsTyped_iff [] turned (.construct none) _ (by decide) h hrun hthrew).mpr
    (Or.inr ⟨by decide, by decide⟩)⟩

/-- **Failing input.**  A turn of the camera by 3 degrees is logged as a battery level of 3. -/
theorem not_rowsTyped_batteryLevel :
    (∀ casts, parse casts 0 (turnMessage "battery_level") =
        .parsed (turnCommand "battery_level")) ∧
      (validate [] (turnCommand "battery_level")).1 = true ∧
      ∃ h, runHandler turned (.construct none) (turnCommand "battery_level") = some h ∧
        (log h.worker.video.handlers.environment 0 h.execution).records.map
          (fun row => (row.signalType, row.numericVal)) = [("battery_level", some 3)] ∧
        ¬ RowsTyped h.worker.video.handlers.environment 0 h.execution := by
  obtain ⟨h, hrun, hthrew, hrecords⟩ := exists_turned "battery_level"
  refine ⟨fun _ => rfl, by decide, h, hrun, hrecords, fun htyped => ?_⟩
  have hid : (turnCommand "battery_level").signalId ∈ 0 :: inboundIds := by decide
  have hfits := (rowsTyped_iff_of_mem hid hrun hthrew).mp htyped
  rcases hfits with hunused | ⟨-, hregistry⟩
  · exact absurd hunused (by decide)
  · exact absurd hregistry (by decide)

end OroEdge.Executor
