import OroEdge.Executor.Message
import OroEdge.Storage.Timestamp
import OroEdge.Tables

/-!
# The signal logger

After a command has been executed, `SignalLogger::log` writes a row about the command
itself, and rows about its effects.  A row is written at once, so those before an
exception stay (`Logged`).

The insert does not name the column `signal_id`; the number of a signal goes into the
metadata only.

The two halves of `log` are definitions of their own, joined by `Logged.andThen`, because an
exception of the first keeps the second from running while the rows before it stay.  An
insertion cannot fail here: that the database is away is the business of the storage library,
and what the logger hands to it is the same in both cases.

`mem_log` is what the other modules use: a row is about the command itself, and then it has the
sender's type and the command's time, or it is about an effect, and then it has one of the
constants.  The treats of a `#85` command have a sharper statement of their own
(`mem_log_treat_iff`), as the daily summary counts them.
-/

namespace OroEdge.Executor

open OroEdge.Lib OroEdge.Storage

/-- A command when it is logged. -/
structure Execution where
  cmd : Command
  completed : Bool
  result : Json
  deriving Repr

/-- The arguments of `insert_signal` that reach a column. -/
structure LogRecord where
  signalId : ℤ
  deviceId : String
  dogId : Option String
  signalType : String
  numericVal : Option ℚ
  textVal : Option String
  boolVal : Option Bool
  unit : String
  observedAt : ℕ
  source : String
  deriving DecidableEq, Repr

/-- The row of `insert_signal`. -/
def insertSignal (record : LogRecord) : Signal where
  deviceId := record.deviceId
  signalId := none
  signalType := record.signalType
  valueNumeric := record.numericVal
  valueText := record.textVal
  valueBoolean := record.boolVal
  observedAt := unixMsToMicros record.observedAt

/-- What has been written, and whether an exception ended it. -/
structure Logged where
  records : List LogRecord
  threw : Bool
  deriving DecidableEq, Repr

/-- The second part is not reached if the first one throws. -/
def Logged.andThen (first second : Logged) : Logged :=
  if first.threw then first else ⟨first.records ++ second.records, second.threw⟩

namespace SignalLogger

/-- Seconds, milliseconds, or the present time `now`, as milliseconds. -/
def normalizedEpochMs (now : ℕ) (eventTime : ℤ) : ℕ :=
  if eventTime ≤ 0 then now
  else if 100000000000 < eventTime then eventTime.toNat
  else eventTime.toNat * 1000

/-- A number of an object, if it has this key. -/
def optionalNumeric (j : Json) (key : String) : Option ℚ :=
  match j.get? key with
  | some (.float q) => some q
  | some (.int n) => some n
  | _ => none

def optionalBool (j : Json) (key : String) : Option Bool :=
  match j.get? key with
  | some (.bool b) => some b
  | _ => none

def optionalText (j : Json) (key : String) : Option String :=
  match j.get? key with
  | some (.str s) => some s
  | _ => none

section

variable (environment : Option String) (now : ℕ) (e : Execution)

/-- A row about the execution. -/
def record (signalId : ℤ) (signalType : String) (numericVal : Option ℚ) (textVal : Option String)
    (boolVal : Option Bool) (unit source : String) : LogRecord where
  signalId := signalId
  deviceId := resolveDeviceId environment e.cmd
  dogId := resolveDogId e.cmd
  signalType := signalType
  numericVal := numericVal
  textVal := textVal
  boolVal := boolVal
  unit := unit
  observedAt := normalizedEpochMs now e.cmd.eventTime
  source := source

/-- The ids that are logged themselves. -/
def loggedIds : List ℕ := [84, 85, 123, 64, 91, 88, 133, 98, 134, 135, 137, 138, 139, 136]

/-- Whether a recording was saved, as #136 says; the outer `none` is an exception. -/
def savedFlag (payload : Json) : Option (Option Bool) :=
  match payload.get? "status" with
  | some (.str status) => some (some (decide (status = "success")))
  | some (.bool b) => some (some b)
  | some _ => some none
  | none =>
      match payload.get? "saved" with
      | some (.bool b) => some (some b)
      | some _ => none
      | none => some none

/-- A field of the result is missing, or a string. -/
def textOrMissing (result : Json) (key : String) : Bool :=
  match result.get? key with
  | some inner => inner.asString.isSome
  | none => true

/-- 1. The command itself. -/
def logInbound : Logged :=
  if e.cmd.signalId = 98 then
    ⟨[record environment now e 98 "settings_apply_success_status" none none (some e.completed)
      "boolean" "system"], false⟩
  else if e.cmd.signalId = 134 then
    ⟨[record environment now e 134 e.cmd.signalType (optionalNumeric e.cmd.payload "angle") none none
      "degrees" "system"], false⟩
  else if e.cmd.signalId = 64 then
    ⟨[record environment now e 64 e.cmd.signalType none (optionalText e.cmd.payload "action") none
      "action" "system"], false⟩
  else if e.cmd.signalId = 136 then
    match savedFlag e.cmd.payload with
    | some saved =>
        ⟨[record environment now e 136 "video_file_save_confirmation" none none saved "boolean"
          "system"], false⟩
    | none => ⟨[], true⟩
  else if e.cmd.signalId = 139 then
    if textOrMissing e.result "status" && textOrMissing e.result "file_id" &&
        textOrMissing e.result "storage_path" then
      ⟨[record environment now e 139 "video_capture_pan_command_event" none none none "event"
        "UCES"], false⟩
    else ⟨[], true⟩
  else if e.cmd.signalId ∈ loggedIds then
    ⟨[record environment now e e.cmd.signalId e.cmd.signalType none none none "event" "system"],
      false⟩
  else ⟨[], false⟩

/-- `result.dump()`, and a row that goes with it. -/
def withResult (record : LogRecord) : Logged :=
  if e.result.dumps then ⟨[record], false⟩ else ⟨[], true⟩

/-- 2. The effects. -/
def logOutbound : Logged :=
  if e.cmd.signalId = 64 then
    withResult e (record environment now e 65 "lid_actuation_result" none
      (some ((optionalText e.result "status").getD (if e.completed then "SUCCESS" else "FAILED")))
      none "status" "system")
  else if e.cmd.signalId = 85 then
    withResult e (record environment now e 125 "treat_dispensed_quantity"
      (optionalNumeric e.result "treats_dispensed") none none "count" "system")
  else if e.cmd.signalId = 91 then
    withResult e (record environment now e 93 "image_file_save_confirmation" none none
      (optionalBool e.result "saved") "boolean" "system")
  else ⟨[], false⟩

/-- The rows of a handled command: that of the command itself, then those of its result. -/
def log : Logged :=
  if e.cmd.payload.dumps then
    (logInbound environment now e).andThen (logOutbound environment now e)
  else ⟨[], true⟩

/-- The row that the thread of a treat command writes five seconds later. -/
def confirmation (confirmedAt : ℕ) : LogRecord :=
  { record environment now e 126 "treat_dispense_confirmation" none none (some e.completed)
      "boolean" "system" with observedAt := confirmedAt }

end

/-! ## What is written -/

section

variable {environment : Option String} {now : ℕ} {e : Execution} {r : LogRecord}

/-- The type of the row about the command itself. -/
def inboundType (cmd : Command) : String :=
  if cmd.signalId = 98 then "settings_apply_success_status"
  else if cmd.signalId = 136 then "video_file_save_confirmation"
  else if cmd.signalId = 139 then "video_capture_pan_command_event"
  else cmd.signalType

theorem mem_logInbound (hr : r ∈ (logInbound environment now e).records) :
    e.cmd.signalId ∈ loggedIds ∧ r.signalId = e.cmd.signalId ∧ r.signalType = inboundType e.cmd := by
  have hof : ∀ (n : ℤ) (signalType : String) (numericVal : Option ℚ) (textVal : Option String)
      (boolVal : Option Bool) (unit source : String),
        r ∈ [record environment now e n signalType numericVal textVal boolVal unit source] →
          r.signalId = n ∧ r.signalType = signalType := by
    intro n signalType numericVal textVal boolVal unit source hr
    rw [List.mem_singleton.mp hr]
    exact ⟨rfl, rfl⟩
  unfold logInbound at hr
  unfold inboundType
  split_ifs at hr with h98 h134 h64 h136 h139 htext hlogged
  · rw [h98]
    exact ⟨by decide, hof _ _ _ _ _ _ _ hr⟩
  · rw [h134]
    exact ⟨by decide, hof _ _ _ _ _ _ _ hr⟩
  · rw [h64]
    exact ⟨by decide, hof _ _ _ _ _ _ _ hr⟩
  · rw [h136]
    split at hr
    · exact ⟨by decide, hof _ _ _ _ _ _ _ hr⟩
    · cases hr
  · rw [h139]
    exact ⟨by decide, hof _ _ _ _ _ _ _ hr⟩
  · cases hr
  · rw [if_neg h98, if_neg h136, if_neg h139]
    exact ⟨hlogged, hof _ _ _ _ _ _ _ hr⟩
  · cases hr

/-- An accepted command that is logged itself has a row, unless there is an exception. -/
theorem exists_logInbound (hlogged : e.cmd.signalId ∈ loggedIds)
    (hthrew : (logInbound environment now e).threw = false) :
    ∃ r ∈ (logInbound environment now e).records,
      r.signalId = e.cmd.signalId ∧ r.signalType = inboundType e.cmd := by
  have hrecords : (logInbound environment now e).records ≠ [] := by
    unfold logInbound at hthrew ⊢
    split_ifs at hthrew ⊢ with h98 h134 h64 h136 h139 htext
    any_goals exact List.cons_ne_nil _ _
    split at hthrew
    · simp
    · cases hthrew
  obtain ⟨r, hr⟩ := List.exists_mem_of_ne_nil _ hrecords
  obtain ⟨-, hid, htype⟩ := mem_logInbound hr
  exact ⟨r, hr, hid, htype⟩

theorem mem_withResult {row : LogRecord} :
    r ∈ (withResult e row).records ↔ e.result.dumps = true ∧ r = row := by
  unfold withResult
  split_ifs with hdumps <;> simp [hdumps]

theorem mem_logOutbound : r ∈ (logOutbound environment now e).records ↔ e.result.dumps = true ∧
    (e.cmd.signalId = 64 ∧ r = record environment now e 65 "lid_actuation_result" none
      (some ((optionalText e.result "status").getD (if e.completed then "SUCCESS" else "FAILED")))
      none "status" "system" ∨
    e.cmd.signalId = 85 ∧ r = record environment now e 125 "treat_dispensed_quantity"
      (optionalNumeric e.result "treats_dispensed") none none "count" "system" ∨
    e.cmd.signalId = 91 ∧ r = record environment now e 93 "image_file_save_confirmation" none none
      (optionalBool e.result "saved") "boolean" "system") := by
  unfold logOutbound
  by_cases h64 : e.cmd.signalId = 64
  · rw [if_pos h64, mem_withResult]
    simp [h64]
  by_cases h85 : e.cmd.signalId = 85
  · rw [if_neg h64, if_pos h85, mem_withResult]
    simp [h85]
  by_cases h91 : e.cmd.signalId = 91
  · rw [if_neg h64, if_neg h85, if_pos h91, mem_withResult]
    simp [h91]
  · rw [if_neg h64, if_neg h85, if_neg h91]
    simp [h64, h85, h91]

/-- A row is about the command itself, or about its effect. -/
theorem mem_log (hr : r ∈ (log environment now e).records) : e.cmd.payload.dumps = true ∧
    (r ∈ (logInbound environment now e).records ∨
      r ∈ (logOutbound environment now e).records) := by
  unfold log at hr
  split_ifs at hr with hpayload
  · unfold Logged.andThen at hr
    split at hr
    · exact ⟨hpayload, Or.inl hr⟩
    · exact ⟨hpayload, List.mem_append.mp hr⟩
  · cases hr

/-- The row #125 is the one about the treats of a `#85` command. -/
theorem mem_log_treat_iff : (r ∈ (log environment now e).records ∧ r.signalId = 125) ↔
    e.cmd.signalId = 85 ∧ e.cmd.payload.dumps = true ∧ e.result.dumps = true ∧
      r = record environment now e 125 "treat_dispensed_quantity"
        (optionalNumeric e.result "treats_dispensed") none none "count" "system" := by
  constructor
  · rintro ⟨hr, h125⟩
    obtain ⟨hpayload, hr | hr⟩ := mem_log hr
    · -- the id 125 is not logged itself
      obtain ⟨hlogged, hid, -⟩ := mem_logInbound hr
      have hid : e.cmd.signalId = 125 := by exact_mod_cast hid.symm.trans h125
      rw [hid] at hlogged
      exact absurd hlogged (by decide)
    · obtain ⟨hdumps, ⟨-, rfl⟩ | ⟨h85, hr⟩ | ⟨-, rfl⟩⟩ := mem_logOutbound.mp hr
      · exact absurd h125 (show ¬ (65 : ℤ) = 125 by decide)
      · exact ⟨h85, hpayload, hdumps, hr⟩
      · exact absurd h125 (show ¬ (93 : ℤ) = 125 by decide)
  · rintro ⟨h85, hpayload, hdumps, rfl⟩
    refine ⟨?_, rfl⟩
    simp [log, hpayload, logInbound, h85, loggedIds, Logged.andThen, logOutbound, withResult, hdumps]

/-- All rows are written if there is no exception. -/
theorem records_of_threw_eq_false (hthrew : (log environment now e).threw = false) :
    (log environment now e).records = (logInbound environment now e).records ++
      (logOutbound environment now e).records ∧ (logInbound environment now e).threw = false ∧
        (logOutbound environment now e).threw = false := by
  unfold log at hthrew ⊢
  split_ifs at hthrew ⊢ with hpayload
  unfold Logged.andThen at hthrew ⊢
  split at hthrew
  · rename_i hinbound
    rw [hinbound] at hthrew
    cases hthrew
  · rename_i hinbound
    rw [if_neg hinbound]
    exact ⟨rfl, by simpa using hinbound, hthrew⟩

end

end SignalLogger

end OroEdge.Executor
