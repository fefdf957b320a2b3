import OroEdge.Executor.Handlers
import OroEdge.Executor.Logger

/-!
# The worker thread

A step of `CommandExecutor::run`: the handler of a command, the message that the callback
sends about its result, and the rows of the logger.  The callback catches its exceptions,
and sends nothing then; an exception of the handler or of the logger ends the worker.

A result that is an object, can be dumped, and has the fields that the callback and the
logger read as they want them is sent and logged (`Deliverable`).

`workerStep` is the body of the loop, and what follows is what it takes for a step to answer its
command.  The handler is kept out of it: `conclude` is the callback and the logger after a
handler that has returned, `answers_conclude_iff` says when it answers, and
`answers_workerStep_iff` adds the handler in front.  So a handler has to be looked at only for
the `Execution` that it returns.

A failure has a result of its own, made from its reason (`result_of_failure`), which is why a
command that fails is always answered, whatever the peer has sent.  A success carries the data
of the peer, and these need to be an object that can be dumped.
-/

namespace OroEdge.Executor

open OroEdge.Lib SignalLogger

/-! ## A step -/

/-- The command after its handler: failures have a result of their own. -/
def Handled.execution (h : Handled) : Execution where
  cmd := h.cmd
  completed := h.result.success
  result :=
    if h.result.success then h.result.data
    else .obj [("reason", .str h.result.failureReason), ("status", .str "FAILED")]

/-- The header of an answer repeats the ids of its command. -/
def responseHeader (cmd : Command) : Json :=
  .obj [("command_id", .str cmd.commandId), ("signal_id", .int cmd.signalId),
    ("signal_type", .str cmd.signalType), ("source", .str "UCES")]

/-- The number of treats as an integer; 1 if it is missing. -/
def normalizeTreats (casts : FloatCasts) (signalId : ℕ) (resultObj : Json) : Option Json :=
  if signalId = 85 then
    match resultObj.get? "treats_dispensed" with
    | some inner => do
        let val ← inner.asDouble
        resultObj.set? "treats_dispensed" (.int (casts.toInt32 val))
    | none => resultObj.set? "treats_dispensed" (.int 1)
  else some resultObj

/-- The status inside the result object. -/
def CommandStatus.text : CommandStatus → String
  | .failed => "FAILED"
  | .rejected => "REJECTED"
  | .timeout => "TIMEOUT"
  | _ => "SUCCESS"

/-- `on_result_cb`: the message, or an exception, which is caught. -/
def respond (casts : FloatCasts) (nowMs : ℕ) (cmd : Command) (status : CommandStatus)
    (result : Json) : Option Json := do
  let resJson ← result.setMissing? "status"
    (.str (if status = .completed then "success" else "failed"))
  let resJson ← resJson.setAll? [("command_id", .str cmd.commandId),
    ("signal_id", .int cmd.signalId), ("source", .str "UCES")]
  let resultObj ← result.set? "status" (.str status.text)
  let resultObj ← normalizeTreats casts cmd.signalId resultObj
  let resultObj ← resultObj.setMissing? "completion_time" (.int nowMs)
  let resJson ← resJson.set? "header" (responseHeader cmd)
  let resJson ← resJson.set? "result" resultObj
  if resJson.dumps then some resJson else none

/-- A command has failed unless it is completed. -/
def Execution.status (x : Execution) : CommandStatus :=
  if x.completed then .completed else .failed

/-- The callback for a command of the worker. -/
def onResultCb (casts : FloatCasts) (nowMs : ℕ) (x : Execution) : Option Json :=
  respond casts nowMs x.cmd x.status x.result

/-- The messages of a step, and the worker after it; `none` if the step does not end. -/
structure Stepped where
  sent : List Json
  next : Option Worker

/-- The callback, and then the logger. -/
def conclude (e : Surroundings) (h : Handled) : Stepped where
  sent := (onResultCb e.casts e.nowMs h.execution).toList
  next :=
    if (log h.worker.video.handlers.environment e.nowMs h.execution).threw then none
    else some h.worker

/-- A turn of the loop in `CommandExecutor::run`. -/
def workerStep (e : Surroundings) (w : Worker) (cmd : Command) : Stepped :=
  match runHandler e w cmd with
  | some h => conclude e h
  | none => ⟨[], none⟩

/-! ## The callback -/

theorem exists_normalizeTreats (casts : FloatCasts) {signalId : ℕ} {j : Json} (hj : j.Record)
    (htreats : signalId = 85 → ∀ inner ∈ j.get? "treats_dispensed", inner.asDouble.isSome = true) :
    ∃ j', normalizeTreats casts signalId j = some j' ∧ j'.Record := by
  unfold normalizeTreats
  split_ifs with h85
  · split
    · rename_i inner hinner
      obtain ⟨val, hval⟩ := Option.isSome_iff_exists.mp (htreats h85 inner hinner)
      obtain ⟨j', hset, hrecord, -⟩ := hj.exists_set? "treats_dispensed"
        (.int (casts.toInt32 val)) rfl
      exact ⟨j', Option.bind_eq_some_iff.mpr ⟨val, hval, hset⟩, hrecord⟩
    · obtain ⟨j', hset, hrecord, -⟩ := hj.exists_set? "treats_dispensed" (.int 1) rfl
      exact ⟨j', hset, hrecord⟩
  · exact ⟨j, rfl, hj⟩

/-- The treats that a message tells about. -/
def reportedTreats (casts : FloatCasts) (result : Json) : Option Json :=
  match result.get? "treats_dispensed" with
  | some inner => inner.asDouble.map fun val => .int (casts.toInt32 val)
  | none => some (.int 1)

theorem of_normalizeTreats {casts : FloatCasts} {signalId : ℕ} {j j' : Json}
    (htreated : normalizeTreats casts signalId j = some j') :
    (∀ key ≠ "treats_dispensed", j'.get? key = j.get? key) ∧
      (signalId = 85 → ∃ treats, reportedTreats casts j = some treats ∧
        j'.get? "treats_dispensed" = some treats) := by
  unfold normalizeTreats at htreated
  unfold reportedTreats
  split_ifs at htreated with h85
  · cases hget : j.get? "treats_dispensed" with
    | none =>
        rw [hget] at htreated
        have hassigned := Json.assigned_of_set? htreated
        exact ⟨fun key hkey => hassigned.other key (by simpa using hkey),
          fun _ => ⟨_, rfl, hassigned.self⟩⟩
    | some inner =>
        rw [hget] at htreated
        obtain ⟨val, hval, hset⟩ := Option.bind_eq_some_iff.mp htreated
        have hassigned := Json.assigned_of_set? hset
        exact ⟨fun key hkey => hassigned.other key (by simpa using hkey),
          fun _ => ⟨_, by simp [hval], hassigned.self⟩⟩
  · cases htreated
    exact ⟨fun _ _ => rfl, fun h => absurd h h85⟩

/-- What a message of the callback says about the result of a command. -/
structure Response (casts : FloatCasts) (cmd : Command) (status : CommandStatus)
    (result m : Json) : Prop where
  dumps : m.dumps = true
  /-- A field that the callback does not set is sent as it is. -/
  other : ∀ key ∉ ["status", "command_id", "signal_id", "source", "header", "result"],
    m.get? key = result.get? key
  header : m.get? "header" = some (responseHeader cmd)
  topStatus : m.get? "status" = some ((result.get? "status").getD
    (.str (if status = .completed then "success" else "failed")))
  inner : ∃ resultObj, m.get? "result" = some resultObj ∧
    resultObj.get? "status" = some (.str status.text) ∧
    (cmd.signalId = 85 → ∃ treats, reportedTreats casts result = some treats ∧
      resultObj.get? "treats_dispensed" = some treats)

theorem response_of_respond {casts : FloatCasts} {nowMs : ℕ} {cmd : Command}
    {status : CommandStatus} {result m : Json}
    (hsent : respond casts nowMs cmd status result = some m) :
    Response casts cmd status result m := by
  simp only [respond, Option.bind_eq_bind, Option.bind_eq_some_iff] at hsent
  obtain ⟨withStatus, hstatus, withIds, hids, resultObj, hresult, treated, htreated, timed, htimed,
    headed, hheader, whole, hwhole, hdumps⟩ := hsent
  split_ifs at hdumps with hdump
  cases hdumps
  have hids := Json.updated_of_setAll? hids
  have hheader := Json.assigned_of_set? hheader
  have hwhole := Json.assigned_of_set? hwhole
  have hresult := Json.assigned_of_set? hresult
  have htimed := Json.updated_of_setMissing? htimed
  obtain ⟨hkept, htreats⟩ := of_normalizeTreats htreated
  refine ⟨hdump, fun key hkey => ?_, ?_, ?_, timed, hwhole.self, ?_, fun h85 => ?_⟩
  · have hupdated := (((Json.updated_of_setMissing? hstatus).trans hids).trans
      hheader.toUpdated).trans hwhole.toUpdated
    exact hupdated.other key (by simpa using hkey)
  · rw [hwhole.other _ (by simp)]
    exact hheader.self
  · rw [hwhole.other _ (by simp), hheader.other _ (by simp), hids.other _ (by simp)]
    exact Json.get?_setMissing? hstatus
  · rw [htimed.other _ (by simp), hkept _ (by simp)]
    exact hresult.self
  · obtain ⟨treats, hreported, hget⟩ := htreats h85
    refine ⟨treats, ?_, by rw [htimed.other _ (by simp)]; exact hget⟩
    unfold reportedTreats at hreported ⊢
    rw [hresult.other _ (by simp)] at hreported
    exact hreported

section

variable {casts : FloatCasts} {cmd : Command} {status : CommandStatus} {result m : Json}
  (hresponse : Response casts cmd status result m)
include hresponse

theorem Response.objectStatus : m.at? ["result", "status"] = some (.str status.text) := by
  obtain ⟨resultObj, hobject, hstatus, -⟩ := hresponse.inner
  rw [Json.at?, hobject, Option.bind_some, Json.at?, hstatus]
  rfl

theorem Response.objectTreats (h85 : cmd.signalId = 85) : ∃ treats,
    reportedTreats casts result = some treats ∧
      m.at? ["result", "treats_dispensed"] = some treats := by
  obtain ⟨resultObj, hobject, -, htreats⟩ := hresponse.inner
  obtain ⟨treats, hreported, hget⟩ := htreats h85
  refine ⟨treats, hreported, ?_⟩
  rw [Json.at?, hobject, Option.bind_some, Json.at?, hget]
  rfl

end

theorem onResultCb_eq_none_of_notUtf8 {casts : FloatCasts} {nowMs : ℕ} {x : Execution}
    (hraw : x.result.get? "raw_response" = some .notUtf8) : onResultCb casts nowMs x = none := by
  cases hsent : onResultCb casts nowMs x with
  | none => rfl
  | some m =>
      have hresponse := response_of_respond hsent
      rw [← hresponse.other "raw_response" (by decide)] at hraw
      cases Json.dumps_of_get? hraw hresponse.dumps

theorem onResultCb_eq_none_of_treats {casts : FloatCasts} {nowMs : ℕ} {x : Execution} {inner : Json}
    (h85 : x.cmd.signalId = 85) (hget : x.result.get? "treats_dispensed" = some inner)
    (hinner : inner.asDouble = none) : onResultCb casts nowMs x = none := by
  cases hsent : onResultCb casts nowMs x with
  | none => rfl
  | some m =>
      obtain ⟨resultObj, -, -, htreats⟩ := (response_of_respond hsent).inner
      obtain ⟨treats, hreported, -⟩ := htreats h85
      rw [reportedTreats, hget] at hreported
      simp [hinner] at hreported

/-! ## Success and failure -/

section

variable {h : Handled}

theorem result_of_success (hsuccess : h.result.success = true) :
    h.execution.result = h.result.data := if_pos hsuccess

theorem status_of_success (hsuccess : h.result.success = true) :
    h.execution.status = .completed := if_pos hsuccess

theorem status_of_failure (hfailure : ¬ h.result.success = true) :
    h.execution.status = .failed := if_neg hfailure

/-- What a failure leaves of its result. -/
theorem result_of_failure (hfailure : ¬ h.result.success = true) :
    h.execution.result.Record ∧ h.execution.result.get? "status" = some (.str "FAILED") ∧
      ∀ key ∉ ["reason", "status"], h.execution.result.get? key = none := by
  have hresult : h.execution.result = .obj [("reason", .str h.result.failureReason),
      ("status", .str "FAILED")] := if_neg hfailure
  rw [hresult]
  refine ⟨⟨rfl, rfl⟩, rfl, fun key hkey => ?_⟩
  simp only [List.mem_cons, List.not_mem_nil, or_false, not_or] at hkey
  rw [Json.get?, List.lookup_cons, beq_false_of_ne hkey.1, List.lookup_cons,
    beq_false_of_ne hkey.2]
  rfl

end

/-! ## What is sent and logged -/

/-- What the callback and the logger need of an execution. -/
structure Deliverable (x : Execution) : Prop where
  confirmation : x.cmd.signalId ≠ 136
  payload : x.cmd.payload.dumps = true
  record : x.result.Record
  treats : x.cmd.signalId = 85 →
    ∀ inner ∈ x.result.get? "treats_dispensed", inner.asDouble.isSome = true
  texts : x.cmd.signalId = 139 → (textOrMissing x.result "status" &&
    textOrMissing x.result "file_id" && textOrMissing x.result "storage_path") = true

/-- The header of a message carries the id of a command. -/
def Carries (m : Json) (commandId : String) : Prop :=
  m.at? ["header", "command_id"] = some (.str commandId)

/-- A result that can be dumped is sent, unless its treats cannot be read. -/
theorem exists_respond (casts : FloatCasts) (nowMs : ℕ) (cmd : Command) (status : CommandStatus)
    {result : Json} (hrecord : result.Record) (htreats : cmd.signalId = 85 →
      ∀ inner ∈ result.get? "treats_dispensed", inner.asDouble.isSome = true) :
    ∃ m, respond casts nowMs cmd status result = some m := by
  obtain ⟨withStatus, hstatus, hwith⟩ := hrecord.exists_setMissing? "status"
    (.str (if status = .completed then "success" else "failed")) rfl
  obtain ⟨withIds, hids, hwith⟩ := hwith.exists_setAll?
    [("command_id", .str cmd.commandId), ("signal_id", .int cmd.signalId),
      ("source", .str "UCES")] (by simp [Json.dumps])
  -- the inner object
  obtain ⟨resultObj, hresult, hinner, hassigned⟩ := hrecord.exists_set? "status"
    (.str status.text) rfl
  have htreats : cmd.signalId = 85 →
      ∀ inner ∈ resultObj.get? "treats_dispensed", inner.asDouble.isSome = true := by
    rw [hassigned.other "treats_dispensed" (by simp)]
    exact htreats
  obtain ⟨treated, htreated, hinner⟩ := exists_normalizeTreats casts hinner htreats
  obtain ⟨timed, htimed, hinner⟩ := hinner.exists_setMissing? "completion_time"
    (.int nowMs) rfl
  -- and around it
  obtain ⟨headed, hheader, hwith, -⟩ := hwith.exists_set? "header" (responseHeader cmd) rfl
  obtain ⟨whole, hwhole, hwith, -⟩ := hwith.exists_set? "result" timed hinner.dumps
  refine ⟨whole, ?_⟩
  simp [respond, hstatus, hids, hresult, htreated, htimed, hheader, hwhole, hwith.dumps]

theorem threw_eq_false (environment : Option String) (now : ℕ) {x : Execution}
    (hx : Deliverable x) : (log environment now x).threw = false := by
  have hinbound : (logInbound environment now x).threw = false := by
    unfold logInbound
    split_ifs with h98 h134 h64 h136 h139 htexts hlogged
    any_goals rfl
    · exact absurd h136 hx.confirmation
    · exact absurd (hx.texts h139) htexts
  have houtbound : (logOutbound environment now x).threw = false := by
    have hwith : ∀ row, (withResult x row).threw = false := fun row => by
      simp [withResult, hx.record.dumps]
    unfold logOutbound
    by_cases h64 : x.cmd.signalId = 64
    · rw [if_pos h64]
      exact hwith _
    by_cases h85 : x.cmd.signalId = 85
    · rw [if_neg h64, if_pos h85]
      exact hwith _
    by_cases h91 : x.cmd.signalId = 91
    · rw [if_neg h64, if_neg h85, if_pos h91]
      exact hwith _
    · rw [if_neg h64, if_neg h85, if_neg h91]
  rw [log, if_pos hx.payload, Logged.andThen, if_neg (by simp [hinbound])]
  exact houtbound

/-- The step answers a command: it ends without an exception, and has sent one message,
whose header carries the id of the command. -/
structure Answers (s : Stepped) (commandId : String) : Prop where
  survives : s.next.isSome = true
  answered : ∃ m, s.sent = [m] ∧ Carries m commandId

/-- What the callback sends carries the id of its command. -/
theorem Response.carries {casts : FloatCasts} {cmd : Command} {status : CommandStatus}
    {result m : Json}
    (hresponse : Response casts cmd status result m) : Carries m cmd.commandId := by
  rw [Carries, Json.at?, hresponse.header]
  rfl

theorem answers_conclude_iff {e : Surroundings} {h : Handled} :
    Answers (conclude e h) h.cmd.commandId ↔
      (∃ m, onResultCb e.casts e.nowMs h.execution = some m) ∧
      (log h.worker.video.handlers.environment e.nowMs h.execution).threw = false := by
  constructor
  · rintro ⟨hsurvives, m, hsent, -⟩
    refine ⟨⟨m, ?_⟩, ?_⟩
    · cases hcb : onResultCb e.casts e.nowMs h.execution with
      | none => simp [conclude, hcb] at hsent
      | some m' => simpa [conclude, hcb] using hsent
    · by_contra hthrew
      simp [conclude, hthrew] at hsurvives
  · rintro ⟨⟨m, hsent⟩, hthrew⟩
    refine ⟨by simp [conclude, hthrew], m, by simp [conclude, hsent], ?_⟩
    exact (response_of_respond hsent).carries

theorem answers_of_deliverable (e : Surroundings) {h : Handled} (hh : Deliverable h.execution) :
    Answers (conclude e h) h.cmd.commandId :=
  answers_conclude_iff.mpr ⟨exists_respond e.casts e.nowMs h.execution.cmd h.execution.status
    hh.record hh.treats, threw_eq_false _ _ hh⟩

/-- A step without a message answers nothing. -/
theorem not_answers_of_none {e : Surroundings} {h : Handled} {commandId : String}
    (hnone : onResultCb e.casts e.nowMs h.execution = none) :
    ¬ Answers (conclude e h) commandId := by
  intro hanswers
  obtain ⟨m, hsent, -⟩ := hanswers.answered
  have hnil : (onResultCb e.casts e.nowMs h.execution).toList = [m] := hsent
  rw [hnone] at hnil
  cases hnil

/-- A worker that goes on is the one that the handler has left. -/
theorem exists_runHandler_of_next {e : Surroundings} {w w' : Worker} {cmd : Command}
    (hnext : (workerStep e w cmd).next = some w') :
    ∃ h, runHandler e w cmd = some h ∧ h.worker = w' := by
  unfold workerStep at hnext
  cases hrun : runHandler e w cmd with
  | none =>
      rw [hrun] at hnext
      cases hnext
  | some h =>
      rw [hrun] at hnext
      dsimp only [conclude] at hnext
      split_ifs at hnext
      exact ⟨h, rfl, Option.some.inj hnext⟩

theorem answers_workerStep_iff {e : Surroundings} {w : Worker} {cmd : Command}
    {commandId : String} :
    Answers (workerStep e w cmd) commandId ↔
      ∃ h, runHandler e w cmd = some h ∧ Answers (conclude e h) commandId := by
  unfold workerStep
  cases hrun : runHandler e w cmd with
  | none =>
      constructor
      · intro hanswers
        cases hanswers.survives
      · rintro ⟨h, hh, -⟩
        cases hh
  | some h => simp

end OroEdge.Executor
