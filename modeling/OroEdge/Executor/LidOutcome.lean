import OroEdge.Executor.Responses

/-!
# The outcome of a lid command

The outcome of a `#64` command is told in three places: the status of the message, the
status of the result object in it, and the row #65 of the logger.  They should agree, and
tell of a failure if the MCU replies that it has failed (`OneOutcome`).

The transport takes every reply for a success.  The object then says `SUCCESS`, while the
message and the row repeat the status of the reply.  So the property holds exactly if a
reply that has a status says success (`oneOutcome_iff`).

The three places are reached in this order: the transport fills the result
(`of_sendPacketToMcu`), the handler keeps its success and its status (`of_handleLidActuation`),
the callback copies the result into a message, and the logger makes a row of it
(`exists_row_iff`).  One lemma for each of them is enough, and after that only the status of the
reply matters.

The main theorem separates a success of the transport from a failure.  With a failure the
handler's result is one that says so in every place (`reports_of_failure`), whatever was sent. 
With a success the object says so, and the other two repeat the reply
(`reports_iff_of_success`): they agree with it exactly if the reply has no status, or says
success in some spelling.
-/

namespace OroEdge.Executor

open OroEdge.Lib SignalLogger

/-! ## The property -/

/-- `std::tolower` on each character. -/
def lower (s : String) : List Char := s.toList.map Char.toLower

/-- What a status says, its case aside. -/
def outcome : Json → Option Bool
  | .str s =>
      if lower s = "success".toList then some true
      else if lower s = "failed".toList then some false
      else none
  | _ => none

theorem outcome_success : outcome (.str "success") = some true := by decide

theorem outcome_SUCCESS : outcome (.str "SUCCESS") = some true := by decide

theorem outcome_FAILED : outcome (.str "FAILED") = some false := by decide

/-- All three places report a success, or all report a failure. -/
structure Reports (m : Json) (row : LogRecord) (success : Bool) : Prop where
  message : (m.get? "status").bind outcome = some success
  object : (m.at? ["result", "status"]).bind outcome = some success
  row : (row.textVal.map Json.str).bind outcome = some success

/-- The MCU replies with an object whose status is `failed`. -/
def McuOutcome.RepliesFailed : McuOutcome → Prop
  | .reply (.json j _) => j.get? "status" = some (.str "failed")
  | _ => False

/-- Whenever the outcome of the command is told, it is told alike, and as the MCU says. -/
def OneOutcome (e : Surroundings) (w : Worker) (cmd : Command) : Prop :=
  ∀ h, runHandler e w cmd = some h → ∀ m ∈ onResultCb e.casts e.nowMs h.execution,
    ∀ row ∈ (log h.worker.video.handlers.environment e.nowMs h.execution).records,
      row.signalId = 65 →
        (∃ success, Reports m row success) ∧ (e.mcu.RepliesFailed → Reports m row false)

/-- A reply of the MCU that is JSON says success, if it has a status. -/
def McuOutcome.PlainStatus : McuOutcome → Prop
  | .reply (.json j _) => ∀ status ∈ j.get? "status", outcome status = some true
  | _ => True

/-- The status that the transport puts into its data. -/
def McuOutcome.status? : McuOutcome → Option Json
  | .reply (.json j _) => j.get? "status"
  | .error _ => some (.str "failed")
  | _ => some (.str "success")

/-- Sending or receiving has failed. -/
def McuOutcome.isError : McuOutcome → Bool
  | .error _ => true
  | _ => false

theorem McuOutcome.plainStatus_iff {mcu : McuOutcome} :
    mcu.PlainStatus ↔
      (mcu.isError = false → ∀ status ∈ mcu.status?, outcome status = some true) := by
  unfold PlainStatus isError status?
  cases mcu with
  | reply reply => cases reply <;> simp [outcome_success]
  | timeout => simp [outcome_success]
  | error what => simp

theorem McuOutcome.PlainStatus.not_repliesFailed {mcu : McuOutcome} (hplain : mcu.PlainStatus) :
    ¬ mcu.RepliesFailed := by
  intro hfailed
  unfold RepliesFailed at hfailed
  split at hfailed
  · exact absurd (hplain _ hfailed) (by decide)
  · exact hfailed

/-! ## The handler -/

section

variable {e : Surroundings} {w : Worker} {cmd : Command} {h : Handled}

theorem of_sendPacketToMcu {timeoutMs : ℤ} {res : CommandResult}
    (hsend : sendPacketToMcu e timeoutMs = some res) :
    res.success = !e.mcu.isError ∧ res.data.get? "status" = e.mcu.status? := by
  unfold sendPacketToMcu at hsend
  split at hsend
  · cases hsend
  split at hsend
  · rename_i j parsed hmcu
    cases hsend
    rw [hmcu]
    exact ⟨rfl, rfl⟩
  · rename_i s hmcu
    cases hsend
    rw [hmcu]
    exact ⟨rfl, rfl⟩
  · rename_i hmcu
    cases hsend
    rw [hmcu]
    exact ⟨rfl, rfl⟩
  · rename_i hmcu
    split at hsend
    · cases hsend
    · cases hsend
      rw [hmcu]
      exact ⟨rfl, rfl⟩
  · rename_i what hmcu
    cases hsend
    rw [hmcu]
    exact ⟨rfl, rfl⟩

/-- The handler keeps the success and the status of the transport. -/
theorem of_handleLidActuation (hrun : handleLidActuation e w cmd = some h) :
    h.result.success = !e.mcu.isError ∧ h.result.data.get? "status" = e.mcu.status? ∧
      h.cmd.signalId = cmd.signalId ∧ h.cmd.commandId = cmd.commandId := by
  simp only [handleLidActuation, Option.bind_eq_bind, Option.bind_eq_some_iff,
    Option.pure_def] at hrun
  obtain ⟨lidId, -, payload, -, timeoutMs, -, res, hsend, action, -, data, hset, hreturn⟩ := hrun
  cases hreturn
  obtain ⟨hsuccess, hstatus⟩ := of_sendPacketToMcu hsend
  refine ⟨hsuccess, ?_, rfl, rfl⟩
  show data.get? "status" = _
  rw [(Json.updated_of_setAll? hset).other _ (by simp), hstatus]

/-! ## The three places -/

/-- The row about the outcome is written if there is no exception, and only then. -/
theorem exists_row_iff {environment : Option String} {now : ℕ} {x : Execution}
    (h64 : x.cmd.signalId = 64) :
    (∃ row ∈ (log environment now x).records, row.signalId = 65) ↔
      (log environment now x).threw = false := by
  constructor
  · rintro ⟨row, hrow, h65⟩
    obtain ⟨hpayload, hrow | hrow⟩ := mem_log hrow
    · obtain ⟨-, hid, -⟩ := mem_logInbound hrow
      rw [h65, h64] at hid
      exact absurd hid (by decide)
    · have hdumps := (mem_logOutbound.mp hrow).1
      simp [log, hpayload, logInbound, h64, Logged.andThen, logOutbound, withResult, hdumps]
  · intro hthrew
    obtain ⟨hrecords, -, houtbound⟩ := records_of_threw_eq_false hthrew
    have hdumps : x.result.dumps = true := by
      by_contra hnot
      simp [logOutbound, h64, withResult, hnot] at houtbound
    rw [hrecords]
    exact ⟨_, List.mem_append_right _ (mem_logOutbound.mpr ⟨hdumps, Or.inl ⟨h64, rfl⟩⟩), rfl⟩

theorem textVal_of_row {environment : Option String} {now : ℕ} {x : Execution} {row : LogRecord}
    (h64 : x.cmd.signalId = 64) (hrow : row ∈ (log environment now x).records)
    (h65 : row.signalId = 65) : row.textVal =
      some ((optionalText x.result "status").getD
        (if x.completed then "SUCCESS" else "FAILED")) := by
  obtain ⟨-, hrow | hrow⟩ := mem_log hrow
  · obtain ⟨-, hid, -⟩ := mem_logInbound hrow
    rw [h65, h64] at hid
    exact absurd hid (by decide)
  · obtain ⟨-, ⟨-, rfl⟩ | ⟨h85, -⟩ | ⟨h91, -⟩⟩ := mem_logOutbound.mp hrow
    · rfl
    · omega
    · omega

/-- A success is told by the status of the reply, but for the object. -/
theorem reports_iff_of_success {environment : Option String} {m : Json} {row : LogRecord}
    {success : Bool} (h64 : h.execution.cmd.signalId = 64) (hsuccess : h.result.success = true)
    (hsent : onResultCb e.casts e.nowMs h.execution = some m)
    (hrow : row ∈ (log environment e.nowMs h.execution).records) (h65 : row.signalId = 65) :
    Reports m row success ↔ success = true ∧
      ∀ status ∈ h.result.data.get? "status", outcome status = some true := by
  have hresult := result_of_success hsuccess
  have hstatus := status_of_success hsuccess
  have hresponse := response_of_respond hsent
  have hobject : m.at? ["result", "status"] = some (.str "SUCCESS") := by
    rw [hresponse.objectStatus, hstatus]
    rfl
  have htop := hresponse.topStatus
  have htext := textVal_of_row h64 hrow h65
  have hcompleted : h.execution.completed = true := hsuccess
  rw [hstatus, if_pos rfl, hresult] at htop
  rw [hcompleted, if_pos rfl, hresult] at htext
  constructor
  · rintro ⟨hmessage, hobject', -⟩
    rw [hobject, Option.bind_some, outcome_SUCCESS] at hobject'
    obtain rfl := Option.some.inj hobject'
    refine ⟨rfl, fun status hget => ?_⟩
    rw [htop, hget] at hmessage
    exact hmessage
  · rintro ⟨rfl, hplain⟩
    refine ⟨?_, ?_, ?_⟩
    · rw [htop]
      cases hget : h.result.data.get? "status" with
      | none => exact outcome_success
      | some status => exact hplain status hget
    · rw [hobject]
      exact outcome_SUCCESS
    · rw [htext]
      unfold optionalText
      cases hget : h.result.data.get? "status" with
      | none => exact outcome_SUCCESS
      | some status =>
          have hsays := hplain status hget
          cases status with
          | str s => exact hsays
          | _ => cases hsays

/-- A failure of the transport is told everywhere. -/
theorem reports_of_failure {environment : Option String} {m : Json} {row : LogRecord}
    (h64 : h.execution.cmd.signalId = 64) (hfailure : h.result.success = false)
    (hsent : onResultCb e.casts e.nowMs h.execution = some m)
    (hrow : row ∈ (log environment e.nowMs h.execution).records) (h65 : row.signalId = 65) :
    Reports m row false := by
  have hnot : ¬ h.result.success = true := by simp [hfailure]
  obtain ⟨-, hget, -⟩ := result_of_failure hnot
  have hstatus := status_of_failure hnot
  have hresponse := response_of_respond hsent
  refine ⟨?_, ?_, ?_⟩
  · rw [hresponse.topStatus, hget]
    exact outcome_FAILED
  · rw [hresponse.objectStatus, hstatus]
    exact outcome_FAILED
  · have htext : optionalText h.execution.result "status" = some "FAILED" := by
      unfold optionalText
      rw [hget]
    rw [textVal_of_row h64 hrow h65, htext, Option.getD_some, Option.map_some, Option.bind_some]
    exact outcome_FAILED

end

/-! ## Main theorem -/

theorem runHandler_lidActuation {cmd : Command} (h64 : cmd.signalId = 64) (e : Surroundings)
    (w : Worker) : runHandler e w cmd = handleLidActuation e w cmd := by
  have hdispatch : dispatch cmd.signalId = some .lidActuation := by rw [h64]; rfl
  unfold runHandler
  rw [hdispatch]

theorem oneOutcome_iff_of_dumps {e : Surroundings} {w : Worker} {cmd : Command}
    (hparsed : cmd.payload.dumps = true) (h64 : cmd.signalId = 64) :
    OneOutcome e w cmd ↔ (LidAnswerable e cmd.payload → e.mcu.PlainStatus) := by
  have hanswered := answered_lidActuation_iff (e := e) (w := w) hparsed h64
  unfold OneOutcome
  rw [runHandler_lidActuation h64]
  constructor
  · intro hone hanswerable
    obtain ⟨h, hrun, hanswers⟩ := hanswered.mpr hanswerable
    obtain ⟨hsuccess, hstatus, hsignalId, hcommandId⟩ := of_handleLidActuation hrun
    have hid : h.execution.cmd.signalId = 64 := hsignalId.trans h64
    obtain ⟨⟨m, hsent⟩, hthrew⟩ := answers_conclude_iff.mp (hcommandId ▸ hanswers)
    obtain ⟨row, hrow, h65⟩ := (exists_row_iff hid).mpr hthrew
    obtain ⟨⟨success, hreports⟩, -⟩ := hone h hrun m hsent row hrow h65
    rw [McuOutcome.plainStatus_iff]
    intro herror
    rw [herror] at hsuccess
    rw [← hstatus]
    exact ((reports_iff_of_success hid hsuccess hsent hrow h65).mp hreports).2
  · intro hplain h hrun m hsent row hrow h65
    obtain ⟨hsuccess, hstatus, hsignalId, hcommandId⟩ := of_handleLidActuation hrun
    have hid : h.execution.cmd.signalId = 64 := hsignalId.trans h64
    -- what is told has been answered
    have hanswers : Answers (conclude e h) h.cmd.commandId :=
      answers_conclude_iff.mpr ⟨⟨m, hsent⟩, (exists_row_iff hid).mp ⟨row, hrow, h65⟩⟩
    have hplain := hplain (hanswered.mp ⟨h, hrun, hcommandId ▸ hanswers⟩)
    cases herror : e.mcu.isError with
    | true =>
        rw [herror] at hsuccess
        have hreports := reports_of_failure hid hsuccess hsent hrow h65
        exact ⟨⟨false, hreports⟩, fun _ => hreports⟩
    | false =>
        rw [herror] at hsuccess
        refine ⟨⟨true, (reports_iff_of_success hid hsuccess hsent hrow h65).mpr ⟨rfl, ?_⟩⟩,
          fun hfailed => absurd hfailed hplain.not_repliesFailed⟩
        rw [hstatus]
        exact (McuOutcome.plainStatus_iff.mp hplain) herror

/-- **One outcome, exactly.**  The outcome of an accepted lid command is told alike if and
only if the command is not answerable at all, or the reply of the MCU, where it has a status,
says success. -/
theorem oneOutcome_iff (e : Surroundings) (w : Worker) (cmd : Command) (hqueued : Queued cmd)
    (h64 : cmd.signalId = 64) :
    OneOutcome e w cmd ↔ (LidAnswerable e cmd.payload → e.mcu.PlainStatus) := by
  obtain ⟨casts, nowMs, activeCommandIds, j, hj, hparse, -⟩ := hqueued
  exact oneOutcome_iff_of_dumps (dumps_of_parse hj hparse) h64

/-! ### A jammed lid -/

/-- The MCU replies that it has failed. -/
def jammed : Surroundings :=
  ⟨0, .reply (.json (.obj [("status", .str "failed")]) rfl), .text "", .saturating, 0⟩

/-- The MCU replies that it has succeeded. -/
def moved : Surroundings :=
  ⟨0, .reply (.json (.obj [("status", .str "success")]) rfl), .text "", .saturating, 0⟩

/-- The message that the dashboard sends. -/
def openLidMessage : Json :=
  .obj [("header", .obj [("command_id", .str "cmd-1"), ("issued_by", .str "owner"),
      ("signal_id", .int 64), ("signal_type", .str "lid_actuation_command")]),
    ("payload", .obj [("action", .str "open")])]

theorem queued_openLid : Queued openLid :=
  ⟨.saturating, 0, [], openLidMessage, rfl, rfl, by decide⟩

theorem oneOutcome_moved : OneOutcome moved (.construct none) openLid := by
  refine (oneOutcome_iff moved (.construct none) openLid queued_openLid rfl).mpr fun _ => ?_
  rintro status hstatus
  obtain rfl := Option.some.inj hstatus
  decide

/-- **Failing input.**  The MCU replies that it has failed; the message and the row repeat it,
but the object says success. -/
theorem not_oneOutcome_jammed : ¬ OneOutcome jammed (.construct none) openLid := by
  intro hone
  have hanswerable : LidAnswerable jammed openLid.payload := by
    refine ⟨rfl, fun inner hinner => ?_, 10000, rfl, by decide, rfl⟩
    cases hinner
  have hplain := (oneOutcome_iff_of_dumps rfl rfl).mp hone hanswerable
  exact absurd (hplain _ rfl) (by decide)

end OroEdge.Executor
