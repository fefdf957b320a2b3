import OroEdge.Executor.McuAnswers

/-!
# Answers that need `RadxaServices`

What it takes for a handler to be answered that asks `RadxaServices`.  A reply that is no
object with a status is caught, so almost any reply will do; a reply about treats that
tells of success must tell their number by a number.

The shape is that of `McuAnswers`, with a transport that never throws: whatever comes back from
`RadxaServices` is turned into a success or a failure (`record_radxaResult`).  What remains are
the fields that a handler reads from its payload before the request and those that it reads from
the reply after it.

Three kinds of handlers are left.  Settings, the start of a session and photos read nothing and
are always answered; the speakers copy fields and need a code that can be read; the treats read
a quantity, a speed, and a number of the reply, and theirs is the only condition on the reply
(`answered_treatHandled_iff`).
-/

namespace OroEdge.Executor

open OroEdge.Lib SignalLogger

/-! ## The conditions -/

/-- A reply of success tells the treats by a number, or not at all. -/
def CountsTreats : Reply → Prop
  | .json j _ => j.get? "status" = some (.str "success") →
      ∀ inner ∈ j.get? "treats_dispensed", inner.asDouble.isSome = true
  | _ => True

/-- `#85`: quantity and speed can be read, and so can the treats of the reply. -/
def TreatAnswerable (e : Surroundings) (payload : Json) : Prop :=
  Readable Json.asDouble payload ["treat_quantity", "value"] ∧
    Readable (Json.asInt32 e.casts) payload ["treat_speed", "speed"] ∧ CountsTreats e.radxaReply

/-- `#133`: a session is going on, or the payload is an object that names one by a text or
not at all. -/
def SessionAnswerable (w : Worker) (payload : Json) : Prop :=
  w.currentSessionId ≠ "" ∨ (payload.isObject = true ∧
    ∀ inner ∈ payload.get? "session_id", inner.asString.isSome = true)

/-! ## Replies -/

theorem record_parseError (failureReason : String) : (parseError failureReason).data.Record :=
  ⟨rfl, rfl⟩

theorem record_radxaResult (reply : Reply) : (radxaResult reply).data.Record := by
  cases reply with
  | json j parsed =>
      unfold radxaResult
      cases hvalue : j.value Json.asString "status" "" with
      | none =>
          simp only [hvalue]
          exact record_parseError ""
      | some status =>
          simp only [hvalue]
          exact ⟨Json.isObject_of_value hvalue, parsed⟩
  | text s => exact record_parseError ""
  | bytes => exact record_parseError ""

/-- The status of a reply is success only if it says so. -/
theorem value_status_iff {j : Json} :
    j.value Json.asString "status" "" = some "success" ↔
      j.get? "status" = some (.str "success") := by
  constructor
  · intro hvalue
    rw [Json.value, if_pos (Json.isObject_of_value hvalue)] at hvalue
    cases hget : j.get? "status" with
    | none => simp [hget] at hvalue
    | some inner =>
        rw [hget] at hvalue
        cases inner with
        | str s => rw [Option.some.inj hvalue]
        | _ => cases hvalue
  · intro hget
    have hobject : j.isObject = true := Json.isObject_of_contains (by rw [Json.contains, hget]; rfl)
    rw [Json.value, if_pos hobject, hget]
    rfl

/-- A success takes the reply over. -/
theorem treatResult_success {j : Json} (parsed : j.dumps = true)
    (hstatus : j.get? "status" = some (.str "success")) :
    treatResult (.json j parsed) = ⟨true, "", j⟩ := by
  simp only [treatResult, value_status_iff.mpr hstatus]

/-- Anything else is a failure. -/
theorem treatResult_failure {reply : Reply}
    (hstatus : ∀ j parsed, reply = .json j parsed → j.get? "status" ≠ some (.str "success")) :
    (treatResult reply).success = false ∧ (treatResult reply).data.Record := by
  cases reply with
  | json j parsed =>
      have hnot := mt value_status_iff.mp (hstatus j parsed rfl)
      unfold treatResult
      cases hvalue : j.value Json.asString "status" "" with
      | none =>
          simp only [hvalue]
          exact ⟨rfl, record_parseError _⟩
      | some status =>
          have hne : status ≠ "success" := fun hsame => hnot (hsame ▸ hvalue)
          simp only [hvalue]
          split
          · exact ⟨rfl, Json.isObject_of_value hvalue, parsed⟩
          · exact ⟨rfl, record_parseError _⟩
  | text s => exact ⟨rfl, record_parseError _⟩
  | bytes => exact ⟨rfl, record_parseError _⟩

/-! ## The handlers -/

/-- The treats of the result are those of the reply, or the quantity. -/
theorem exists_treatHandled (w : Worker) (cmd : Command) {res : CommandResult}
    (hres : res.data.Record) (quantity : ℚ) (requests : List Request) :
    ∃ data, treatHandled w cmd res quantity requests =
        some ⟨w, cmd, { res with data }, requests⟩ ∧ data.Record ∧
      data.get? "treats_dispensed" =
        some ((res.data.get? "treats_dispensed").getD (.float quantity)) := by
  obtain ⟨enriched, hset, hrecord⟩ := hres.exists_setAll? [("command_id", .str cmd.commandId),
    ("dispenser_id", .int 1), ("event_time", .int cmd.eventTime)] (by simp [Json.dumps])
  obtain ⟨data, htreats, hrecord⟩ := hrecord.exists_setMissing? "treats_dispensed"
    (.float quantity) rfl
  refine ⟨data, by simp [treatHandled, hset, htreats], hrecord, ?_⟩
  rw [Json.get?_setMissing? htreats, (Json.updated_of_setAll? hset).other _ (by simp)]

section

variable {e : Surroundings} {w : Worker} {cmd : Command}

theorem exists_endedSessionId_iff :
    (∃ sessionId, endedSessionId w cmd = some sessionId) ↔ SessionAnswerable w cmd.payload := by
  unfold endedSessionId SessionAnswerable
  by_cases hcurrent : w.currentSessionId = ""
  · rw [if_neg (by simpa using hcurrent), Json.value]
    by_cases hobject : cmd.payload.isObject = true
    · rw [if_pos hobject]
      cases cmd.payload.get? "session_id" with
      | none => simp [hobject]
      | some inner => simp [hcurrent, hobject, Option.isSome_iff_exists]
    · rw [if_neg hobject]
      simp [hcurrent, hobject]
  · rw [if_pos hcurrent]
    simp [hcurrent]

variable (hparsed : cmd.payload.dumps = true)
include hparsed

theorem answered_settingsApply (hid : cmd.signalId = 98) :
    Answered e cmd (handleSettingsApply e w cmd) := by
  obtain ⟨data, hset, hrecord⟩ := (record_radxaResult e.radxaReply).exists_setAll?
    [("command_id", .str cmd.commandId), ("event_time", .int cmd.eventTime)] (by simp [Json.dumps])
  have hhandled : handleSettingsApply e w cmd =
      some ⟨w, cmd, { radxaResult e.radxaReply with data }, [.radxa cmd.payload]⟩ := by
    simp [handleSettingsApply, hset]
  rw [hhandled]
  exact answered_of_record e rfl (by simp [hid]) hparsed hrecord

theorem answered_liveSessionStart (hid : cmd.signalId = 88) :
    Answered e cmd (handleLiveSessionStart e w cmd) := by
  obtain ⟨data, hset, hrecord⟩ := (record_radxaResult e.radxaReply).exists_setAll?
    [("session_id", .str cmd.commandId), ("initiated_by", .str cmd.issuedBy),
      ("event_time", .int cmd.eventTime), ("command_id", .str cmd.commandId)] (by simp [Json.dumps])
  have hhandled : handleLiveSessionStart e w cmd =
      some ⟨{ w with currentSessionId := cmd.commandId }, cmd,
        { radxaResult e.radxaReply with data },
        [.radxa (topicCommand "/commands/live_session/start" 1)]⟩ := by
    simp [handleLiveSessionStart, hset]
  rw [hhandled]
  exact answered_of_record e rfl (by simp [hid]) hparsed hrecord

theorem answered_liveSessionEnd_iff (hid : cmd.signalId = 133) :
    Answered e cmd (handleLiveSessionEnd e w cmd) ↔ SessionAnswerable w cmd.payload := by
  rw [← exists_endedSessionId_iff]
  constructor
  · rintro ⟨h, hhandled, -⟩
    simp only [handleLiveSessionEnd, Option.bind_eq_bind, Option.bind_eq_some_iff] at hhandled
    obtain ⟨sessionId, hsession, -⟩ := hhandled
    exact ⟨sessionId, hsession⟩
  · rintro ⟨sessionId, hsession⟩
    obtain ⟨data, hset, hrecord⟩ := (record_radxaResult e.radxaReply).exists_setAll?
      [("session_id", .str sessionId), ("initiated_by", .str cmd.issuedBy),
        ("event_time", .int cmd.eventTime), ("command_id", .str cmd.commandId)]
      (by simp [Json.dumps])
    have hhandled : handleLiveSessionEnd e w cmd =
        some ⟨{ w with currentSessionId := "" }, cmd, { radxaResult e.radxaReply with data },
          [.radxa (topicCommand "/commands/live_session/end" 1)]⟩ := by
      simp [handleLiveSessionEnd, hsession, hset]
    rw [hhandled]
    exact answered_of_record e rfl (by simp [hid]) hparsed hrecord

theorem answered_photoCapture (hid : cmd.signalId = 91) :
    Answered e cmd (handlePhotoCapture e w cmd) := by
  by_cases hprivacy : w.video.handlers.privacyModeEnabled = true
  · rw [handlePhotoCapture, if_pos hprivacy]
    exact answered_of_record e rfl (by simp [hid]) hparsed ⟨rfl, rfl⟩
  · obtain ⟨enriched, hset, hrecord⟩ := (record_radxaResult e.radxaReply).exists_setAll?
      [("command_id", .str cmd.commandId), ("event_time", .int cmd.eventTime)]
      (by simp [Json.dumps])
    obtain ⟨withSaved, hsaved, hrecord⟩ := hrecord.exists_setMissing? "saved"
      (.bool (radxaResult e.radxaReply).success) rfl
    obtain ⟨withFile, hfile, hrecord⟩ := hrecord.exists_setMissing? "file_id"
      (.str ("IMG_" ++ cmd.commandId)) rfl
    obtain ⟨data, hpath, hrecord⟩ := hrecord.exists_setMissing? "storage_path"
      (.str ("/home/radxa/oro_base_images/ORoBase_IMG_" ++ cmd.commandId ++ ".jpg")) rfl
    have hhandled : handlePhotoCapture e w cmd =
        some ⟨w, cmd, { radxaResult e.radxaReply with data },
          [.radxa (topicCommand "/commands/photo_capture" 1)]⟩ := by
      simp [handlePhotoCapture, hprivacy, hset, hsaved, hfile, hpath]
    rw [hhandled]
    exact answered_of_record e rfl (by simp [hid]) hparsed hrecord

/-- A field of a payload that can be dumped is copied. -/
theorem exists_copyField (key : String) {data : Json} (hdata : data.Record) :
    ∃ data', copyField cmd.payload key data = some data' ∧ data'.Record := by
  unfold copyField
  cases hget : cmd.payload.get? key with
  | none => exact ⟨data, rfl, hdata⟩
  | some inner =>
      obtain ⟨data', hset, hrecord, -⟩ := hdata.exists_set? key inner
        (Json.dumps_of_get? hget hparsed)
      exact ⟨data', hset, hrecord⟩

theorem answered_speakers_iff (hid : cmd.signalId ∉ [85, 136, 139])
    (readCode : FloatCasts → Json → Option ℤ) :
    Answered e cmd (handleSpeakers readCode e w cmd) ↔
      ∃ actionCode, readCode e.casts cmd.payload = some actionCode := by
  constructor
  · rintro ⟨h, hhandled, -⟩
    simp only [handleSpeakers, Option.bind_eq_bind, Option.bind_eq_some_iff] at hhandled
    obtain ⟨actionCode, haction, -⟩ := hhandled
    exact ⟨actionCode, haction⟩
  · rintro ⟨actionCode, haction⟩
    obtain ⟨enriched, hset, hrecord⟩ := (record_radxaResult e.radxaReply).exists_setAll?
      [("command_id", .str cmd.commandId), ("event_time", .int cmd.eventTime),
        ("action_code", .int actionCode)] (by simp [Json.dumps])
    obtain ⟨withFile, hfile, hrecord⟩ := exists_copyField hparsed "file_id" hrecord
    obtain ⟨data, hpath, hrecord⟩ := exists_copyField hparsed "storage_path" hrecord
    have hhandled : handleSpeakers readCode e w cmd =
        some ⟨w, cmd, { radxaResult e.radxaReply with data },
          [.radxa (topicCommand "/commands/audio/speakers" actionCode)]⟩ := by
      simp [handleSpeakers, haction, hset, hfile, hpath]
    rw [hhandled]
    exact answered_of_record e rfl hid hparsed hrecord

/-! ### Treats -/

theorem answered_treatHandled_iff (hid : cmd.signalId = 85) (quantity : ℚ)
    (requests : List Request) :
    Answered e cmd (treatHandled w cmd (treatResult e.radxaReply) quantity requests) ↔
      CountsTreats e.radxaReply := by
  by_cases hfailure : ∀ j parsed, e.radxaReply = .json j parsed →
      j.get? "status" ≠ some (.str "success")
  · -- a failure has a result of its own, without treats
    obtain ⟨hsuccess, hrecord⟩ := treatResult_failure hfailure
    obtain ⟨data, hhandled, -⟩ := exists_treatHandled w cmd hrecord quantity requests
    rw [hhandled]
    refine iff_of_true (answered_of_deliverable e rfl (deliverable_of_data (by simp [hid]) hparsed
      fun htrue => absurd (htrue.symm.trans hsuccess) (by decide))) ?_
    unfold CountsTreats
    split
    · rename_i j parsed hreply
      exact fun hstatus => absurd hstatus (hfailure j parsed hreply)
    · trivial
  · push Not at hfailure
    obtain ⟨j, parsed, hreply, hstatus⟩ := hfailure
    have hobject : j.isObject = true :=
      Json.isObject_of_contains (by rw [Json.contains, hstatus]; rfl)
    rw [hreply, treatResult_success parsed hstatus]
    have hresult : (⟨true, "", j⟩ : CommandResult).data.Record := ⟨hobject, parsed⟩
    obtain ⟨data, hhandled, hrecord, htreats⟩ :=
      exists_treatHandled w cmd hresult quantity requests
    rw [hhandled]
    constructor
    · rintro ⟨h, hreturn, hanswers⟩ - inner hinner
      cases hreturn
      by_contra hnone
      refine not_answers_of_none (onResultCb_eq_none_of_treats ?_ ?_
        (Option.not_isSome_iff_eq_none.mp hnone)) hanswers
      · exact hid
      · show data.get? "treats_dispensed" = some inner
        rw [htreats, Option.mem_def.mp hinner]
        rfl
    · intro hcounts
      refine answered_of_deliverable e rfl (deliverable_of_data (by simp [hid]) hparsed fun _ =>
        ⟨hrecord, fun _ inner hinner => ?_, fun h139 => absurd (hid.symm.trans h139) (by decide)⟩)
      obtain rfl : (j.get? "treats_dispensed").getD (.float quantity) = inner :=
        Option.some.inj (htreats.symm.trans hinner)
      cases hget : j.get? "treats_dispensed" with
      | none => rfl
      | some treats => exact hcounts hstatus treats hget

theorem answered_treatDispense_iff (hid : cmd.signalId = 85) :
    Answered e cmd (handleTreatDispense e w cmd) ↔ TreatAnswerable e cmd.payload := by
  constructor
  · rintro ⟨h, hhandled, hanswers⟩
    simp only [handleTreatDispense, Option.bind_eq_bind, Option.bind_eq_some_iff] at hhandled
    obtain ⟨quantity, hquantity, speed, hspeed, hhandled⟩ := hhandled
    exact ⟨(exists_readFirst_iff _).mp ⟨quantity, hquantity⟩,
      (exists_readFirst_iff _).mp ⟨speed, hspeed⟩,
      (answered_treatHandled_iff hparsed hid quantity _).mp ⟨h, hhandled, hanswers⟩⟩
  · rintro ⟨hquantity, hspeed, hcounts⟩
    obtain ⟨quantity, hquantity⟩ := (exists_readFirst_iff 1).mpr hquantity
    obtain ⟨speed, hspeed⟩ := (exists_readFirst_iff 3).mpr hspeed
    have hhandled : handleTreatDispense e w cmd = treatHandled w cmd (treatResult e.radxaReply)
        quantity [.radxa (.obj [("speed", .int speed),
          ("topic", .str "/commands/treat/dispense"), ("value", .float quantity)])] := by
      simp [handleTreatDispense, hquantity, hspeed]
    rw [hhandled]
    exact (answered_treatHandled_iff hparsed hid quantity _).mpr hcounts

end

end OroEdge.Executor
