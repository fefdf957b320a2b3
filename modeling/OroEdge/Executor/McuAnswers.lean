import OroEdge.Executor.Worker

/-!
# Answers that need the MCU

What it takes for a handler to be answered, first for those that send a packet to the
MCU: the lids and the camera.

A timeout may be refused or never end, and no fields can be added to a reply that is JSON
but no object.  A reply that is not UTF-8 gets past the handler, but is dumped neither by
the callback nor by the logger.

Every condition of this module is on the inputs: on the payload, and on what the MCU does with a
packet that waits for so long.  It is found by going backwards.  The end of a step is the same
for all handlers (`answered_of_deliverable`), so what is asked of a handler is that it returns
something deliverable; the data are those of the reply with the fields of the handler added
(`answered_mcu_iff`); and the handler returns if its fields can be read (`exists_readFirst_iff`)
and its packet is sent (`exists_sendPacketToMcu`).

The lid and the camera differ in the fields alone.  For the lid the payload is rewritten before
the timeout is read from it, and `readFirst_timeout` says that this makes no difference.
-/

namespace OroEdge.Executor

open OroEdge.Lib SignalLogger

/-! ## The condition -/

/-- The first of the keys that the payload contains can be read. -/
def Readable {α : Type} (read : Json → Option α) (payload : Json) (keys : List String) : Prop :=
  ∀ inner ∈ keys.findSome? payload.get?, (read inner).isSome = true

/-- Fields can be added to what is made of a reply of the MCU, and it can be dumped. -/
def Reply.usable : Reply → Bool
  | .json j _ => j.settable
  | .text _ => true
  | .bytes => false

/-- The timeout is accepted, and the wait ends: with a usable reply, in time, or with an
error. -/
def McuAnswers (e : Surroundings) (timeoutMs : ℤ) : Prop :=
  -1 ≤ timeoutMs ∧
    match e.mcu with
    | .reply reply => reply.usable = true
    | .timeout => timeoutMs ≠ -1
    | .error _ => True

/-- The timeout that a payload asks for. -/
def McuAnswersWithin (e : Surroundings) (payload : Json) (fallback : ℤ) : Prop :=
  ∃ timeoutMs, readFirst (Json.asInt32 e.casts) payload ["timeout_ms"] fallback = some timeoutMs ∧
    McuAnswers e timeoutMs

/-- `#64`: the payload is an object, its lid can be read, and the MCU answers. -/
def LidAnswerable (e : Surroundings) (payload : Json) : Prop :=
  payload.isObject = true ∧ Readable (Json.asUint8 e.casts) payload ["lid_id"] ∧
    McuAnswersWithin e payload 10000

/-- `#134`: homing needs the MCU alone; otherwise angle and direction can be read. -/
def CameraAnswerable (e : Surroundings) (payload : Json) : Prop :=
  (payload.get? "action" = some (.str "home") ∧ McuAnswers e 15000) ∨
    (payload.get? "action" ≠ some (.str "home") ∧ Readable looseFloat payload ["angle", "value"] ∧
      Readable (looseInt e.casts 0) payload ["direction"] ∧ McuAnswersWithin e payload 15000)

/-! ## Reading and requests -/

theorem exists_readFirst_iff {α : Type} {read : Json → Option α} {payload : Json}
    {keys : List String} (fallback : α) :
    (∃ a, readFirst read payload keys fallback = some a) ↔ Readable read payload keys := by
  unfold readFirst Readable
  cases keys.findSome? payload.get? with
  | none => simp
  | some inner => simp [Option.isSome_iff_exists]

theorem exists_sendPacketToMcu {e : Surroundings} {timeoutMs : ℤ} (hmcu : McuAnswers e timeoutMs) :
    ∃ res, sendPacketToMcu e timeoutMs = some res ∧
      res.data.settable = true ∧ res.data.dumps = true := by
  obtain ⟨hlow, hreply⟩ := hmcu
  unfold sendPacketToMcu
  rw [if_neg (by omega)]
  cases hmcu : e.mcu with
  | reply reply =>
      rw [hmcu] at hreply
      cases reply with
      | json j parsed => exact ⟨_, rfl, hreply, parsed⟩
      | text s => exact ⟨_, rfl, rfl, rfl⟩
      | bytes => cases hreply
  | timeout =>
      rw [hmcu] at hreply
      simp only [] at hreply
      exact ⟨_, if_neg hreply, rfl, rfl⟩
  | error what => exact ⟨_, rfl, rfl, rfl⟩

/-- Every outcome but an error is taken for a success. -/
theorem success_of_sendPacketToMcu {e : Surroundings} {timeoutMs : ℤ} {res : CommandResult}
    (hsend : sendPacketToMcu e timeoutMs = some res) :
    res.success = true ∨ ∃ what, e.mcu = .error what ∧ res = ⟨false, "", .obj
      [("completion_time", .int e.nowMs), ("mcu_error", .str what), ("status", .str "failed")]⟩ := by
  unfold sendPacketToMcu at hsend
  split at hsend
  · cases hsend
  split at hsend
  · cases hsend
    exact Or.inl rfl
  · cases hsend
    exact Or.inl rfl
  · cases hsend
    exact Or.inl rfl
  · split at hsend
    · cases hsend
    · cases hsend
      exact Or.inl rfl
  · rename_i what hmcu
    exact Or.inr ⟨what, hmcu, (Option.some.inj hsend).symm⟩

/-- Only a reply that is not UTF-8 gets past the handler without being usable. -/
theorem mcuAnswers_of_sendPacketToMcu {e : Surroundings} {timeoutMs : ℤ} {res : CommandResult}
    (hsend : sendPacketToMcu e timeoutMs = some res) (hsettable : res.data.settable = true)
    (hraw : res.data.get? "raw_response" ≠ some .notUtf8) : McuAnswers e timeoutMs := by
  unfold sendPacketToMcu at hsend
  by_cases hlow : timeoutMs < -1
  · rw [if_pos hlow] at hsend
    cases hsend
  rw [if_neg hlow] at hsend
  refine ⟨by omega, ?_⟩
  cases hmcu : e.mcu with
  | reply reply =>
      rw [hmcu] at hsend
      cases reply with
      | json j parsed =>
          cases hsend
          exact hsettable
      | text s => rfl
      | bytes =>
          cases hsend
          exact absurd rfl hraw
  | timeout =>
      rw [hmcu] at hsend
      simp only [] at hsend
      split_ifs at hsend with hforever
      exact hforever
  | error what => trivial

/-! ## The handlers -/

/-- What a handler returns is answered. -/
def Answered (e : Surroundings) (cmd : Command) (handled : Option Handled) : Prop :=
  ∃ h, handled = some h ∧ Answers (conclude e h) cmd.commandId

/-- The result of a failure is always deliverable, and that of a success is if its data are. -/
theorem deliverable_of_data {h : Handled} (hconfirm : h.cmd.signalId ≠ 136)
    (hpayload : h.cmd.payload.dumps = true)
    (hdata : h.result.success = true → h.result.data.Record ∧
      (h.cmd.signalId = 85 →
        ∀ inner ∈ h.result.data.get? "treats_dispensed", inner.asDouble.isSome = true) ∧
      (h.cmd.signalId = 139 → (textOrMissing h.result.data "status" &&
        textOrMissing h.result.data "file_id" &&
          textOrMissing h.result.data "storage_path") = true)) :
    Deliverable h.execution := by
  by_cases hsuccess : h.result.success = true
  · have hresult := result_of_success hsuccess
    obtain ⟨hrecord, htreats, htexts⟩ := hdata hsuccess
    exact ⟨hconfirm, hpayload, by rw [hresult]; exact hrecord, by rw [hresult]; exact htreats,
      by rw [hresult]; exact htexts⟩
  · obtain ⟨hrecord, hstatus, hmissing⟩ := result_of_failure hsuccess
    refine ⟨hconfirm, hpayload, hrecord, fun _ inner hinner => ?_, fun _ => ?_⟩
    · rw [hmissing "treats_dispensed" (by decide)] at hinner
      cases hinner
    · unfold textOrMissing
      rw [hstatus, hmissing "file_id" (by decide), hmissing "storage_path" (by decide)]
      rfl

theorem answered_of_deliverable (e : Surroundings) {cmd : Command} {h : Handled}
    (hcommandId : h.cmd.commandId = cmd.commandId) (hh : Deliverable h.execution) :
    Answered e cmd (some h) :=
  ⟨h, rfl, hcommandId ▸ answers_of_deliverable e hh⟩

/-- A record is answered, for a command that is neither `#85` nor `#139`. -/
theorem answered_of_record (e : Surroundings) {cmd : Command} {h : Handled}
    (hcommandId : h.cmd.commandId = cmd.commandId) (hid : h.cmd.signalId ∉ [85, 136, 139])
    (hpayload : h.cmd.payload.dumps = true) (hdata : h.result.data.Record) :
    Answered e cmd (some h) := by
  simp only [List.mem_cons, List.not_mem_nil, or_false, not_or] at hid
  exact answered_of_deliverable e hcommandId (deliverable_of_data hid.2.1 hpayload fun _ =>
    ⟨hdata, fun h85 => absurd h85 hid.1, fun h139 => absurd h139 hid.2.2⟩)

/-! ### The MCU -/

/-- The action of `#64` is rewritten if it is there. -/
theorem of_rewriteAction {payload payload' : Json} {action : String}
    (hset : rewriteAction payload action = some payload') :
    (payload'.isObject = true → payload.isObject = true) ∧
      Json.Updated payload [("action", .str action)] payload' ∧
      ∀ inner ∈ payload'.get? "action", inner = .str action := by
  unfold rewriteAction at hset
  split_ifs at hset with hcontains
  · have hassigned := Json.assigned_of_set? hset
    refine ⟨fun _ => Json.isObject_of_contains hcontains, hassigned.toUpdated,
      fun inner hinner => ?_⟩
    rw [hassigned.self] at hinner
    exact (Option.some.inj hinner).symm
  · cases hset
    refine ⟨id, ⟨id, fun _ _ => rfl, fun hdumps _ => hdumps⟩, fun inner hinner => ?_⟩
    rw [Json.contains, Option.mem_def.mp hinner] at hcontains
    cases hcontains rfl

theorem exists_rewriteAction (payload : Json) (action : String) :
    ∃ payload', rewriteAction payload action = some payload' := by
  unfold rewriteAction
  split_ifs with hcontains
  · obtain ⟨payload', hset, -⟩ := Json.exists_set?
      (Json.settable_of_isObject (Json.isObject_of_contains hcontains)) "action" (.str action)
    exact ⟨payload', hset⟩
  · exact ⟨payload, rfl⟩

/-- The action of a rewritten object can be read. -/
theorem exists_action {payload : Json} {action : String} (hobject : payload.isObject = true)
    (haction : ∀ inner ∈ payload.get? "action", inner = .str action) :
    ∃ text, payload.value Json.asString "action" action = some text := by
  rw [Json.value, if_pos hobject]
  cases hget : payload.get? "action" with
  | none => exact ⟨action, rfl⟩
  | some inner =>
      rw [haction inner hget]
      exact ⟨action, rfl⟩

/-- The timeout of a rewritten payload. -/
theorem readFirst_timeout (casts : FloatCasts) {payload payload' : Json} {action : String}
    (hupdated : Json.Updated payload [("action", .str action)] payload') (fallback : ℤ) :
    readFirst (Json.asInt32 casts) payload' ["timeout_ms"] fallback =
      readFirst (Json.asInt32 casts) payload ["timeout_ms"] fallback := by
  have hsame : payload'.get? "timeout_ms" = payload.get? "timeout_ms" :=
    hupdated.other _ (by simp)
  simp [readFirst, hsame]

section

variable {e : Surroundings} {w : Worker} {cmd : Command}

/-- The data of a request to the MCU, with the fields that are added to it. -/
theorem answered_mcu_iff {h : CommandResult → Json → Handled} {timeoutMs : ℤ}
    {update : String × Json} {updates : CommandResult → List (String × Json)}
    (hkeys : ∀ res, "raw_response" ∉ (update :: updates res).map Prod.fst)
    (hupdates : ∀ res, ∀ u ∈ update :: updates res, u.2.dumps = true)
    (hcommandId : ∀ res data, (h res data).cmd.commandId = cmd.commandId)
    (hid : ∀ res data, (h res data).cmd.signalId ∉ [85, 136, 139])
    (hpayload : ∀ res data, (h res data).cmd.payload.dumps = true)
    (hdata : ∀ res data, (h res data).result.data = data)
    (hsuccess : ∀ res data, res.success = true → (h res data).result.success = true) :
    Answered e cmd ((sendPacketToMcu e timeoutMs).bind fun res =>
        (res.data.setAll? (update :: updates res)).bind fun data => some (h res data)) ↔
      McuAnswers e timeoutMs := by
  constructor
  · rintro ⟨handled, hhandled, hanswers⟩
    obtain ⟨res, hsend, hbind⟩ := Option.bind_eq_some_iff.mp hhandled
    obtain ⟨data, hset, hreturn⟩ := Option.bind_eq_some_iff.mp hbind
    cases hreturn
    refine mcuAnswers_of_sendPacketToMcu hsend (Json.isObject_of_setAll? hset).1 fun hraw => ?_
    -- the bytes are still there when the message is dumped
    refine not_answers_of_none (onResultCb_eq_none_of_notUtf8 ?_) hanswers
    have hsent : res.success = true := by
      rcases success_of_sendPacketToMcu hsend with hsent | ⟨what, -, rfl⟩
      · exact hsent
      · simp [Json.get?, List.lookup_cons] at hraw
    have hresult : (h res data).execution.result = data := by
      rw [Handled.execution, hdata]
      exact if_pos (hsuccess res data hsent)
    rw [hresult, (Json.updated_of_setAll? hset).other _ (hkeys res)]
    exact hraw
  · intro hmcu
    obtain ⟨res, hsend, hsettable, hdumps⟩ := exists_sendPacketToMcu hmcu
    obtain ⟨data, hset⟩ := Json.exists_setAll? hsettable (update :: updates res)
    rw [hsend, Option.bind_some, hset, Option.bind_some]
    refine answered_of_record e (hcommandId res data) (hid res data) (hpayload res data) ?_
    rw [hdata]
    exact ⟨(Json.isObject_of_setAll? hset).2,
      (Json.updated_of_setAll? hset).dumps hdumps (hupdates res)⟩

/-- The part of `#64` that asks the MCU. -/
theorem answered_lid_iff (hid : cmd.signalId = 64) {payload : Json}
    (hpayload : payload.dumps = true) (lidId timeoutMs : ℤ) (action : String) :
    Answered e cmd ((sendPacketToMcu e timeoutMs).bind fun res =>
        (res.data.setAll? [("command_id", .str cmd.commandId), ("action", .str action),
          ("lid_id", .int lidId), ("completion_time", .int e.nowMs),
          ("failure_reason", .str (if res.success then "" else res.failureReason))]).bind
        fun data => some ⟨w, { cmd with payload }, { res with data },
          [.mcu (if lidId = 2 then .lid2Stepper else .lid1Stepper) (lidValue e.casts cmd.payload)
            timeoutMs]⟩) ↔
      McuAnswers e timeoutMs :=
  answered_mcu_iff (fun _ => by simp) (fun _ => by simp [Json.dumps]) (fun _ _ => rfl)
    (fun _ _ => by simp [hid]) (fun _ _ => hpayload) (fun _ _ => rfl) fun _ _ hsuccess => hsuccess

variable (hparsed : cmd.payload.dumps = true)
include hparsed

theorem answered_lidActuation_iff (hid : cmd.signalId = 64) :
    Answered e cmd (handleLidActuation e w cmd) ↔ LidAnswerable e cmd.payload := by
  constructor
  · rintro ⟨h, hhandled, hanswers⟩
    simp only [handleLidActuation, Option.bind_eq_bind, Option.bind_eq_some_iff,
      Option.pure_def] at hhandled
    obtain ⟨lidId, hlid, payload, hrewritten, timeoutMs, htimeout, res, hsend, action, haction,
      data, hset, hreturn⟩ := hhandled
    obtain ⟨hobject, hupdated, -⟩ := of_rewriteAction hrewritten
    have hpayload : payload.dumps = true := hupdated.dumps hparsed (by simp [Json.dumps])
    rw [readFirst_timeout _ hupdated] at htimeout
    refine ⟨hobject (Json.isObject_of_value haction), (exists_readFirst_iff _).mp ⟨lidId, hlid⟩,
      timeoutMs, htimeout, ?_⟩
    refine (answered_lid_iff (w := w) hid hpayload lidId timeoutMs action).mp ⟨h, ?_, hanswers⟩
    rw [hsend, Option.bind_some, hset]
    exact hreturn
  · rintro ⟨hobject, hlid, timeoutMs, htimeout, hmcu⟩
    obtain ⟨lidId, hlid⟩ := (exists_readFirst_iff 1).mpr hlid
    obtain ⟨payload, hrewritten⟩ := exists_rewriteAction cmd.payload
      (if lidValue e.casts cmd.payload = 1 then "open" else "close")
    obtain ⟨-, hupdated, haction⟩ := of_rewriteAction hrewritten
    have hpayload : payload.dumps = true := hupdated.dumps hparsed (by simp [Json.dumps])
    obtain ⟨action, haction⟩ := exists_action (hupdated.isObject hobject) haction
    rw [← readFirst_timeout _ hupdated] at htimeout
    obtain ⟨h, hhandled, hanswers⟩ :=
      (answered_lid_iff (w := w) hid hpayload lidId timeoutMs action).mpr hmcu
    obtain ⟨res, hsend, hbind⟩ := Option.bind_eq_some_iff.mp hhandled
    obtain ⟨data, hset, hreturn⟩ := Option.bind_eq_some_iff.mp hbind
    refine ⟨h, ?_, hanswers⟩
    simp only [handleLidActuation, Option.bind_eq_bind, Option.bind_eq_some_iff, Option.pure_def]
    exact ⟨lidId, hlid, payload, hrewritten, timeoutMs, htimeout, res, hsend, action, haction,
      data, hset, hreturn⟩

theorem answered_rotateCamera_iff (hid : cmd.signalId = 134) (angle : Extended)
    (valHundreds timeoutMs : ℤ) :
    Answered e cmd (rotateCamera e w cmd angle valHundreds timeoutMs) ↔ McuAnswers e timeoutMs := by
  refine answered_mcu_iff (h := fun res data => ⟨{ w with currentCameraAngle := angle }, cmd,
    ⟨true, res.failureReason, data⟩, [.mcu .cameraStepper valHundreds timeoutMs]⟩)
      (fun _ => by simp) (fun _ => ?_) (fun _ _ => rfl) (fun _ _ => by simp [hid])
      (fun _ _ => hparsed) (fun _ _ => rfl) fun _ _ _ => rfl
  cases angle <;> simp [Json.dumps]

theorem answered_cameraRotation_iff (hid : cmd.signalId = 134) :
    Answered e cmd (handleCameraRotation e w cmd) ↔ CameraAnswerable e cmd.payload := by
  unfold handleCameraRotation CameraAnswerable
  split
  · rename_i hhome
    rw [answered_rotateCamera_iff hparsed hid]
    simp [hhome]
  · rename_i hnot
    have hhome : cmd.payload.get? "action" ≠ some (.str "home") := fun hhome => hnot hhome
    simp only [hhome, false_and, false_or, ne_eq, not_false_eq_true, true_and]
    constructor
    · rintro ⟨h, hhandled, hanswers⟩
      simp only [Option.bind_eq_bind, Option.bind_eq_some_iff] at hhandled
      obtain ⟨angle, hangle, direction, hdirection, timeoutMs, htimeout, hrotated⟩ := hhandled
      exact ⟨(exists_readFirst_iff _).mp ⟨angle, hangle⟩,
        (exists_readFirst_iff _).mp ⟨direction, hdirection⟩, timeoutMs, htimeout,
        (answered_rotateCamera_iff hparsed hid _ _ _).mp ⟨h, hrotated, hanswers⟩⟩
    · rintro ⟨hangle, hdirection, timeoutMs, htimeout, hmcu⟩
      obtain ⟨angle, hangle⟩ := (exists_readFirst_iff (.finite 0)).mpr hangle
      obtain ⟨direction, hdirection⟩ := (exists_readFirst_iff 0).mpr hdirection
      rw [hangle, hdirection, htimeout]
      exact (answered_rotateCamera_iff hparsed hid _ _ _).mpr hmcu

end

end OroEdge.Executor
