import OroEdge.Executor.Admission
import OroEdge.Executor.RadxaAnswers

/-!
# Responses of the worker

Every accepted command should be answered: its step ends without an exception and has
sent one message, whose header carries the id of the command (`Answers`).

The handlers are not inside a `try` block, nor is the logger; the callback is, and sends
nothing after an exception.  So a step goes wrong by a field of the payload that cannot
be read, by a timeout that is refused or never ends, and by a reply that no fields can
be added to, or that cannot be dumped.  `Answerable` lists these for each handler, and
is exactly what is needed (`answers_iff`).

The proof goes handler by handler, in the two modules before this one and here for those that
make no request; each has an equivalence between being answered and its own condition, and
`answers_iff_of_mem` collects them by the id of the command.  That the accepted ids are those of
the handlers, and 0, comes from the registry (`map_signalId_dispatch`): the id 0 has no handler,
and its default result is always deliverable.

A timeout that does not fit an `int` is converted by the platform, so the condition mentions the
conversion, and the theorem holds for any.  In a run the condition is asked of each command when
its turn comes, since a session may have been started before it (`answers_workerRun`).
-/

namespace OroEdge.Executor

open OroEdge.Lib CommandDispatcher

/-! ## The condition -/

/-- The condition on a command, its surroundings and the worker. -/
def Answerable (e : Surroundings) (w : Worker) (cmd : Command) : Prop :=
  match dispatch cmd.signalId with
  | some .lidActuation => LidAnswerable e cmd.payload
  | some .treatDispense => TreatAnswerable e cmd.payload
  | some .liveSessionEnd => SessionAnswerable w cmd.payload
  | some .cameraRotation => CameraAnswerable e cmd.payload
  | some .playMusic => Readable (looseInt e.casts 1) cmd.payload ["action_code", "value"]
  | some .stopMusic => Readable (looseInt e.casts 0) cmd.payload ["action_code"]
  | _ => True

/-! ## Handlers without a request -/

section

variable {e : Surroundings} {w : Worker} {cmd : Command} (hparsed : cmd.payload.dumps = true)
include hparsed

theorem answered_manualLid (hid : cmd.signalId ∉ [85, 136, 139]) :
    Answered e cmd (some ⟨w, cmd, manualLidResult e, []⟩) :=
  answered_of_record e rfl hid hparsed ⟨rfl, rfl⟩

theorem answered_noHandler (hid : cmd.signalId ≠ 136) :
    Answered e cmd (some ⟨w, cmd, .failure "No handler found", []⟩) := by
  refine answered_of_deliverable e rfl (deliverable_of_data hid hparsed fun hsuccess => ?_)
  cases hsuccess

omit hparsed in
/-- A capture that is accepted is acknowledged. -/
theorem record_videoCapture (x : CommandHandlers)
    (hsuccess : (handleVideoCapture x cmd).1.success = true) :
    (handleVideoCapture x cmd).1.data.Record := by
  revert hsuccess
  unfold handleVideoCapture
  split
  · exact fun _ => ⟨rfl, rfl⟩
  · split
    · split
      · exact fun _ => ⟨rfl, rfl⟩
      · split
        · split
          · exact fun _ => ⟨rfl, rfl⟩
          · exact fun hfailure => absurd hfailure (by decide)
        · exact fun hfailure => absurd hfailure Bool.false_ne_true
    · exact fun hfailure => absurd hfailure (by decide)
    · split
      · exact fun hfailure => absurd hfailure Bool.false_ne_true
      · exact fun _ => ⟨rfl, rfl⟩

theorem answered_videoCapture (hid : cmd.signalId = 135) :
    Answered e cmd (some (handleVideo e w cmd (handleVideoCapture w.video.handlers cmd).1)) := by
  refine answered_of_deliverable e rfl (deliverable_of_data ?_ hparsed fun hsuccess =>
    ⟨record_videoCapture w.video.handlers hsuccess, fun h85 => ?_, fun h139 => ?_⟩)
  · show cmd.signalId ≠ 136
    omega
  · exact absurd (hid.symm.trans h85) (by decide)
  · exact absurd (hid.symm.trans h139) (by decide)

theorem answered_videoCapturePan (hid : cmd.signalId = 139) :
    Answered e cmd
      (some (handleVideo e w cmd (handleVideoCapturePan w.video.handlers cmd e.nowMs).1)) := by
  refine answered_of_deliverable e rfl (deliverable_of_data ?_ hparsed fun hsuccess => ?_)
  · show cmd.signalId ≠ 136
    omega
  · by_cases hprivacy : w.video.handlers.privacyModeEnabled = true
    · rw [handleVideo, handleVideoCapturePan, if_pos hprivacy] at hsuccess
      cases hsuccess
    · have hdata : (handleVideoCapturePan w.video.handlers cmd e.nowMs).1 =
          ⟨true, "", .obj (acknowledgement "pan_video_capture_initiated" cmd ++
            [("file_id", .str ("PAN_VID_" ++ cmd.commandId)),
              ("storage_path", .str (storagePathAt "ORoBase_PAN_VID_" e.nowMs))])⟩ := by
        rw [handleVideoCapturePan, if_neg hprivacy]
      rw [handleVideo, hdata]
      refine ⟨⟨rfl, rfl⟩, fun h85 => absurd (hid.symm.trans h85) (by decide), fun _ => ?_⟩
      simp [acknowledgement, SignalLogger.textOrMissing, Json.get?, List.lookup_cons, Json.asString]

theorem answered_privacyMode (hid : cmd.signalId = 140) :
    Answered e cmd (some (handleVideo e w cmd (handlePrivacyMode w.video.handlers cmd).2)) :=
  answered_of_record e rfl (by simp [handleVideo, hid]) hparsed ⟨rfl, rfl⟩

end

/-- An action code is read from either key if it can be read at all. -/
theorem exists_playCode_iff {casts : FloatCasts} {payload : Json} :
    (∃ actionCode, playCode casts payload = some actionCode) ↔
      Readable (looseInt casts 1) payload ["action_code", "value"] := by
  have hsame : ∀ inner, (looseDouble casts 1 inner).isSome = (looseInt casts 1 inner).isSome := by
    intro inner
    cases inner <;> rfl
  unfold playCode Readable
  cases haction : payload.get? "action_code" with
  | some inner => simp [haction, Option.isSome_iff_exists]
  | none =>
      rw [exists_readFirst_iff, Readable]
      cases hvalue : payload.get? "value" with
      | some inner => simp [haction, hvalue, hsame]
      | none => simp [haction, hvalue]

/-! ## Main theorem -/

/-- The id of a handler. -/
def Handler.signalId : Handler → ℕ
  | manualLidOpen => 84
  | manualLidClose => 123
  | lidActuation => 64
  | treatDispense => 85
  | liveSessionStart => 88
  | photoCapture => 91
  | settingsApply => 98
  | liveSessionEnd => 133
  | cameraRotation => 134
  | videoCapture => 135
  | videoCapturePan => 139
  | playMusic => 137
  | stopMusic => 138
  | privacyMode => 140

/-- The ids that are accepted are dispatched to their handlers, all but 0. -/
theorem map_signalId_dispatch : ∀ n ∈ 0 :: inboundIds,
    (dispatch n).map Handler.signalId = if n = 0 then none else some n := by
  decide

theorem answers_iff_of_mem {e : Surroundings} {w : Worker} {cmd : Command}
    (hid : cmd.signalId ∈ 0 :: inboundIds) (hparsed : cmd.payload.dumps = true) :
    Answers (workerStep e w cmd) cmd.commandId ↔ Answerable e w cmd := by
  have hid := map_signalId_dispatch cmd.signalId hid
  have hsteps : Answers (workerStep e w cmd) cmd.commandId ↔
      Answered e cmd (runHandler e w cmd) := answers_workerStep_iff
  rw [hsteps]
  unfold runHandler Answerable
  cases hdispatch : dispatch cmd.signalId with
  | none =>
      have hzero : cmd.signalId = 0 := by
        by_contra hne
        rw [hdispatch, if_neg hne] at hid
        cases hid
      exact iff_of_true (answered_noHandler hparsed (by omega)) trivial
  | some handler =>
      have hid : cmd.signalId = handler.signalId := by
        rw [hdispatch, Option.map_some] at hid
        split_ifs at hid
        exact (Option.some.inj hid).symm
      cases handler with
      | manualLidOpen =>
          exact iff_of_true (answered_manualLid hparsed (by rw [hid]; decide)) trivial
      | manualLidClose =>
          exact iff_of_true (answered_manualLid hparsed (by rw [hid]; decide)) trivial
      | lidActuation => exact answered_lidActuation_iff hparsed hid
      | treatDispense => exact answered_treatDispense_iff hparsed hid
      | liveSessionStart => exact iff_of_true (answered_liveSessionStart hparsed hid) trivial
      | photoCapture => exact iff_of_true (answered_photoCapture hparsed hid) trivial
      | settingsApply => exact iff_of_true (answered_settingsApply hparsed hid) trivial
      | liveSessionEnd => exact answered_liveSessionEnd_iff hparsed hid
      | cameraRotation => exact answered_cameraRotation_iff hparsed hid
      | videoCapture => exact iff_of_true (answered_videoCapture hparsed hid) trivial
      | videoCapturePan => exact iff_of_true (answered_videoCapturePan hparsed hid) trivial
      | playMusic =>
          exact (answered_speakers_iff hparsed (by rw [hid]; decide) _).trans exists_playCode_iff
      | stopMusic =>
          exact (answered_speakers_iff hparsed (by rw [hid]; decide) _).trans
            (exists_readFirst_iff 0)
      | privacyMode => exact iff_of_true (answered_privacyMode hparsed hid) trivial

/-- **Responses, exactly.**  An accepted command with a parsed payload is answered if and only
if it is answerable. -/
theorem answers_iff (e : Surroundings) (w : Worker) (activeCommandIds : List String)
    (cmd : Command) (haccepted : (validate activeCommandIds cmd).1 = true)
    (hparsed : cmd.payload.dumps = true) :
    Answers (workerStep e w cmd) cmd.commandId ↔ Answerable e w cmd :=
  answers_iff_of_mem ((validate_iff activeCommandIds cmd).mp haccepted).1 hparsed

/-! ### A lid is opened -/

/-- `#64`, as the dashboard sends it. -/
def openLid : Command := ⟨64, "lid_actuation_command", "cmd-1", "owner", 0,
  .obj [("action", .str "open")]⟩

/-- The MCU replies in time, with a text that is not JSON. -/
def acknowledged : Surroundings := ⟨0, .reply (.text "OK"), .text "", .saturating, 0⟩

theorem answers_openLid :
    Answers (workerStep acknowledged (.construct none) openLid) openLid.commandId := by
  have hanswerable : Answerable acknowledged (.construct none) openLid := by
    refine ⟨rfl, fun inner hinner => ?_, 10000, rfl, by decide, rfl⟩
    cases hinner
  exact (answers_iff acknowledged (.construct none) [] openLid (by decide) rfl).mpr hanswerable

/-! ### An angle that is no number -/

/-- `#134`, with a text for the angle. -/
def leftMessage : Json :=
  .obj [("header", .obj [("command_id", .str "cmd-1"), ("issued_by", .str "owner"),
      ("signal_id", .int 134)]),
    ("payload", .obj [("angle", .str "left")])]

/-- The command that is read from it. -/
def rotateLeft : Command := ⟨134, "", "cmd-1", "owner", 0, .obj [("angle", .str "left")]⟩

/-- **Failing input.**  The message is accepted, and `std::stof` ends the worker, which has
sent nothing. -/
theorem not_answers_rotateLeft :
    (∀ casts, parse casts 0 leftMessage = .parsed rotateLeft) ∧ (validate [] rotateLeft).1 = true ∧
      ∀ e w, workerStep e w rotateLeft = ⟨[], none⟩ ∧
        ¬ Answers (workerStep e w rotateLeft) rotateLeft.commandId := by
  have hstof : stof "left" = none := by decide +kernel
  have hstep : ∀ e w, workerStep e w rotateLeft = ⟨[], none⟩ := by
    intro e w
    have hrun : runHandler e w rotateLeft = none := by
      have hangle : readFirst looseFloat rotateLeft.payload ["angle", "value"] (.finite 0) = none :=
        hstof
      show handleCameraRotation e w rotateLeft = none
      unfold handleCameraRotation
      rw [hangle]
      rfl
    rw [workerStep, hrun]
  refine ⟨fun _ => rfl, by decide, fun e w => ⟨hstep e w, fun hanswers => ?_⟩⟩
  rw [hstep] at hanswers
  cases hanswers.survives

/-! ## Runs -/

/-- The commands that are taken from the queue, each with its surroundings, until a step does
not end. -/
def workerRun : Worker → List (Surroundings × Command) → Stepped
  | w, [] => ⟨[], some w⟩
  | w, input :: inputs =>
      let stepped := workerStep input.1 w input.2
      match stepped.next with
      | none => stepped
      | some w' =>
          let run := workerRun w' inputs
          ⟨stepped.sent ++ run.sent, run.next⟩

/-- The payload of a message that has been parsed can be dumped. -/
theorem dumps_of_parse {casts : FloatCasts} {nowMs : ℤ} {j : Json} (hj : j.dumps = true)
    {cmd : Command} (hparse : parse casts nowMs j = .parsed cmd) : cmd.payload.dumps = true := by
  obtain ⟨header, -, hread⟩ := parse_iff.mp hparse
  simp only [readCommand, Option.bind_eq_bind, Option.bind_eq_some_iff, Option.pure_def,
    Option.some.injEq] at hread
  obtain ⟨id, -, signalType, -, commandId, -, issuedBy, -, eventTime, -, payload, hpayload, rfl⟩ :=
    hread
  rw [Json.value, if_pos (Json.isObject_of_value hpayload)] at hpayload
  cases hget : j.get? "payload" with
  | none =>
      rw [hget] at hpayload
      cases hpayload
      rfl
  | some inner =>
      rw [hget] at hpayload
      cases hpayload
      exact Json.dumps_of_get? hget hj

/-- The command has been read from a JSON text, and accepted. -/
def Queued (cmd : Command) : Prop :=
  ∃ casts nowMs activeCommandIds, ∃ j : Json, j.dumps = true ∧ parse casts nowMs j = .parsed cmd ∧
    (validate activeCommandIds cmd).1 = true

/-- Each command is answerable when its turn comes. -/
def AllAnswerable : Worker → List (Surroundings × Command) → Prop
  | _, [] => True
  | w, input :: inputs =>
      Answerable input.1 w input.2 ∧
        ∀ w' ∈ (workerStep input.1 w input.2).next, AllAnswerable w' inputs

/-- The worker survives a run of answerable commands, and answers them all, in order. -/
theorem answers_workerRun {inputs : List (Surroundings × Command)}
    (hqueued : ∀ input ∈ inputs, Queued input.2) {w : Worker} (hall : AllAnswerable w inputs) :
    (workerRun w inputs).next.isSome = true ∧
      List.Forall₂ (fun m input => Carries m input.2.commandId) (workerRun w inputs).sent
        inputs := by
  induction inputs generalizing w with
  | nil => exact ⟨rfl, List.Forall₂.nil⟩
  | cons input inputs ih =>
      obtain ⟨hanswerable, hrest⟩ := hall
      obtain ⟨casts, nowMs, activeCommandIds, j, hj, hparse, haccepted⟩ :=
        hqueued input List.mem_cons_self
      have hid := ((validate_iff activeCommandIds input.2).mp haccepted).1
      obtain ⟨hsurvives, m, hsent, hcarries⟩ :=
        (answers_iff_of_mem hid (dumps_of_parse hj hparse)).mpr hanswerable
      obtain ⟨w', hnext⟩ := Option.isSome_iff_exists.mp hsurvives
      obtain ⟨hsurvives, hanswered⟩ :=
        ih (fun input' hinput' => hqueued input' (List.mem_cons_of_mem _ hinput')) (hrest w' hnext)
      have hrun : workerRun w (input :: inputs) =
          ⟨m :: (workerRun w' inputs).sent, (workerRun w' inputs).next⟩ := by
        rw [workerRun, hnext]
        simp [hsent]
      rw [hrun]
      exact ⟨hsurvives, List.Forall₂.cons hcarries hanswered⟩

end OroEdge.Executor
