import OroEdge.Executor.Handlers

/-!
# What handlers leave alone

A handler changes no more of its command than the payload, and only `#134` has to do with
the camera: no other handler turns it, or changes the angle that is kept (`Keeps`).

The property is stated for a handler that returns, since a handler that throws has no command to
compare.  Each handler needs one unfolding: they all read their fields, add some of them to the
payload, and end in one of the common results.  Those that ask `RadxaServices` end in the same
way and have one lemma with the reply for a parameter (`keeps_radxa`).

What the rest of the development uses is `exists_payload_of_runHandler`, for the ids and the
times that an answer repeats, and `of_handleCameraRotation`, which is all that the two modules
on the camera have to know of a rotation.
-/

namespace OroEdge.Executor

open OroEdge.Lib

/-- What a handler leaves as it is: the command, but for its payload, and the camera. -/
structure Keeps (w : Worker) (cmd : Command) (h : Handled) : Prop where
  cmd : ∃ payload, h.cmd = { cmd with payload }
  angle : h.worker.currentCameraAngle = w.currentCameraAngle
  requests : ∀ value timeoutMs, Request.mcu .cameraStepper value timeoutMs ∉ h.requests

section

variable {e : Surroundings} {w : Worker} {cmd : Command} {h : Handled}

theorem keeps_handleLidActuation (hrun : handleLidActuation e w cmd = some h) : Keeps w cmd h := by
  simp only [handleLidActuation, Option.bind_eq_bind, Option.bind_eq_some_iff, Option.pure_def,
    Option.some.injEq] at hrun
  obtain ⟨lidId, -, payload, -, timeoutMs, -, res, -, action, -, data, -, rfl⟩ := hrun
  refine ⟨⟨payload, rfl⟩, rfl, fun value timeoutMs => ?_⟩
  by_cases hlid : lidId = 2 <;> simp [hlid]

/-- The handlers that add fields to a reply of `RadxaServices`. -/
theorem keeps_radxa {worker : Worker} {res : CommandResult} {command : Json}
    (hangle : worker.currentCameraAngle = w.currentCameraAngle) :
    Keeps w cmd ⟨worker, cmd, res, [.radxa command]⟩ :=
  ⟨⟨cmd.payload, rfl⟩, hangle, by simp⟩

theorem keeps_handleTreatDispense (hrun : handleTreatDispense e w cmd = some h) :
    Keeps w cmd h := by
  simp only [handleTreatDispense, treatHandled, Option.bind_eq_bind, Option.bind_eq_some_iff,
    Option.pure_def, Option.some.injEq] at hrun
  obtain ⟨quantity, -, speed, -, enriched, -, data, -, rfl⟩ := hrun
  exact keeps_radxa rfl

theorem keeps_handlePhotoCapture (hrun : handlePhotoCapture e w cmd = some h) : Keeps w cmd h := by
  unfold handlePhotoCapture at hrun
  split_ifs at hrun
  · cases hrun
    exact ⟨⟨cmd.payload, rfl⟩, rfl, by simp⟩
  · simp only [Option.bind_eq_bind, Option.bind_eq_some_iff, Option.pure_def,
      Option.some.injEq] at hrun
    obtain ⟨enriched, -, withSaved, -, withFile, -, data, -, rfl⟩ := hrun
    exact keeps_radxa rfl

theorem keeps_handleLiveSessionStart (hrun : handleLiveSessionStart e w cmd = some h) :
    Keeps w cmd h := by
  simp only [handleLiveSessionStart, Option.bind_eq_bind, Option.bind_eq_some_iff, Option.pure_def,
    Option.some.injEq] at hrun
  obtain ⟨data, -, rfl⟩ := hrun
  exact keeps_radxa rfl

theorem keeps_handleLiveSessionEnd (hrun : handleLiveSessionEnd e w cmd = some h) :
    Keeps w cmd h := by
  simp only [handleLiveSessionEnd, Option.bind_eq_bind, Option.bind_eq_some_iff, Option.pure_def,
    Option.some.injEq] at hrun
  obtain ⟨sessionId, -, data, -, rfl⟩ := hrun
  exact keeps_radxa rfl

theorem keeps_handleSettingsApply (hrun : handleSettingsApply e w cmd = some h) :
    Keeps w cmd h := by
  simp only [handleSettingsApply, Option.bind_eq_bind, Option.bind_eq_some_iff, Option.pure_def,
    Option.some.injEq] at hrun
  obtain ⟨data, -, rfl⟩ := hrun
  exact keeps_radxa rfl

theorem keeps_handleSpeakers {readCode : FloatCasts → Json → Option ℤ}
    (hrun : handleSpeakers readCode e w cmd = some h) : Keeps w cmd h := by
  simp only [handleSpeakers, Option.bind_eq_bind, Option.bind_eq_some_iff, Option.pure_def,
    Option.some.injEq] at hrun
  obtain ⟨actionCode, -, enriched, -, withFile, -, data, -, rfl⟩ := hrun
  exact keeps_radxa rfl

/-- A rotation keeps the command, and sends one value to the camera. -/
theorem of_rotateCamera {angle : Extended} {valHundreds timeoutMs : ℤ}
    (hrun : rotateCamera e w cmd angle valHundreds timeoutMs = some h) :
    h.cmd = cmd ∧ h.worker.currentCameraAngle = angle ∧
      h.requests = [.mcu .cameraStepper valHundreds timeoutMs] := by
  simp only [rotateCamera, Option.bind_eq_bind, Option.bind_eq_some_iff, Option.pure_def,
    Option.some.injEq] at hrun
  obtain ⟨res, -, data, -, rfl⟩ := hrun
  exact ⟨rfl, rfl, rfl⟩

/-- The camera goes home, or to the angle that is asked for. -/
theorem of_handleCameraRotation (hrun : handleCameraRotation e w cmd = some h) :
    (cmd.payload.get? "action" = some (.str "home") ∧
      rotateCamera e w cmd (.finite 0) 99900 15000 = some h) ∨
    (cmd.payload.get? "action" ≠ some (.str "home") ∧ ∃ angle direction timeoutMs,
      readFirst looseFloat cmd.payload ["angle", "value"] (.finite 0) = some angle ∧
        rotateCamera e w cmd (targetAngle w.currentCameraAngle angle direction)
          (((targetAngle w.currentCameraAngle angle direction).scale 100).toInt e.nanCast)
          timeoutMs = some h) := by
  unfold handleCameraRotation at hrun
  split at hrun
  · rename_i haction
    exact Or.inl ⟨haction, hrun⟩
  · rename_i haction
    simp only [Option.bind_eq_bind, Option.bind_eq_some_iff] at hrun
    obtain ⟨angle, hangle, direction, -, timeoutMs, -, hrotate⟩ := hrun
    exact Or.inr ⟨haction, angle, direction, timeoutMs, hangle, hrotate⟩

theorem dispatch_eq_cameraRotation_iff {signalId : ℕ} :
    dispatch signalId = some .cameraRotation ↔ signalId = 134 := by
  constructor
  · intro hdispatch
    unfold dispatch at hdispatch
    split at hdispatch <;> first | rfl | cases hdispatch
  · rintro rfl
    rfl

theorem runHandler_cameraRotation (h134 : cmd.signalId = 134) :
    runHandler e w cmd = handleCameraRotation e w cmd := by
  unfold runHandler
  rw [dispatch_eq_cameraRotation_iff.mpr h134]

/-- Every handler but that of `#134` keeps the camera. -/
theorem keeps_of_runHandler (hrun : runHandler e w cmd = some h) (hid : cmd.signalId ≠ 134) :
    Keeps w cmd h := by
  have hquiet : ∀ (worker : Worker) (res : CommandResult),
      worker.currentCameraAngle = w.currentCameraAngle → Keeps w cmd ⟨worker, cmd, res, []⟩ :=
    fun worker res hangle => ⟨⟨cmd.payload, rfl⟩, hangle, by simp⟩
  unfold runHandler at hrun
  cases hdispatch : dispatch cmd.signalId with
  | none =>
      rw [hdispatch] at hrun
      cases hrun
      exact hquiet _ _ rfl
  | some handler =>
      rw [hdispatch] at hrun
      cases handler with
      | manualLidOpen => cases hrun; exact hquiet _ _ rfl
      | manualLidClose => cases hrun; exact hquiet _ _ rfl
      | lidActuation => exact keeps_handleLidActuation hrun
      | treatDispense => exact keeps_handleTreatDispense hrun
      | liveSessionStart => exact keeps_handleLiveSessionStart hrun
      | photoCapture => exact keeps_handlePhotoCapture hrun
      | settingsApply => exact keeps_handleSettingsApply hrun
      | liveSessionEnd => exact keeps_handleLiveSessionEnd hrun
      | cameraRotation => exact absurd (dispatch_eq_cameraRotation_iff.mp hdispatch) hid
      | videoCapture => cases hrun; exact hquiet _ _ rfl
      | videoCapturePan => cases hrun; exact hquiet _ _ rfl
      | playMusic => exact keeps_handleSpeakers hrun
      | stopMusic => exact keeps_handleSpeakers hrun
      | privacyMode => cases hrun; exact hquiet _ _ rfl

/-- The command after a handler is the same but for its payload. -/
theorem exists_payload_of_runHandler (hrun : runHandler e w cmd = some h) :
    ∃ payload, h.cmd = { cmd with payload } := by
  by_cases h134 : cmd.signalId = 134
  · rw [runHandler_cameraRotation h134] at hrun
    rcases of_handleCameraRotation hrun with ⟨-, hrotate⟩ | ⟨-, _, _, _, -, hrotate⟩
    · exact ⟨cmd.payload, (of_rotateCamera hrotate).1⟩
    · exact ⟨cmd.payload, (of_rotateCamera hrotate).1⟩
  · exact (keeps_of_runHandler hrun h134).cmd

end

end OroEdge.Executor
