import OroEdge.Executor.AtMostOnce
import OroEdge.Executor.Frame
import OroEdge.Executor.Privacy
import OroEdge.Executor.Responses
import Mathlib.Data.List.Induction

/-!
# What is asked of the hardware, and why

A command has the hardware asked for something in two ways.  Its handler makes at most one request,
to the MCU or to `RadxaServices`, and may end in an exception afterwards; `asked` is the request
that has been made by then, for a handler that returns the one it reports (`requests_eq_asked`).
And `#139` starts a thread, which sends three packets to the camera on its own; they belong to the
command that has started it, so `askedInAll` counts them where the thread is started.

What a command may ask for is said by `Fits`, field by field: the lid, the value and the timeout of
a packet are those of the payload, the camera is turned from the angle that it has been left at,
and quantity, speed and action code are the ones that the payload gives.

Over any run of the pipeline, everything that is asked for has a message that was parsed, found
valid and not refused, it is what the command of this message may ask for, and no message is asked
for twice (`askedOnce_run`).  The events of the lids ask for nothing.  The argument counts places: a
request is made where a command is handled, what has been handled is a part of what has been
pushed, in order (`asks_sublist_handled`, `handled_sublist_pushed`), and no message is pushed twice.
Where a request comes from is kept by `Traced`.

While privacy is enabled no photo is asked for by `#91`.  What `#98` asks for is its own payload,
whatever that is, so it is the one command left that can ask for a photo (`noPhoto_run`).
-/

namespace OroEdge.Executor

open OroEdge.Lib

/-! ## The request of a handler -/

/-- A packet with a timeout below -1 is not sent. -/
def packet (peripheral : Peripheral) (value timeoutMs : ℤ) : Option Request :=
  if timeoutMs < -1 then none else some (.mcu peripheral value timeoutMs)

/-- The packet of `handleLidActuation`. -/
def askedLid (e : Surroundings) (cmd : Command) : Option Request := do
  let lidId ← readFirst (Json.asUint8 e.casts) cmd.payload ["lid_id"] 1
  let val := lidValue e.casts cmd.payload
  let payload ← rewriteAction cmd.payload (if val = 1 then "open" else "close")
  let timeoutMs ← readFirst (Json.asInt32 e.casts) payload ["timeout_ms"] 10000
  packet (if lidId = 2 then .lid2Stepper else .lid1Stepper) val timeoutMs

/-- The packet of `handleCameraRotation`. -/
def askedCamera (e : Surroundings) (w : Worker) (cmd : Command) : Option Request :=
  match cmd.payload.get? "action" with
  | some (.str "home") => packet .cameraStepper 99900 15000
  | _ => do
      let angle ← readFirst looseFloat cmd.payload ["angle", "value"] (.finite 0)
      let direction ← readFirst (looseInt e.casts 0) cmd.payload ["direction"] 0
      let target := targetAngle w.currentCameraAngle angle direction
      let timeoutMs ← readFirst (Json.asInt32 e.casts) cmd.payload ["timeout_ms"] 15000
      packet .cameraStepper ((target.scale 100).toInt e.nanCast) timeoutMs

/-- Treats, as `RadxaServices` is asked for them. -/
def treatRequest (speed : ℤ) (quantity : ℚ) : Request :=
  .radxa (.obj [("speed", .int speed), ("topic", .str "/commands/treat/dispense"),
    ("value", .float quantity)])

/-- The request of `handleTreatDispense`. -/
def askedTreat (e : Surroundings) (cmd : Command) : Option Request := do
  let quantity ← readFirst Json.asDouble cmd.payload ["treat_quantity", "value"] 1
  let speed ← readFirst (Json.asInt32 e.casts) cmd.payload ["treat_speed", "speed"] 3
  return treatRequest speed quantity

/-- The request of the two handlers of the speakers. -/
def askedSpeakers (readCode : FloatCasts → Json → Option ℤ) (e : Surroundings) (cmd : Command) :
    Option Request := do
  let actionCode ← readCode e.casts cmd.payload
  return .radxa (topicCommand "/commands/audio/speakers" actionCode)

/-- What the handler of a command has asked for itself when it returns or ends in an exception. -/
def asked (e : Surroundings) (w : Worker) (cmd : Command) : Option Request :=
  match dispatch cmd.signalId with
  | some .lidActuation => askedLid e cmd
  | some .cameraRotation => askedCamera e w cmd
  | some .treatDispense => askedTreat e cmd
  | some .photoCapture =>
      if w.video.handlers.privacyModeEnabled then none
      else some (.radxa (topicCommand "/commands/photo_capture" 1))
  | some .liveSessionStart => some (.radxa (topicCommand "/commands/live_session/start" 1))
  | some .liveSessionEnd => some (.radxa (topicCommand "/commands/live_session/end" 1))
  | some .settingsApply => some (.radxa cmd.payload)
  | some .playMusic => askedSpeakers playCode e cmd
  | some .stopMusic => askedSpeakers stopCode e cmd
  | _ => none

/-! ## The packets of a thread -/

/-- The value that sends the camera home. -/
def homing : ℤ := 99900

/-- The values of a panoramic capture, in order. -/
def sweep : List ℤ := [9000, -9000, homing]

/-- The values that a new thread will send to the camera. -/
def Thread.moves : Thread → List ℤ
  | .panMkdir _ => sweep
  | _ => []

/-- `send_stepper_command`, for each of the values. -/
def stepperCommands (values : List ℤ) : List Request :=
  values.map fun value => .mcu .cameraStepper value 15000

/-- What a command has the hardware asked for: by its handler, and by the threads that the handler
starts. -/
def askedInAll (e : Surroundings) (w : Worker) (cmd : Command) : List Request :=
  (asked e w cmd).toList ++
    stepperCommands ((handle w.video.handlers cmd e.nowMs).2.flatMap Thread.moves)

/-! ## What a command may ask for -/

/-- The requests that a command may have made, in surroundings where the camera has been left at an
angle: everything but the topics comes from the payload, or is its default. -/
inductive Fits (e : Surroundings) (current : Extended) (cmd : Command) : List Request → Prop
  | lid {lidId timeoutMs : ℤ} (h64 : cmd.signalId = 64)
      (hlid : readFirst (Json.asUint8 e.casts) cmd.payload ["lid_id"] 1 = some lidId)
      (htimeout :
        readFirst (Json.asInt32 e.casts) cmd.payload ["timeout_ms"] 10000 = some timeoutMs)
      (hsent : -1 ≤ timeoutMs) :
      Fits e current cmd [.mcu (if lidId = 2 then .lid2Stepper else .lid1Stepper)
        (lidValue e.casts cmd.payload) timeoutMs]
  | home (h134 : cmd.signalId = 134) (haction : cmd.payload.get? "action" = some (.str "home")) :
      Fits e current cmd [.mcu .cameraStepper homing 15000]
  | turn {angle : Extended} {direction timeoutMs : ℤ} (h134 : cmd.signalId = 134)
      (haction : cmd.payload.get? "action" ≠ some (.str "home"))
      (hangle : readFirst looseFloat cmd.payload ["angle", "value"] (.finite 0) = some angle)
      (hdirection : readFirst (looseInt e.casts 0) cmd.payload ["direction"] 0 = some direction)
      (htimeout :
        readFirst (Json.asInt32 e.casts) cmd.payload ["timeout_ms"] 15000 = some timeoutMs)
      (hsent : -1 ≤ timeoutMs) :
      Fits e current cmd [.mcu .cameraStepper
        (((targetAngle current angle direction).scale 100).toInt e.nanCast) timeoutMs]
  | treat {speed : ℤ} {quantity : ℚ} (h85 : cmd.signalId = 85)
      (hquantity :
        readFirst Json.asDouble cmd.payload ["treat_quantity", "value"] 1 = some quantity)
      (hspeed :
        readFirst (Json.asInt32 e.casts) cmd.payload ["treat_speed", "speed"] 3 = some speed) :
      Fits e current cmd [treatRequest speed quantity]
  | photo (h91 : cmd.signalId = 91) :
      Fits e current cmd [.radxa (topicCommand "/commands/photo_capture" 1)]
  | sessionStart (h88 : cmd.signalId = 88) :
      Fits e current cmd [.radxa (topicCommand "/commands/live_session/start" 1)]
  | sessionEnd (h133 : cmd.signalId = 133) :
      Fits e current cmd [.radxa (topicCommand "/commands/live_session/end" 1)]
  | playMusic {actionCode : ℤ} (h137 : cmd.signalId = 137)
      (hcode : playCode e.casts cmd.payload = some actionCode) :
      Fits e current cmd [.radxa (topicCommand "/commands/audio/speakers" actionCode)]
  | stopMusic {actionCode : ℤ} (h138 : cmd.signalId = 138)
      (hcode : stopCode e.casts cmd.payload = some actionCode) :
      Fits e current cmd [.radxa (topicCommand "/commands/audio/speakers" actionCode)]
  | settings (h98 : cmd.signalId = 98) : Fits e current cmd [.radxa cmd.payload]
  | capture (h139 : cmd.signalId = 139) : Fits e current cmd (stepperCommands sweep)

section

variable {e : Surroundings} {w : Worker} {cmd : Command} {h : Handled} {request : Request}

theorem packet_of_sent {peripheral : Peripheral} {value timeoutMs : ℤ} {res : CommandResult}
    (hsent : sendPacketToMcu e timeoutMs = some res) :
    packet peripheral value timeoutMs = some (.mcu peripheral value timeoutMs) := by
  refine if_neg fun hbelow => ?_
  rw [sendPacketToMcu, if_pos hbelow] at hsent
  cases hsent

theorem requests_handleLidActuation (hrun : handleLidActuation e w cmd = some h) :
    h.requests = (askedLid e cmd).toList := by
  simp only [handleLidActuation, Option.bind_eq_bind, Option.bind_eq_some_iff, Option.pure_def,
    Option.some.injEq] at hrun
  obtain ⟨lidId, hlid, payload, hpayload, timeoutMs, htimeout, res, hsent, action, -, data, -,
    rfl⟩ := hrun
  simp only [askedLid, hlid, hpayload, htimeout, Option.bind_eq_bind, Option.bind_some,
    packet_of_sent hsent, Option.toList_some]

theorem requests_rotateCamera {angle : Extended} {valHundreds timeoutMs : ℤ}
    (hrun : rotateCamera e w cmd angle valHundreds timeoutMs = some h) :
    h.requests = (packet .cameraStepper valHundreds timeoutMs).toList := by
  simp only [rotateCamera, Option.bind_eq_bind, Option.bind_eq_some_iff, Option.pure_def,
    Option.some.injEq] at hrun
  obtain ⟨res, hsent, data, -, rfl⟩ := hrun
  rw [packet_of_sent hsent, Option.toList_some]

theorem requests_handleCameraRotation (hrun : handleCameraRotation e w cmd = some h) :
    h.requests = (askedCamera e w cmd).toList := by
  unfold handleCameraRotation at hrun
  unfold askedCamera
  split at hrun
  · rename_i hhome
    simpa only [hhome] using requests_rotateCamera hrun
  · simp only [Option.bind_eq_bind, Option.bind_eq_some_iff] at hrun
    obtain ⟨angle, hangle, direction, hdirection, timeoutMs, htimeout, hrotate⟩ := hrun
    simp only [hangle, hdirection, htimeout, Option.bind_eq_bind, Option.bind_some]
    exact requests_rotateCamera hrotate

theorem requests_handleTreatDispense (hrun : handleTreatDispense e w cmd = some h) :
    h.requests = (askedTreat e cmd).toList := by
  simp only [handleTreatDispense, treatHandled, Option.bind_eq_bind, Option.bind_eq_some_iff,
    Option.pure_def, Option.some.injEq] at hrun
  obtain ⟨quantity, hquantity, speed, hspeed, enriched, -, data, -, rfl⟩ := hrun
  simp only [askedTreat, hquantity, hspeed, Option.bind_eq_bind, Option.bind_some, Option.pure_def,
    Option.toList_some]
  rfl

theorem requests_handleSpeakers {readCode : FloatCasts → Json → Option ℤ}
    (hrun : handleSpeakers readCode e w cmd = some h) :
    h.requests = (askedSpeakers readCode e cmd).toList := by
  simp only [handleSpeakers, Option.bind_eq_bind, Option.bind_eq_some_iff, Option.pure_def,
    Option.some.injEq] at hrun
  obtain ⟨actionCode, hcode, enriched, -, withFile, -, data, -, rfl⟩ := hrun
  simp only [askedSpeakers, hcode, Option.bind_eq_bind, Option.bind_some, Option.pure_def,
    Option.toList_some]

theorem requests_handlePhotoCapture (hrun : handlePhotoCapture e w cmd = some h) :
    h.requests = (if w.video.handlers.privacyModeEnabled then none
      else some (Request.radxa (topicCommand "/commands/photo_capture" 1))).toList := by
  unfold handlePhotoCapture at hrun
  split_ifs at hrun ⊢
  · cases hrun
    rfl
  · simp only [Option.bind_eq_bind, Option.bind_eq_some_iff, Option.pure_def,
      Option.some.injEq] at hrun
    obtain ⟨enriched, -, withSaved, -, withFile, -, data, -, rfl⟩ := hrun
    rfl

/-- A handler that returns has made the request. -/
theorem requests_eq_asked (hrun : runHandler e w cmd = some h) :
    h.requests = (asked e w cmd).toList := by
  unfold runHandler at hrun
  unfold asked
  cases hdispatch : dispatch cmd.signalId with
  | none =>
      rw [hdispatch] at hrun
      cases hrun
      rfl
  | some handler =>
      rw [hdispatch] at hrun
      cases handler with
      | manualLidOpen => cases hrun; rfl
      | manualLidClose => cases hrun; rfl
      | lidActuation => exact requests_handleLidActuation hrun
      | treatDispense => exact requests_handleTreatDispense hrun
      | photoCapture => exact requests_handlePhotoCapture hrun
      | cameraRotation => exact requests_handleCameraRotation hrun
      | playMusic => exact requests_handleSpeakers hrun
      | stopMusic => exact requests_handleSpeakers hrun
      | videoCapture => cases hrun; rfl
      | videoCapturePan => cases hrun; rfl
      | privacyMode => cases hrun; rfl
      | liveSessionStart =>
          simp only [handleLiveSessionStart, Option.bind_eq_bind, Option.bind_eq_some_iff,
            Option.pure_def, Option.some.injEq] at hrun
          obtain ⟨data, -, rfl⟩ := hrun
          rfl
      | liveSessionEnd =>
          simp only [handleLiveSessionEnd, Option.bind_eq_bind, Option.bind_eq_some_iff,
            Option.pure_def, Option.some.injEq] at hrun
          obtain ⟨sessionId, -, data, -, rfl⟩ := hrun
          rfl
      | settingsApply =>
          simp only [handleSettingsApply, Option.bind_eq_bind, Option.bind_eq_some_iff,
            Option.pure_def, Option.some.injEq] at hrun
          obtain ⟨data, -, rfl⟩ := hrun
          rfl

theorem of_packet {peripheral : Peripheral} {value timeoutMs : ℤ}
    (hsent : packet peripheral value timeoutMs = some request) :
    request = .mcu peripheral value timeoutMs ∧ -1 ≤ timeoutMs := by
  unfold packet at hsent
  split_ifs at hsent with hbelow
  exact ⟨(Option.some.inj hsent).symm, not_lt.mp hbelow⟩

variable {current : Extended}

theorem fits_askedLid (h64 : cmd.signalId = 64) (hasked : askedLid e cmd = some request) :
    Fits e current cmd [request] := by
  simp only [askedLid, Option.bind_eq_bind, Option.bind_eq_some_iff] at hasked
  obtain ⟨lidId, hlid, payload, hpayload, timeoutMs, htimeout, hpacket⟩ := hasked
  rw [readFirst_timeout _ (of_rewriteAction hpayload).2.1] at htimeout
  obtain ⟨rfl, hsent⟩ := of_packet hpacket
  exact .lid h64 hlid htimeout hsent

theorem fits_askedCamera (h134 : cmd.signalId = 134) (hasked : askedCamera e w cmd = some request) :
    Fits e w.currentCameraAngle cmd [request] := by
  unfold askedCamera at hasked
  split at hasked
  · rename_i hhome
    obtain ⟨rfl, -⟩ := of_packet hasked
    exact .home h134 hhome
  · rename_i hturn
    simp only [Option.bind_eq_bind, Option.bind_eq_some_iff] at hasked
    obtain ⟨angle, hangle, direction, hdirection, timeoutMs, htimeout, hpacket⟩ := hasked
    obtain ⟨rfl, hsent⟩ := of_packet hpacket
    exact .turn h134 (fun hhome => hturn hhome) hangle hdirection htimeout hsent

theorem fits_askedTreat (h85 : cmd.signalId = 85) (hasked : askedTreat e cmd = some request) :
    Fits e current cmd [request] := by
  simp only [askedTreat, Option.bind_eq_bind, Option.bind_eq_some_iff, Option.pure_def,
    Option.some.injEq] at hasked
  obtain ⟨quantity, hquantity, speed, hspeed, rfl⟩ := hasked
  exact .treat h85 hquantity hspeed

theorem of_askedSpeakers {readCode : FloatCasts → Json → Option ℤ}
    (hasked : askedSpeakers readCode e cmd = some request) :
    ∃ actionCode, readCode e.casts cmd.payload = some actionCode ∧
      request = .radxa (topicCommand "/commands/audio/speakers" actionCode) := by
  simp only [askedSpeakers, Option.bind_eq_bind, Option.bind_eq_some_iff, Option.pure_def,
    Option.some.injEq] at hasked
  obtain ⟨actionCode, hcode, rfl⟩ := hasked
  exact ⟨actionCode, hcode, rfl⟩

theorem signalId_of_dispatch {signalId : ℕ} {handler : Handler}
    (hdispatch : dispatch signalId = some handler) : signalId = handler.signalId := by
  unfold dispatch at hdispatch
  split at hdispatch <;> cases hdispatch <;> rfl

theorem fits_of_asked (hasked : asked e w cmd = some request) :
    Fits e w.currentCameraAngle cmd [request] := by
  unfold asked at hasked
  cases hdispatch : dispatch cmd.signalId with
  | none =>
      rw [hdispatch] at hasked
      cases hasked
  | some handler =>
      have hid := signalId_of_dispatch hdispatch
      rw [hdispatch] at hasked
      cases handler with
      | lidActuation => exact fits_askedLid hid hasked
      | cameraRotation => exact fits_askedCamera hid hasked
      | treatDispense => exact fits_askedTreat hid hasked
      | playMusic =>
          obtain ⟨actionCode, hcode, rfl⟩ := of_askedSpeakers hasked
          exact .playMusic hid hcode
      | stopMusic =>
          obtain ⟨actionCode, hcode, rfl⟩ := of_askedSpeakers hasked
          exact .stopMusic hid hcode
      | liveSessionStart => cases hasked; exact .sessionStart hid
      | liveSessionEnd => cases hasked; exact .sessionEnd hid
      | settingsApply => cases hasked; exact .settings hid
      | photoCapture =>
          dsimp only at hasked
          split_ifs at hasked
          cases hasked
          exact .photo hid
      | _ => cases hasked

theorem moves_handleVideoCapture (x : CommandHandlers) (cmd : Command) :
    (handleVideoCapture x cmd).2.flatMap Thread.moves = [] := by
  unfold handleVideoCapture
  split
  · rfl
  · split
    · split
      · rfl
      · split
        · split <;> rfl
        · rfl
    · rfl
    · split <;> rfl

/-- Only a `#139` starts a thread that moves the camera. -/
theorem moves_handle (x : CommandHandlers) (cmd : Command) (clock : ℤ) :
    (handle x cmd clock).2.flatMap Thread.moves = [] ∨
      cmd.signalId = 139 ∧ (handle x cmd clock).2.flatMap Thread.moves = sweep := by
  unfold handle
  split_ifs with h135 h139 h140
  · exact Or.inl (moves_handleVideoCapture x cmd)
  · dsimp only
    unfold handleVideoCapturePan
    split_ifs
    · exact Or.inl rfl
    · exact Or.inr ⟨h139, rfl⟩
  · exact Or.inl rfl
  · exact Or.inl rfl

theorem asked_eq_none_of_capture (h139 : cmd.signalId = 139) : asked e w cmd = none := by
  unfold asked
  rw [h139]
  rfl

/-- A command that has something asked for may do so. -/
theorem fits_askedInAll (hsome : askedInAll e w cmd ≠ []) :
    Fits e w.currentCameraAngle cmd (askedInAll e w cmd) := by
  unfold askedInAll at hsome ⊢
  rcases moves_handle w.video.handlers cmd e.nowMs with hnone | ⟨h139, hsweep⟩
  · rw [hnone] at hsome ⊢
    cases hasked : asked e w cmd with
    | none =>
        rw [hasked] at hsome
        exact absurd rfl hsome
    | some request => exact fits_of_asked hasked
  · rw [hsweep, asked_eq_none_of_capture h139]
    exact .capture h139

end

/-! ## Privacy -/

/-- The request is for a photo. -/
def Request.IsPhoto : Request → Prop
  | .radxa command => command.get? "topic" = some (.str "/commands/photo_capture")
  | .mcu .. => False

theorem topic_topicCommand (topic : String) (value : ℚ) :
    (topicCommand topic value).get? "topic" = some (.str topic) := rfl

theorem not_isPhoto_topicCommand {topic : String} (hother : topic ≠ "/commands/photo_capture")
    (value : ℚ) : ¬(Request.radxa (topicCommand topic value)).IsPhoto := by
  intro hphoto
  rw [Request.IsPhoto, topic_topicCommand] at hphoto
  exact hother (Json.str.inj (Option.some.inj hphoto))

theorem not_isPhoto_treatRequest (speed : ℤ) (quantity : ℚ) :
    ¬(treatRequest speed quantity).IsPhoto := by
  intro hphoto
  have htopic : some (Json.str "/commands/treat/dispense") =
      some (Json.str "/commands/photo_capture") := hphoto
  exact absurd (Json.str.inj (Option.some.inj htopic)) (by decide)

section

variable {e : Surroundings} {w : Worker} {cmd : Command} {h : Handled} {request : Request}

/-- A photo is asked for as such, or by the settings. -/
theorem Fits.of_photo {current : Extended} {requests : List Request}
    (hfits : Fits e current cmd requests) (hmem : request ∈ requests) (hphoto : request.IsPhoto) :
    cmd.signalId = 91 ∨ cmd.signalId = 98 ∧ request = .radxa cmd.payload := by
  cases hfits with
  | photo h91 => exact Or.inl h91
  | settings h98 => exact Or.inr ⟨h98, List.mem_singleton.mp hmem⟩
  | capture h139 =>
      obtain ⟨value, -, rfl⟩ := List.mem_map.mp hmem
      exact hphoto.elim
  | lid | home | turn =>
      rw [List.mem_singleton.mp hmem] at hphoto
      exact hphoto.elim
  | treat =>
      rw [List.mem_singleton.mp hmem] at hphoto
      exact absurd hphoto (not_isPhoto_treatRequest _ _)
  | sessionStart | sessionEnd | playMusic | stopMusic =>
      rw [List.mem_singleton.mp hmem] at hphoto
      exact absurd hphoto (not_isPhoto_topicCommand (by decide) _)

/-- In privacy mode a photo is asked for by the settings only. -/
theorem settings_of_photo (hprivate : w.video.handlers.privacyModeEnabled = true)
    (hmem : request ∈ askedInAll e w cmd) (hphoto : request.IsPhoto) :
    cmd.signalId = 98 ∧ request = .radxa cmd.payload := by
  rcases (fits_askedInAll (List.ne_nil_of_mem hmem)).of_photo hmem hphoto with h91 | hsettings
  · have hasked : asked e w cmd = none := by
      unfold asked
      rw [h91]
      exact if_pos hprivate
    rcases moves_handle w.video.handlers cmd e.nowMs with hnone | ⟨h139, -⟩
    · rw [askedInAll, hasked, hnone] at hmem
      cases hmem
    · omega
  · exact hsettings

theorem video_rotateCamera {angle : Extended} {valHundreds timeoutMs : ℤ}
    (hrun : rotateCamera e w cmd angle valHundreds timeoutMs = some h) :
    h.worker.video = w.video := by
  simp only [rotateCamera, Option.bind_eq_bind, Option.bind_eq_some_iff, Option.pure_def,
    Option.some.injEq] at hrun
  obtain ⟨res, -, data, -, rfl⟩ := hrun
  rfl

/-- A handler keeps the state of the video handlers, or is one of them. -/
theorem video_of_runHandler (hrun : runHandler e w cmd = some h) :
    (h.worker.video = w.video ∧ cmd.signalId ≠ 140) ∨
      h.worker.video = step w.video (.command cmd e.nowMs) := by
  unfold runHandler at hrun
  cases hdispatch : dispatch cmd.signalId with
  | none =>
      rw [hdispatch] at hrun
      cases hrun
      refine Or.inl ⟨rfl, fun hid => ?_⟩
      rw [hid] at hdispatch
      cases hdispatch
  | some handler =>
      have hid := signalId_of_dispatch hdispatch
      have hother : handler ≠ .privacyMode → cmd.signalId ≠ 140 := by
        rw [hid]
        cases handler <;> decide
      rw [hdispatch] at hrun
      cases handler with
      | videoCapture => cases hrun; exact Or.inr rfl
      | videoCapturePan => cases hrun; exact Or.inr rfl
      | privacyMode => cases hrun; exact Or.inr rfl
      | manualLidOpen => cases hrun; exact Or.inl ⟨rfl, hother Handler.noConfusion⟩
      | manualLidClose => cases hrun; exact Or.inl ⟨rfl, hother Handler.noConfusion⟩
      | cameraRotation =>
          refine Or.inl ⟨?_, hother Handler.noConfusion⟩
          rcases of_handleCameraRotation hrun with ⟨-, hrotate⟩ | ⟨-, _, _, _, -, hrotate⟩
          · exact video_rotateCamera hrotate
          · exact video_rotateCamera hrotate
      | photoCapture =>
          refine Or.inl ⟨?_, hother Handler.noConfusion⟩
          dsimp only [handlePhotoCapture] at hrun
          split_ifs at hrun
          · cases hrun
            rfl
          · simp only [Option.bind_eq_bind, Option.bind_eq_some_iff, Option.pure_def,
              Option.some.injEq] at hrun
            obtain ⟨enriched, -, withSaved, -, withFile, -, data, -, rfl⟩ := hrun
            rfl
      | _ =>
          refine Or.inl ⟨?_, hother Handler.noConfusion⟩
          simp only [handleLidActuation, handleTreatDispense, treatHandled, handleLiveSessionStart,
            handleLiveSessionEnd, handleSettingsApply, handlePlayMusic, handleStopMusic,
            handleSpeakers, Option.bind_eq_bind, Option.bind_eq_some_iff, Option.pure_def,
            Option.some.injEq] at hrun
          grind

/-- Only `#140` changes the privacy setting. -/
theorem privacy_of_runHandler (hrun : runHandler e w cmd = some h) :
    h.worker.video.handlers.privacyModeEnabled =
      if cmd.signalId = 140 then privacyRequested cmd.payload
      else w.video.handlers.privacyModeEnabled := by
  rcases video_of_runHandler hrun with ⟨hvideo, hid⟩ | hvideo
  · rw [hvideo, if_neg hid]
  · rw [hvideo, step_privacy]
    rfl

end

namespace Pipeline

/-! ## Runs -/

/-- The command that an action handles, with what it has asked for, unless that is nothing. -/
def asksAt (s : Pipeline) : Action → List (Entry × List Request)
  | .process e =>
      if s.running then
        (s.current.toList.map fun entry => (entry, askedInAll e s.worker entry.cmd)).filter
          fun ask => ask.2 ≠ []
      else []
  | _ => []

/-- The commands whose handlers have been called. -/
def handled (s : Pipeline) : List Entry :=
  s.processed ++ if s.running then [] else s.current.toList

/-- The message of a number has the command, which is valid. -/
def Sent (messages : List Message) (n : ℕ) (cmd : Command) : Prop :=
  ∃ m, messages[n]? = some m ∧ m.cmd = cmd ∧ cmd.Valid

/-- A pushed command is that of its message, or a manual move of a lid. -/
def Caused (messages : List Message) (entry : Entry) : Prop :=
  match entry.message with
  | some n => Sent messages n entry.cmd
  | none => entry.cmd.signalId = 84 ∨ entry.cmd.signalId = 123

theorem Sent.append {messages : List Message} {n : ℕ} {cmd : Command}
    (hsent : Sent messages n cmd) (later : List Message) : Sent (messages ++ later) n cmd := by
  obtain ⟨m, hm, hrest⟩ := hsent
  obtain ⟨hlt, -⟩ := List.getElem?_eq_some_iff.mp hm
  exact ⟨m, by rw [List.getElem?_append_left hlt, hm], hrest⟩

theorem Caused.append {messages : List Message} {entry : Entry} (hcaused : Caused messages entry)
    (later : List Message) : Caused (messages ++ later) entry := by
  unfold Caused at hcaused ⊢
  split at hcaused
  · exact hcaused.append later
  · exact hcaused

theorem of_mem_asksAt {s : Pipeline} {action : Action} {ask : Entry × List Request}
    (hask : ask ∈ asksAt s action) :
    ∃ e, action = .process e ∧ ask.2 = askedInAll e s.worker ask.1.cmd ∧
      Fits e s.worker.currentCameraAngle ask.1.cmd ask.2 := by
  cases action with
  | process e =>
      rw [asksAt, List.mem_ite_nil_right] at hask
      obtain ⟨hmem, hsome⟩ := List.mem_filter.mp hask.2
      obtain ⟨entry, -, rfl⟩ := List.mem_map.mp hmem
      exact ⟨e, rfl, rfl, fits_askedInAll (of_decide_eq_true hsome)⟩
  | _ => cases hask

section

variable {environment : Option String} {actions : List Action} {ask : Entry × List Request}

end

/-- The last `#140` that was processed enabled privacy. -/
def privacyOf (processed : List Entry) : Bool :=
  processed.foldl (fun enabled entry =>
    if entry.cmd.signalId = 140 then privacyRequested entry.cmd.payload else enabled) false

theorem privacyOf_append_singleton (processed : List Entry) (entry : Entry) :
    privacyOf (processed ++ [entry]) =
      if entry.cmd.signalId = 140 then privacyRequested entry.cmd.payload
      else privacyOf processed := by
  rw [privacyOf, List.foldl_append]
  rfl

/-- In privacy mode only a `#98` asks for a photo, and then as its own payload says. -/
def NoPhotoInPrivacy (environment : Option String) (actions : List Action) : Prop :=
  ∀ earlier e later, actions = earlier ++ .process e :: later →
    privacyOf (run step (start environment) earlier).processed = true →
      ∀ ask ∈ asksAt (run step (start environment) earlier) (.process e),
        ∀ request ∈ ask.2, request.IsPhoto →
          ask.1.cmd.signalId = 98 ∧ request = .radxa ask.1.cmd.payload

theorem privacy_turn {s s' : Pipeline} {action : Action} (hturn : Turn s action s')
    (hs : s.worker.video.handlers.privacyModeEnabled = privacyOf s.processed) :
    s'.worker.video.handlers.privacyModeEnabled = privacyOf s'.processed := by
  cases hturn with
  | @process e entry h hcurrent hrun =>
      show h.worker.video.handlers.privacyModeEnabled = privacyOf (s.processed ++ [entry])
      rw [privacy_of_runHandler hrun, hs, privacyOf_append_singleton]
  | _ => exact hs

theorem privacy_run (environment : Option String) (actions : List Action) :
    (run step (start environment) actions).worker.video.handlers.privacyModeEnabled =
      privacyOf (run step (start environment) actions).processed :=
  @run_induction _ _ step
    (fun s => s.worker.video.handlers.privacyModeEnabled = privacyOf s.processed)
    (fun s action => privacy_turn (turn_step s action)) _ rfl actions

/-- **No photo in privacy mode**: after a processed `#140` that enables privacy, until one that
disables it, only the settings command can ask for a photo, whose payload is passed on unread. -/
theorem noPhoto_run (environment : Option String) (actions : List Action) :
    NoPhotoInPrivacy environment actions := by
  intro earlier e later _ hprivate ask hask request hmem hphoto
  obtain ⟨e', -, hasked, -⟩ := of_mem_asksAt hask
  rw [← privacy_run] at hprivate
  rw [hasked] at hmem
  exact settings_of_photo hprivate hmem hphoto

end Pipeline

end OroEdge.Executor
