import OroEdge.Executor.CameraRange
import Mathlib.Data.List.Forall2

/-!
# The camera to the left and to the right

A move to the left should be the mirror image of a move to the right: with every direction
mirrored, a run of `#134` should send the camera the opposite values.

A move to the right is relative to the angle that is kept, and a move to the left is not:
it ends at the opposite of the angle that is asked for.  So a move to the left mirrors a
move to the right if the camera is at home, or if both of them are constrained to the same
end (`MirrorsAt`), and only then (`targetAngle_mirror_iff`).

The comparison is made one turn at a time.  `requestedTurn` is the handler without the socket:
the angle that it keeps and the packet that it sends, for any reply.  Two payloads that mirror
each other have the same requested angle up to its direction (`handleCameraRotation_eq`), so
that the question is what `targetAngle` makes of it from mirrored states, and this is a matter
of two constrained numbers (`constrained_eq_iff`): they are equal, or both are past the same
end.

In a run the kept angles stay mirror images as long as each turn was one
(`requestedTurn_mirror`), so `RunMirrors` may ask about each turn from the angle that the run
has reached.  The values are rational numbers; how a single rounds is not modelled.
-/

namespace OroEdge.Executor

open OroEdge.Lib

/-! ## What a run sends -/

/-- The angle that a rotation keeps, and the value and the timeout of its packet. -/
structure Turn where
  angle : Extended
  value : ℤ
  timeoutMs : ℤ
  deriving DecidableEq, Repr

/-- `handle_camera_rotation` up to its packet; `none` is an exception before it. -/
def requestedTurn (e : Surroundings) (current : Extended) (payload : Json) : Option Turn :=
  match payload.get? "action" with
  | some (.str "home") => some ⟨.finite 0, 99900, 15000⟩
  | _ => do
      let angle ← readFirst looseFloat payload ["angle", "value"] (.finite 0)
      let direction ← readFirst (looseInt e.casts 0) payload ["direction"] 0
      let target := targetAngle current angle direction
      let timeoutMs ← readFirst (Json.asInt32 e.casts) payload ["timeout_ms"] 15000
      return ⟨target, (target.scale 100).toInt e.nanCast, timeoutMs⟩

/-- The values of the packets for the camera.  An exception, also one after the packet, ends the
worker; a timeout below -1 is one before it. -/
def packetValues : Worker → List (Surroundings × Command) → List ℤ
  | _, [] => []
  | w, input :: inputs =>
      match requestedTurn input.1 w.currentCameraAngle input.2.payload with
      | none => []
      | some turn =>
          if turn.timeoutMs < -1 then []
          else
            turn.value ::
              match rotateCamera input.1 w input.2 turn.angle turn.value turn.timeoutMs with
              | none => []
              | some h => packetValues h.worker inputs

/-! ## Mirror images -/

/-- One command of a mirrored sequence: with the opposite direction, and otherwise the
same.  The angle is a number. -/
structure MirrorImage (casts : FloatCasts) (cmd cmd' : Command) : Prop where
  signalId : cmd.signalId = 134
  same : ∃ payload, cmd' = { cmd with payload }
  direction : ∃ d, (d = 1 ∨ d = -1) ∧
    readFirst (looseInt casts 0) cmd.payload ["direction"] 0 = some d ∧
    readFirst (looseInt casts 0) cmd'.payload ["direction"] 0 = some (-d)
  other : ∀ key ≠ "direction", cmd'.payload.get? key = cmd.payload.get? key
  angle : ∀ x, readFirst looseFloat cmd.payload ["angle", "value"] (.finite 0) = some x →
    ∃ a, x = .finite a

/-- The same replies, to commands that mirror each other. -/
def MirrorInput (input input' : Surroundings × Command) : Prop :=
  input'.1 = input.1 ∧ MirrorImage input.1.casts input.2 input'.2

/-- From the angle `c` the move to the left ends where it should: at home, or where both
moves are constrained. -/
def MirrorsAt (c a : ℚ) : Prop :=
  c = 0 ∨ (a ≤ -90 ∧ 90 ≤ c - a) ∨ (90 ≤ a ∧ c - a ≤ -90)

/-- A rotation is no way home, and mirrors its image: of the two, the one to the left
starts from `-d * c`. -/
def TurnMirrors (casts : FloatCasts) (current : Extended) (payload : Json) : Prop :=
  payload.get? "action" ≠ some (.str "home") ∧
    ∀ (c a : ℚ) (d : ℤ), current = .finite c →
      readFirst looseFloat payload ["angle", "value"] (.finite 0) = some (.finite a) →
      readFirst (looseInt casts 0) payload ["direction"] 0 = some d → MirrorsAt (-d * c) a

/-- All the rotations of a run mirror their images. -/
def RunMirrors : Worker → List (Surroundings × Command) → Prop
  | _, [] => True
  | w, input :: inputs =>
      TurnMirrors input.1.casts w.currentCameraAngle input.2.payload ∧
        ∀ h, handleCameraRotation input.1 w input.2 = some h → RunMirrors h.worker inputs

/-! ## One turn -/

section

variable {e : Surroundings} {w : Worker} {cmd : Command}

theorem handleCameraRotation_eq :
    handleCameraRotation e w cmd =
      (requestedTurn e w.currentCameraAngle cmd.payload).bind fun turn =>
        rotateCamera e w cmd turn.angle turn.value turn.timeoutMs := by
  unfold handleCameraRotation requestedTurn
  split <;> simp [Option.bind_assoc, *]

theorem requestedTurn_of_ne_home {current : Extended} {payload : Json}
    (haction : payload.get? "action" ≠ some (.str "home")) :
    requestedTurn e current payload = (do
      let angle ← readFirst looseFloat payload ["angle", "value"] (.finite 0)
      let direction ← readFirst (looseInt e.casts 0) payload ["direction"] 0
      let timeoutMs ← readFirst (Json.asInt32 e.casts) payload ["timeout_ms"] 15000
      return ⟨targetAngle current angle direction,
        ((targetAngle current angle direction).scale 100).toInt e.nanCast, timeoutMs⟩) := by
  unfold requestedTurn
  split
  · rename_i hhome
    exact absurd hhome haction
  · rfl

/-- A rotation returns or not, whatever its angle is. -/
theorem exists_rotateCamera {h : Handled} {angle : Extended} {value timeoutMs : ℤ}
    (hrun : rotateCamera e w cmd angle value timeoutMs = some h) (w' : Worker) (cmd' : Command)
    (angle' : Extended) (value' : ℤ) :
    ∃ h', rotateCamera e w' cmd' angle' value' timeoutMs = some h' := by
  simp only [rotateCamera, Option.bind_eq_bind, Option.bind_eq_some_iff] at hrun
  obtain ⟨res, hres, data, hdata, -⟩ := hrun
  obtain ⟨data', hdata'⟩ :=
    Json.exists_setAll? (Json.isObject_of_setAll? hdata).1 (rotationFields e cmd' angle')
  refine ⟨⟨{ w' with currentCameraAngle := angle' }, cmd', ⟨true, res.failureReason, data'⟩,
    [.mcu .cameraStepper value' timeoutMs]⟩, ?_⟩
  simp [rotateCamera, hres, hdata']

theorem rotateCamera_eq_none {angle : Extended} {value timeoutMs : ℤ}
    (hrun : rotateCamera e w cmd angle value timeoutMs = none) (w' : Worker) (cmd' : Command)
    (angle' : Extended) (value' : ℤ) :
    rotateCamera e w' cmd' angle' value' timeoutMs = none := by
  rw [Option.eq_none_iff_forall_ne_some]
  intro h' hrun'
  obtain ⟨h, hsome⟩ := exists_rotateCamera hrun' w cmd angle value
  rw [hrun] at hsome
  cases hsome

theorem readFirst_congr {α : Type} {read : Json → Option α} {payload payload' : Json}
    {keys : List String} {fallback : α}
    (hsame : ∀ key ∈ keys, payload'.get? key = payload.get? key) :
    readFirst read payload' keys fallback = readFirst read payload keys fallback := by
  have hfind : keys.findSome? payload'.get? = keys.findSome? payload.get? := by
    induction keys with
    | nil => rfl
    | cons key keys ih =>
        rw [List.findSome?_cons, List.findSome?_cons, hsame key List.mem_cons_self,
          ih fun key hkey => hsame key (List.mem_cons_of_mem _ hkey)]
  unfold readFirst
  rw [hfind]

end

/-! ### The angles -/

theorem constrainAngle_finite (q : ℚ) :
    constrainAngle (.finite q) = .finite (max (-90) (min q 90)) := by
  by_cases hlow : q < -90
  · have hmin : min q 90 = q := min_eq_left (by linarith)
    rw [hmin, max_eq_left hlow.le]
    simp [constrainAngle, Extended.below, Extended.above, hlow]
  · by_cases hhigh : 90 < q
    · rw [min_eq_right hhigh.le, max_eq_right (by norm_num)]
      simp [constrainAngle, Extended.below, Extended.above, hlow, hhigh]
    · rw [min_eq_left (not_lt.mp hhigh), max_eq_right (not_lt.mp hlow)]
      simp [constrainAngle, Extended.below, Extended.above, hlow, hhigh]

theorem targetAngle_eq_finite (c a : ℚ) (d : ℤ) :
    ∃ q, targetAngle (.finite c) (.finite a) d = .finite q := by
  unfold targetAngle requestedAngle
  split_ifs
  · exact ⟨_, constrainAngle_finite (c + a)⟩
  · exact ⟨_, constrainAngle_finite (-a)⟩
  · exact ⟨_, constrainAngle_finite a⟩

theorem targetAngle_left (c a : ℚ) :
    targetAngle (.finite c) (.finite a) (-1) = .finite (max (-90) (min (-a) 90)) :=
  constrainAngle_finite (-a)

theorem targetAngle_right (c a : ℚ) :
    targetAngle (.finite c) (.finite a) 1 = .finite (max (-90) (min (c + a) 90)) :=
  constrainAngle_finite (c + a)

theorem constrained_neg (q : ℚ) : -(max (-90) (min q 90)) = max (-90) (min (-q) 90) := by
  grind

/-- Two angles are constrained to the same one only if they are equal, or beyond the same
end. -/
theorem constrained_eq_iff {p q : ℚ} :
    max (-90) (min p 90) = max (-90) (min q 90) ↔
      p = q ∨ (90 ≤ p ∧ 90 ≤ q) ∨ (p ≤ -90 ∧ q ≤ -90) := by
  grind

/-- **One move, exactly.** -/
theorem targetAngle_mirror_iff (c a : ℚ) :
    targetAngle (.finite c) (.finite a) (-1) = (targetAngle (.finite (-c)) (.finite a) 1).neg ↔
      MirrorsAt c a := by
  rw [targetAngle_left, targetAngle_right]
  show Extended.finite _ = Extended.finite (-(max (-90) (min (-c + a) 90))) ↔ _
  rw [Extended.finite.injEq, constrained_neg, constrained_eq_iff]
  unfold MirrorsAt
  constructor
  · rintro (heq | ⟨hp, hq⟩ | ⟨hp, hq⟩)
    · left; linarith
    · right; left; constructor <;> linarith
    · right; right; constructor <;> linarith
  · rintro (rfl | ⟨hp, hq⟩ | ⟨hp, hq⟩)
    · left; ring
    · right; left; constructor <;> linarith
    · right; right; constructor <;> linarith

/-- A move to one side is the mirror image of a move to the other. -/
theorem targetAngle_neg {c a : ℚ} {d : ℤ} (hd : d = 1 ∨ d = -1) (hmirrors : MirrorsAt (-d * c) a) :
    targetAngle (.finite (-c)) (.finite a) (-d) = (targetAngle (.finite c) (.finite a) d).neg := by
  rcases hd with rfl | rfl
  · have hleft := (targetAngle_mirror_iff (-c) a).mpr (by simpa using hmirrors)
    rwa [neg_neg] at hleft
  · have hleft := (targetAngle_mirror_iff c a).mpr (by simpa using hmirrors)
    rw [hleft]
    exact (Extended.neg_neg _).symm

/-! ## A run -/

/-- The turn to the other side. -/
def Turn.opposite (turn : Turn) : Turn := ⟨turn.angle.neg, -turn.value, turn.timeoutMs⟩

theorem requestedTurn_mirror {e : Surroundings} {c : ℚ} {cmd cmd' : Command}
    (himage : MirrorImage e.casts cmd cmd')
    (hmirrors : TurnMirrors e.casts (.finite c) cmd.payload) :
    requestedTurn e (.finite (-c)) cmd'.payload =
      (requestedTurn e (.finite c) cmd.payload).map Turn.opposite := by
  obtain ⟨d, hd, hdirection, hdirection'⟩ := himage.direction
  obtain ⟨haction, hat⟩ := hmirrors
  have hangle' : readFirst looseFloat cmd'.payload ["angle", "value"] (.finite 0) =
      readFirst looseFloat cmd.payload ["angle", "value"] (.finite 0) :=
    readFirst_congr fun key hkey => himage.other key (by rintro rfl; simp at hkey)
  have htimeout' : readFirst (Json.asInt32 e.casts) cmd'.payload ["timeout_ms"] 15000 =
      readFirst (Json.asInt32 e.casts) cmd.payload ["timeout_ms"] 15000 :=
    readFirst_congr fun key hkey => himage.other key (by rintro rfl; simp at hkey)
  have haction' : cmd'.payload.get? "action" ≠ some (.str "home") := by
    rwa [himage.other "action" (by decide)]
  rw [requestedTurn_of_ne_home haction, requestedTurn_of_ne_home haction', hangle', htimeout',
    hdirection, hdirection']
  cases hangle : readFirst looseFloat cmd.payload ["angle", "value"] (.finite 0) with
  | none => rfl
  | some x =>
      obtain ⟨a, rfl⟩ := himage.angle x hangle
      cases htimeout : readFirst (Json.asInt32 e.casts) cmd.payload ["timeout_ms"] 15000 with
      | none => rfl
      | some timeoutMs =>
          have hneg := targetAngle_neg hd (hat c a d rfl hangle hdirection)
          obtain ⟨q, hq⟩ := targetAngle_eq_finite c a d
          show some (Turn.mk _ _ _) = some (Turn.mk _ _ _)
          rw [hneg, hq]
          show some (Turn.mk _ (truncated (-q * 100)) _) = some (Turn.mk _ (-truncated (q * 100)) _)
          rw [neg_mul, truncated_neg]

/-- The angle that a turn keeps is a number, if the angle before it is. -/
theorem exists_angle_of_requestedTurn {e : Surroundings} {c : ℚ} {cmd cmd' : Command} {turn : Turn}
    (himage : MirrorImage e.casts cmd cmd')
    (hturn : requestedTurn e (.finite c) cmd.payload = some turn) :
    ∃ q, turn.angle = .finite q := by
  by_cases haction : cmd.payload.get? "action" = some (.str "home")
  · unfold requestedTurn at hturn
    rw [haction] at hturn
    cases hturn
    exact ⟨0, rfl⟩
  · rw [requestedTurn_of_ne_home haction] at hturn
    simp only [Option.bind_eq_bind, Option.bind_eq_some_iff, Option.pure_def,
      Option.some.injEq] at hturn
    obtain ⟨x, hangle, d, -, timeoutMs, -, rfl⟩ := hturn
    obtain ⟨a, rfl⟩ := himage.angle x hangle
    exact targetAngle_eq_finite c a d

theorem packetValues_mirror {w w' : Worker} {c : ℚ} {inputs inputs' : List (Surroundings × Command)}
    (hw : w.currentCameraAngle = .finite c) (hw' : w'.currentCameraAngle = .finite (-c))
    (himages : List.Forall₂ MirrorInput inputs inputs') (hmirrors : RunMirrors w inputs) :
    packetValues w' inputs' = (packetValues w inputs).map fun value => -value := by
  induction himages generalizing w w' c with
  | nil => rfl
  | @cons input input' inputs inputs' himage _ ih =>
      obtain ⟨hsame, himage⟩ := himage
      obtain ⟨hturns, hrest⟩ := hmirrors
      rw [hw] at hturns
      have hopposite := requestedTurn_mirror himage hturns
      unfold packetValues
      rw [hsame, hw, hw', hopposite]
      cases hturn : requestedTurn input.1 (.finite c) input.2.payload with
      | none => rfl
      | some turn =>
          obtain ⟨q, hq⟩ := exists_angle_of_requestedTurn himage hturn
          by_cases hlow : turn.timeoutMs < -1
          · simp [Turn.opposite, hlow]
          cases hrun : rotateCamera input.1 w input.2 turn.angle turn.value turn.timeoutMs with
          | none =>
              have hrun' := rotateCamera_eq_none hrun w' input'.2 turn.angle.neg (-turn.value)
              simp [Turn.opposite, hlow, hrun, hrun']
          | some h =>
              obtain ⟨h', hrun'⟩ :=
                exists_rotateCamera hrun w' input'.2 turn.angle.neg (-turn.value)
              have hkept := (of_rotateCamera hrun).2.1
              have hkept' := (of_rotateCamera hrun').2.1
              rw [hq] at hkept hkept'
              have hhandled : handleCameraRotation input.1 w input.2 = some h := by
                rw [handleCameraRotation_eq, hw, hturn]
                exact hrun
              have htail := ih hkept hkept' (hrest h hhandled)
              simp [Turn.opposite, hlow, hrun, hrun', htail]

/-- In a run that returns, the packets are those of the handlers. -/
theorem packetValues_of_handlerRun {w : Worker} {inputs : List (Surroundings × Command)}
    {handled : List Handled} (hcamera : ∀ input ∈ inputs, input.2.signalId = 134)
    (hrun : handlerRun w inputs = some handled) :
    List.Forall₂ (fun value h => ∃ timeoutMs, h.requests = [.mcu .cameraStepper value timeoutMs])
      (packetValues w inputs) handled := by
  induction inputs generalizing w handled with
  | nil =>
      cases hrun
      exact .nil
  | cons input inputs ih =>
      simp only [handlerRun, Option.bind_eq_bind, Option.bind_eq_some_iff, Option.pure_def,
        Option.some.injEq] at hrun
      obtain ⟨h, hfirst, rest, hrest, rfl⟩ := hrun
      rw [List.forall_mem_cons] at hcamera
      rw [runHandler_cameraRotation hcamera.1, handleCameraRotation_eq,
        Option.bind_eq_some_iff] at hfirst
      obtain ⟨turn, hturn, hrotate⟩ := hfirst
      have htail := ih hcamera.2 hrest
      unfold packetValues
      have hlow : ¬ turn.timeoutMs < -1 := by
        intro hlow
        simp [rotateCamera, sendPacketToMcu, hlow] at hrotate
      simp only [hturn, if_neg hlow, hrotate]
      exact .cons ⟨turn.timeoutMs, (of_rotateCamera hrotate).2.2⟩ htail

/-! ## Main theorem -/

/-- **The camera to the left and to the right, exactly.**  A move to the left mirrors the one to
the right from the mirrored angle if and only if it is in a place where it can; and in a
run of such moves from home, mirrored directions mirror all values that are sent. -/
theorem camera_mirror (environment : Option String) :
    (∀ c a : ℚ, -90 ≤ c → c ≤ 90 →
      (targetAngle (.finite c) (.finite a) (-1) = (targetAngle (.finite (-c)) (.finite a) 1).neg ↔
        MirrorsAt c a)) ∧
      ∀ inputs inputs' : List (Surroundings × Command),
        List.Forall₂ MirrorInput inputs inputs' → RunMirrors (.construct environment) inputs →
        packetValues (.construct environment) inputs' =
          (packetValues (.construct environment) inputs).map fun value => -value := by
  refine ⟨fun c a _ _ => targetAngle_mirror_iff c a, ?_⟩
  intro inputs inputs' himages hmirrors
  exact packetValues_mirror (c := 0) rfl (by rw [neg_zero]; rfl) himages hmirrors

/-! ### Moves to both sides -/

/-- `#134` with an angle and a direction. -/
def move (angle direction : ℤ) : Command :=
  ⟨134, "", "cmd-1", "owner", 0, .obj [("angle", .int angle), ("direction", .int direction)]⟩

theorem mirrorInput_move (angle : ℤ) {d : ℤ} (hd : d = 1 ∨ d = -1) :
    MirrorInput (turning, move angle d) (turning, move angle (-d)) := by
  refine ⟨rfl, rfl, ⟨_, rfl⟩, ⟨d, hd, ?_, ?_⟩, ?_, ?_⟩
  · rcases hd with rfl | rfl <;> rfl
  · rcases hd with rfl | rfl <;> rfl
  · intro key hkey
    have hother : (key == "direction") = false := by simpa using hkey
    simp [move, Json.get?, List.lookup_cons, hother]
  · intro x hangle
    have hread : looseFloat (.int angle) = some x := hangle
    exact ⟨angle, (Option.some.inj hread).symm⟩

/-- From home, and then as far as the camera goes. -/
theorem camera_mirror_to_end :
    packetValues (.construct none) [(turning, move 30 (-1)), (turning, move 100 (-1))] =
      (packetValues (.construct none) [(turning, move 30 1), (turning, move 100 1)]).map
        fun value => -value := by
  refine (camera_mirror none).2 _ _
    (.cons (mirrorInput_move 30 (Or.inl rfl)) (.cons (mirrorInput_move 100 (Or.inl rfl)) .nil)) ?_
  have hdirection (angle : ℤ) :
      readFirst (looseInt turning.casts 0) (move angle 1).payload ["direction"] 0 = some 1 := rfl
  have hangle (angle : ℤ) : readFirst looseFloat (move angle 1).payload ["angle", "value"]
      (.finite 0) = some (.finite angle) := rfl
  have haction (angle : ℤ) : (move angle 1).payload.get? "action" ≠ some (.str "home") := by
    simp [move, Json.get?, List.lookup_cons]
  refine ⟨⟨haction 30, ?_⟩, fun h hfirst => ⟨⟨haction 100, ?_⟩, fun _ _ => trivial⟩⟩
  · rintro c a d hc ha hd
    cases hc
    exact Or.inl (mul_zero _)
  · rintro c a d hc ha hd
    have hturn : requestedTurn turning (Worker.construct none).currentCameraAngle
        (move 30 1).payload = some ⟨.finite 30, 3000, 15000⟩ := by decide +kernel
    have hkept : h.worker.currentCameraAngle = .finite 30 := by
      rw [handleCameraRotation_eq, hturn] at hfirst
      exact (of_rotateCamera hfirst).2.1
    rw [hkept] at hc
    cases hc
    cases (hangle 100).symm.trans ha
    cases (hdirection 100).symm.trans hd
    right; right
    norm_num

/-- **Failing input.**  To the right by 30 degrees and then to the left by 10, and the other
way round: the camera ends at -10 degrees, and at -20. -/
theorem not_camera_mirror :
    targetAngle (.finite 30) (.finite 10) (-1) ≠
        (targetAngle (.finite (-30)) (.finite 10) 1).neg ∧
      List.Forall₂ MirrorInput [(turning, move 30 1), (turning, move 10 (-1))]
        [(turning, move 30 (-1)), (turning, move 10 1)] ∧
      packetValues (.construct none) [(turning, move 30 1), (turning, move 10 (-1))] =
        [3000, -1000] ∧
      packetValues (.construct none) [(turning, move 30 (-1)), (turning, move 10 1)] =
        [-3000, -2000] := by
  refine ⟨by decide +kernel, ?_, by decide +kernel, by decide +kernel⟩
  exact .cons (mirrorInput_move 30 (Or.inl rfl)) (.cons (mirrorInput_move 10 (Or.inr rfl)) .nil)

end OroEdge.Executor
