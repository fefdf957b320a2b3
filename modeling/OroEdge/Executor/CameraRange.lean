import OroEdge.Executor.Frame
import Mathlib.Tactic.Linarith

/-!
# The range of the camera

The camera should be turned within its mechanical range: by at most 90 degrees to either
side, in hundredths of a degree, or home; and the angle that is kept should be in the same
range after every command (`CameraInRange`).

Two comparisons constrain an angle, and a NaN passes both.  An infinity does not, and the
sum of an infinity and an angle that is kept is no NaN.  So the property holds in a run
exactly if no command asks for a NaN (`cameraInRange_run_iff`).

The comparisons are those of the source, one with each end of the range, on numbers that may be
infinite or no number at all (`Extended`).  That is why they are not written as a clamp: a clamp
would bring a NaN into the range, and the two comparisons let it pass (`constrainAngle_nan`,
`mechanical_constrainAngle`).

The theorem about a run is first proved from an arbitrary angle in the range, by induction on
the commands (`cameraInRange_run_iff_of_mechanical`).  One command either keeps the angle in the
range and sends a value that is a hundred times such an angle (`hundredths_of_mechanical`), or
asks for a NaN, and then the property fails there, whatever comes afterwards.
-/

namespace OroEdge.Executor

open OroEdge.Lib

/-! ## The property -/

/-- An angle that the camera can be turned to. -/
def Mechanical (angle : Extended) : Prop := ∃ q, angle = .finite q ∧ -90 ≤ q ∧ q ≤ 90

/-- What a command makes the camera do. -/
structure CameraInRange (cmd : Command) (h : Handled) : Prop where
  values : ∀ value timeoutMs, .mcu .cameraStepper value timeoutMs ∈ h.requests →
    (-9000 ≤ value ∧ value ≤ 9000) ∨
      (value = 99900 ∧ cmd.payload.get? "action" = some (.str "home"))
  angle : Mechanical h.worker.currentCameraAngle

/-- The handlers of commands in a row, if all of them return. -/
def handlerRun : Worker → List (Surroundings × Command) → Option (List Handled)
  | _, [] => some []
  | w, input :: inputs => do
      let h ← runHandler input.1 w input.2
      let rest ← handlerRun h.worker inputs
      return h :: rest

/-- The command asks for an angle that is a NaN. -/
def AsksNan (cmd : Command) : Prop :=
  cmd.signalId = 134 ∧ cmd.payload.get? "action" ≠ some (.str "home") ∧
    readFirst looseFloat cmd.payload ["angle", "value"] (.finite 0) = some .nan

/-! ## The comparisons -/

theorem constrainAngle_nan : constrainAngle .nan = .nan := rfl

/-- Any other angle is brought into the range. -/
theorem mechanical_constrainAngle {target : Extended} (htarget : target ≠ .nan) :
    Mechanical (constrainAngle target) := by
  cases target with
  | nan => exact absurd rfl htarget
  | negInf => exact ⟨-90, rfl, by decide, by decide⟩
  | posInf => exact ⟨90, rfl, by decide, by decide⟩
  | finite q =>
      by_cases hlow : q < -90
      · refine ⟨-90, ?_, by decide, by decide⟩
        simp [constrainAngle, Extended.below, Extended.above, hlow]
      by_cases hhigh : 90 < q
      · refine ⟨90, ?_, by decide, by decide⟩
        simp [constrainAngle, Extended.below, Extended.above, hlow, hhigh]
      · refine ⟨q, ?_, not_lt.mp hlow, not_lt.mp hhigh⟩
        simp [constrainAngle, Extended.below, Extended.above, hlow, hhigh]

theorem requestedAngle_eq_nan_iff {q : ℚ} {angle : Extended} {direction : ℤ} :
    requestedAngle (.finite q) angle direction = .nan ↔ angle = .nan := by
  unfold requestedAngle
  split_ifs
  · exact Extended.finite_add_eq_nan_iff
  · exact Extended.neg_eq_nan_iff
  · exact Iff.rfl

/-- From an angle in the range, an angle in the range is reached, unless a NaN is asked for. -/
theorem mechanical_targetAngle_iff {current angle : Extended} (hcurrent : Mechanical current)
    (direction : ℤ) : Mechanical (targetAngle current angle direction) ↔ angle ≠ .nan := by
  obtain ⟨q, rfl, -, -⟩ := hcurrent
  unfold targetAngle
  constructor
  · rintro hmechanical rfl
    rw [requestedAngle_eq_nan_iff.mpr rfl, constrainAngle_nan] at hmechanical
    obtain ⟨p, hp, -⟩ := hmechanical
    cases hp
  · intro hangle
    exact mechanical_constrainAngle (mt requestedAngle_eq_nan_iff.mp hangle)

/-- The hundredths of an angle in the range. -/
theorem hundredths_of_mechanical {angle : Extended} (hangle : Mechanical angle)
    (nanCast : ℤ) : -9000 ≤ (angle.scale 100).toInt nanCast ∧
      (angle.scale 100).toInt nanCast ≤ 9000 := by
  obtain ⟨q, rfl, hlow, hhigh⟩ := hangle
  show -9000 ≤ truncated (q * 100) ∧ truncated (q * 100) ≤ 9000
  constructor
  · apply le_truncated
    push_cast
    linarith
  · apply truncated_le
    push_cast
    linarith

/-! ## Main theorem -/

section

variable {e : Surroundings} {w : Worker} {cmd : Command} {h : Handled}

/-- A step from an angle in the range. -/
theorem cameraInRange_iff (hw : Mechanical w.currentCameraAngle)
    (hrun : runHandler e w cmd = some h) : CameraInRange cmd h ↔ ¬ AsksNan cmd := by
  by_cases h134 : cmd.signalId = 134
  · rw [runHandler_cameraRotation h134] at hrun
    rcases of_handleCameraRotation hrun with ⟨haction, hrotate⟩ |
      ⟨haction, angle, direction, timeoutMs, hangle, hrotate⟩
    · obtain ⟨-, hkept, hrequests⟩ := of_rotateCamera hrotate
      refine iff_of_true ⟨fun value timeoutMs hmem => ?_, ?_⟩ fun hasks => hasks.2.1 haction
      · rw [hrequests, List.mem_singleton] at hmem
        cases hmem
        exact Or.inr ⟨rfl, haction⟩
      · rw [hkept]
        exact ⟨0, rfl, by decide, by decide⟩
    · obtain ⟨-, hkept, hrequests⟩ := of_rotateCamera hrotate
      have hasks : AsksNan cmd ↔ angle = .nan := by
        simp [AsksNan, h134, haction, hangle]
      rw [hasks, ← ne_eq, ← mechanical_targetAngle_iff hw direction]
      constructor
      · intro hin
        rw [← hkept]
        exact hin.angle
      · intro hmechanical
        refine ⟨fun value timeoutMs hmem => ?_, by rw [hkept]; exact hmechanical⟩
        rw [hrequests, List.mem_singleton] at hmem
        cases hmem
        exact Or.inl (hundredths_of_mechanical hmechanical _)
  · have hkeeps := keeps_of_runHandler hrun h134
    refine iff_of_true ⟨fun value timeoutMs hmem => ?_, ?_⟩ fun hasks => h134 hasks.1
    · exact absurd hmem (hkeeps.requests value timeoutMs)
    · rw [hkeeps.angle]
      exact hw

end

theorem cameraInRange_run_iff_of_mechanical {w : Worker} {inputs : List (Surroundings × Command)}
    {handled : List Handled} (hw : Mechanical w.currentCameraAngle)
    (hrun : handlerRun w inputs = some handled) :
    List.Forall₂ (fun input h => CameraInRange input.2 h) inputs handled ↔
      ∀ input ∈ inputs, ¬ AsksNan input.2 := by
  induction inputs generalizing w handled with
  | nil =>
      cases hrun
      simp
  | cons input inputs ih =>
      simp only [handlerRun, Option.bind_eq_bind, Option.bind_eq_some_iff, Option.pure_def,
        Option.some.injEq] at hrun
      obtain ⟨h, hfirst, rest, hrest, rfl⟩ := hrun
      have hstep := cameraInRange_iff hw hfirst
      rw [List.forall₂_cons, List.forall_mem_cons, ← hstep]
      constructor
      · rintro ⟨hin, hrestIn⟩
        exact ⟨hin, (ih hin.angle hrest).mp hrestIn⟩
      · rintro ⟨hin, hasks⟩
        exact ⟨hin, (ih hin.angle hrest).mpr hasks⟩

/-- **The range of the camera, exactly.**  The commands of a run keep the camera in its range if
and only if none of them asks for a NaN. -/
theorem cameraInRange_run_iff (environment : Option String)
    (inputs : List (Surroundings × Command)) (handled : List Handled)
    (hrun : handlerRun (.construct environment) inputs = some handled) :
    List.Forall₂ (fun input h => CameraInRange input.2 h) inputs handled ↔
      ∀ input ∈ inputs, ¬ AsksNan input.2 :=
  cameraInRange_run_iff_of_mechanical ⟨0, rfl, by decide, by decide⟩ hrun

/-! ### Two turns, and a NaN -/

/-- The MCU replies in time. -/
def turning : Surroundings := ⟨0, .reply (.text "OK"), .text "", .saturating, -2147483648⟩

/-- `#134`, with an angle, relative to the one that is kept. -/
def turnBy (angle : Json) : Command :=
  ⟨134, "", "cmd-1", "owner", 0, .obj [("angle", angle), ("direction", .int 1)]⟩

/-- Twice 60 degrees to the right, of which the second is constrained. -/
theorem cameraInRange_twice : ∃ handled,
    handlerRun (.construct none) [(turning, turnBy (.int 60)), (turning, turnBy (.int 60))] =
        some handled ∧
      List.Forall₂ (fun input h => CameraInRange input.2 h)
        [(turning, turnBy (.int 60)), (turning, turnBy (.int 60))] handled := by
  obtain ⟨handled, hrun⟩ : ∃ handled, handlerRun (.construct none)
      [(turning, turnBy (.int 60)), (turning, turnBy (.int 60))] = some handled := ⟨_, rfl⟩
  refine ⟨handled, hrun, (cameraInRange_run_iff none _ handled hrun).mpr fun input hinput => ?_⟩
  have hinput : input = (turning, turnBy (.int 60)) := by simpa using hinput
  rw [hinput]
  rintro ⟨-, -, hnan⟩
  cases hnan

/-- **Failing input.**  The angle `nan` is sent to the camera as the least integer, and kept. -/
theorem not_cameraInRange_nan : ∃ h,
    handlerRun (.construct none) [(turning, turnBy (.str "nan"))] = some [h] ∧
      h.requests = [.mcu .cameraStepper (-2147483648) 15000] ∧
      h.worker.currentCameraAngle = .nan ∧
      ¬ List.Forall₂ (fun input h => CameraInRange input.2 h) [(turning, turnBy (.str "nan"))]
        [h] := by
  have hstof : stof "nan" = some .nan := by decide +kernel
  have hangle : readFirst looseFloat (turnBy (.str "nan")).payload ["angle", "value"] (.finite 0) =
      some .nan := hstof
  obtain ⟨h, hrun, hrequests, hkept⟩ : ∃ h,
      runHandler turning (.construct none) (turnBy (.str "nan")) = some h ∧
        h.requests = [.mcu .cameraStepper (-2147483648) 15000] ∧
        h.worker.currentCameraAngle = .nan := by
    show ∃ h, handleCameraRotation turning (.construct none) (turnBy (.str "nan")) = some h ∧ _
    unfold handleCameraRotation
    rw [hangle]
    exact ⟨_, rfl, rfl, rfl⟩
  have hrun : handlerRun (.construct none) [(turning, turnBy (.str "nan"))] = some [h] := by
    simp [handlerRun, hrun]
  refine ⟨h, hrun, hrequests, hkept, fun hin => ?_⟩
  have hasks := (cameraInRange_run_iff_of_mechanical ⟨0, rfl, by decide, by decide⟩ hrun).mp hin
  exact hasks _ List.mem_cons_self ⟨rfl, by simp [turnBy, Json.get?, List.lookup_cons], hangle⟩

end OroEdge.Executor
