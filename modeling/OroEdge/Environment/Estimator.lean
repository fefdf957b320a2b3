import Mathlib.Algebra.Order.Ring.Abs
import OroEdge.Lib.Word

/-!
# The light estimator

`AmbientLightEstimator` turns video frames into an estimate of the ambient light.  It
drops frames that it cannot decode or that are overexposed, and keeps the estimate of the
last accepted frame (`receive_of_rejected`).

A frame is what is left of it after decoding and resizing: its declared size, the size of
its data, and how many pixels of the resized luminance have each value.  Floating-point
numbers are exact rationals, with `std::pow` as a parameter.

Decoding and resizing are the video library's and are not modelled; what they can return is the
luminance or nothing, and the estimator looks at it through the histogram only.  The size of a
message is checked before that with products that wrap, as in the source, and a message that is
too short for its header is dropped with the others.

The state is two numbers, and -1 stands for a number that has not been set.  It is kept as a
number, because the code takes a negative one for unset wherever it comes from.
-/

namespace OroEdge.Environment

open OroEdge.Lib

/-! ## Frames -/

/-- The histogram of an image of 160 × 120 pixels: how many pixels have the value 0, 1, … -/
structure Histogram where
  bins : List ℕ
  total : bins.sum = 160 * 120
  deriving DecidableEq, Repr

/-- The number of pixels with a value of at least `value`. -/
def Histogram.above (h : Histogram) (value : ℕ) : ℕ := (h.bins.drop value).sum

/-- The values of the pixels in ascending order. -/
def Histogram.pixels (h : Histogram) : List ℕ :=
  h.bins.zipIdx.flatMap fun bin => List.replicate bin.1 bin.2

/-- A decoded frame; `luminance` is `none` if the conversion fails or returns nothing. -/
structure VideoFrame where
  width : ℕ
  height : ℕ
  dataSize : ℕ
  luminance : Option Histogram
  deriving DecidableEq, Repr

/-! ## The estimator -/

/-- The constants of the estimator; `pow` is `std::pow`. -/
structure LightModel where
  pow : ℚ → ℚ → ℚ
  modelA : ℚ
  modelB : ℚ
  emaAlpha : ℚ
  percentile : ℤ

/-- What the estimator keeps: the last light that it has told, and the smoothed brightness. -/
structure AmbientLightEstimator where
  latestLux : ℚ
  latestConfidence : ℚ
  latestBucket : String
  smoothedBrightness : ℚ
  deriving DecidableEq, Repr

/-- The result for one frame, with how far it can be trusted. -/
structure Brightness where
  value : ℚ
  confidence : ℚ
  deriving DecidableEq, Repr

/-- A bucket begins at its least light. -/
def classifyLuxBucket (lux : ℚ) : String :=
  if lux < 10 then "dark"
  else if lux < 50 then "dim"
  else if lux < 500 then "normal"
  else if lux < 2000 then "bright"
  else "direct_sunlight"

/-- `estimate_brightness`, from the histogram on. -/
def estimateBrightness (percentile : ℤ) (h : Histogram) : Brightness :=
  let total : ℤ := h.bins.sum
  let saturationRatio : ℚ := (h.above 250 : ℚ) / h.bins.sum
  if 85 / 100 < saturationRatio then ⟨-1, 1 / 10⟩
  else if h.above 3 = 0 then ⟨0, 95 / 100⟩
  else
    let numbered := h.pixels.zipIdx
    -- the first pixel with at least `percentile` percent of the pixels before it
    let pValue : ℚ := ((numbered.find? fun pixel =>
      decide ((percentile * total).tdiv 100 ≤ pixel.2)).map Prod.fst).getD 0
    let trimmed := (numbered.filter fun pixel =>
      decide (10 * total / 100 ≤ pixel.2) && decide (pixel.2 ≤ 90 * total / 100)).map Prod.fst
    let trimmedMean : ℚ :=
      if 0 < trimmed.length then (trimmed.sum : ℚ) / trimmed.length else pValue
    let deviation := |trimmedMean - pValue| / 255
    ⟨7 / 10 * trimmedMean + 3 / 10 * pValue,
      max (1 / 10) (1 - deviation * (3 / 2) - saturationRatio * (1 / 2))⟩

/-- The brightness of a message that is an accepted frame.  The expected size is computed with
32 bits; a message without a valid frame is `none`. -/
def acceptedBrightness (percentile : ℤ) (message : Option VideoFrame) : Option Brightness :=
  match message with
  | none => none
  | some frame =>
      if frame.dataSize < frame.width * frame.height * 3 % 4294967296 / 2 then none
      else
        match frame.luminance with
        | none => none
        | some h =>
            let brightness := estimateBrightness percentile h
            if 0 ≤ brightness.value then some brightness else none

namespace AmbientLightEstimator

/-- No frame has been accepted: both numbers are -1. -/
def construct : AmbientLightEstimator where
  latestLux := -1
  latestConfidence := 0
  latestBucket := "unknown"
  smoothedBrightness := -1

/-- One round of `run` that receives a message. -/
def receive (light : LightModel) (message : Option VideoFrame) (e : AmbientLightEstimator) :
    AmbientLightEstimator :=
  match acceptedBrightness light.percentile message with
  | none => e
  | some brightness =>
      let smoothed :=
        if e.smoothedBrightness < 0 then brightness.value
        else light.emaAlpha * brightness.value + (1 - light.emaAlpha) * e.smoothedBrightness
      let lux := light.modelA * light.pow smoothed light.modelB
      { latestLux := lux
        latestConfidence := brightness.confidence
        latestBucket := classifyLuxBucket lux
        smoothedBrightness := smoothed }

/-- `get_latest_lux`; `none` is `false`. -/
def getLatestLux (e : AmbientLightEstimator) : Option (ℚ × ℚ × String) :=
  if e.latestLux < 0 then none
  else some (e.latestLux, e.latestConfidence, e.latestBucket)

theorem receive_of_rejected {light : LightModel} {message : Option VideoFrame}
    (hrejected : acceptedBrightness light.percentile message = none) (e : AmbientLightEstimator) :
    e.receive light message = e := by
  rw [receive, hrejected]

end AmbientLightEstimator

end OroEdge.Environment
