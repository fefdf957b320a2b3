import OroEdge.Environment.Luminance
import OroEdge.Lib.Run

/-!
# Brighter frames

A brighter frame should not be estimated darker: if every pixel of a frame is at least as
bright as the same pixel of another one, and neither is rejected as saturated, its estimate
is at least as high; and in a stream, where the estimates are smoothed, a frame can be
replaced by a brighter one without any later brightness becoming lower
(`brighter_notDarker`).

The order statistics of the brighter frame are at least as high, position by position, and
the filter takes a weighted mean of two numbers that are not negative.

The argument goes by positions in the sorted frame.  Sorting two lists of which one is below the
other, item by item, keeps this (`Brighter.sortedPixels_le`), and everything that the estimate
is made of, the mean of a segment and a value at a position, is monotone in the sorted pixels
(`trimmedMean_mono`, `foundValue_mono`).  A frame without a pixel above 2 has the estimate zero,
which is no exception: if it is the brighter one of two, the other is as dark
(`Dark.of_brighter`), and if it is the other, no estimate is below zero.

In the stream the two estimators differ from the replaced frame on (`smoothed_le_of_brighter`),
and a later frame, the same for both, keeps the order of their states (`smoothed_le_of_same`):
the factor of the filter does not depend on the frame.
-/

namespace OroEdge.Environment

open OroEdge.Lib

/-! ## Frames of pixels -/

/-- `cv::calcHist` of an image with 8 bits a pixel. -/
def calcHist (pixels : List UInt8) : List ℕ :=
  (List.range 256).map fun value => (pixels.map UInt8.toNat).count value

/-- Every pixel is at least as bright as the same pixel of the first frame. -/
def Brighter (pixels pixels' : List UInt8) : Prop := List.Forall₂ (· ≤ ·) pixels pixels'

theorem length_calcHist (pixels : List UInt8) : (calcHist pixels).length = 256 := by
  rw [calcHist, List.length_map, List.length_range]

/-- The sorted pixels of the histogram are the pixels, sorted. -/
theorem sortedPixels_calcHist_perm (pixels : List UInt8) :
    (sortedPixels (calcHist pixels)).Perm (pixels.map UInt8.toNat) := by
  rw [List.perm_iff_count]
  intro value
  rw [(sorted_sortedPixels _).2, List.getD_eq_getElem?_getD]
  by_cases hvalue : value < 256
  · rw [calcHist, List.getElem?_map, List.getElem?_range hvalue]
    rfl
  · have hnone : value ∉ pixels.map UInt8.toNat := by
      intro hmem
      obtain ⟨pixel, -, rfl⟩ := List.mem_map.mp hmem
      exact hvalue pixel.toNat_lt
    rw [List.getElem?_eq_none (by rw [length_calcHist]; exact not_lt.mp hvalue),
      List.count_eq_zero_of_not_mem hnone]
    rfl

theorem sum_calcHist (pixels : List UInt8) : (calcHist pixels).sum = pixels.length := by
  rw [← length_sortedPixels, (sortedPixels_calcHist_perm pixels).length_eq, List.length_map]

/-- The sorted pixels of a brighter frame are at least as bright, position by position. -/
theorem Brighter.sortedPixels_le {pixels pixels' : List UInt8}
    (hbrighter : Brighter pixels pixels') :
    List.Forall₂ (· ≤ ·) (sortedPixels (calcHist pixels)) (sortedPixels (calcHist pixels')) := by
  have hvalues : List.Forall₂ (· ≤ ·) (pixels.map UInt8.toNat) (pixels'.map UInt8.toNat) := by
    rw [List.forall₂_map_left_iff, List.forall₂_map_right_iff]
    exact hbrighter.imp fun _ _ hle => UInt8.le_iff_toNat_le.mp hle
  exact sorted_le_sorted hvalues (sorted_sortedPixels _).1 (sorted_sortedPixels _).1
    (sortedPixels_calcHist_perm pixels) (sortedPixels_calcHist_perm pixels')

/-- A frame without glare. -/
theorem not_saturated_of_forall_lt {pixels : List UInt8}
    (hlt : ∀ pixel ∈ pixels, pixel.toNat < 250) : ¬ Saturated (calcHist pixels) := by
  have hcount : ((sortedPixels (calcHist pixels)).countP fun value => decide (250 ≤ value)) =
      ((calcHist pixels).drop 250).sum := countP_pixelsFrom 0 250 _
  have hnone : ((calcHist pixels).drop 250).sum = 0 := by
    rw [← hcount, (sortedPixels_calcHist_perm pixels).countP_eq, List.countP_eq_zero]
    intro value hvalue
    obtain ⟨pixel, hpixel, rfl⟩ := List.mem_map.mp hvalue
    simpa using hlt pixel hpixel
  rw [Saturated, hnone, Nat.cast_zero, zero_div]
  norm_num

/-! ## The estimate of a brighter frame -/

theorem trimmedMean_mono {pixels pixels' : List ℕ} (hle : List.Forall₂ (· ≤ ·) pixels pixels') :
    trimmedMean pixels ≤ trimmedMean pixels' := by
  have hsegment (a b : ℕ) : List.Forall₂ (· ≤ ·) (rankSlice a b pixels) (rankSlice a b pixels') :=
    List.forall₂_take _ (List.forall₂_drop _ hle)
  unfold trimmedMean
  rw [hle.length_eq, (hsegment _ _).length_eq]
  refine div_le_div_of_nonneg_right ?_ (Nat.cast_nonneg _)
  exact_mod_cast (hsegment _ _).sum_le_sum

theorem foundValue_mono (percentile : ℤ) {pixels pixels' : List ℕ}
    (hle : List.Forall₂ (· ≤ ·) pixels pixels') :
    foundValue percentile pixels ≤ foundValue percentile pixels' := by
  obtain ⟨hlength, hget⟩ := List.forall₂_iff_get.mp hle
  unfold foundValue
  rw [hlength]
  generalize ((percentile * (pixels'.length : ℤ)).tdiv 100).toNat = k
  by_cases hk : k < pixels'.length
  · rw [List.getElem?_eq_getElem (by omega), List.getElem?_eq_getElem hk]
    exact hget k (by omega) hk
  · rw [List.getElem?_eq_none (by omega)]
    exact Nat.zero_le _

theorem Dark.of_brighter {pixels pixels' : List UInt8} (hbrighter : Brighter pixels pixels')
    (hdark : Dark (calcHist pixels')) : Dark (calcHist pixels) := by
  rw [dark_iff] at hdark ⊢
  intro value hmem
  obtain ⟨hlength, hget⟩ := List.forall₂_iff_get.mp hbrighter.sortedPixels_le
  obtain ⟨k, hk, rfl⟩ := List.getElem_of_mem hmem
  exact (hget k hk (by omega)).trans_lt (hdark _ (List.getElem_mem _))

theorem pixels_pos_of_not_dark {bins : List ℕ} (hdark : ¬ Dark bins) : 0 < bins.sum := by
  rw [← length_sortedPixels]
  by_contra hnone
  have hnil : sortedPixels bins = [] := List.length_eq_zero_iff.mp (by omega)
  exact hdark ((dark_iff bins).mpr (by rw [hnil]; exact List.forall_mem_nil _))

theorem estimateBrightnessOf_nonneg (percentile : ℤ) {bins : List ℕ}
    (hsaturated : ¬ Saturated bins) : 0 ≤ (estimateBrightnessOf percentile bins).value := by
  by_cases hdark : Dark bins
  · rw [estimateBrightnessOf, if_neg hsaturated, if_pos hdark]
  · rw [estimateBrightnessOf_value percentile (pixels_pos_of_not_dark hdark) hsaturated hdark]
    have hmean : 0 ≤ trimmedMean (sortedPixels bins) :=
      div_nonneg (Nat.cast_nonneg _) (Nat.cast_nonneg _)
    have hfound : (0 : ℚ) ≤ foundValue percentile (sortedPixels bins) := Nat.cast_nonneg _
    linarith

theorem estimateBrightnessOf_mono (percentile : ℤ) {pixels pixels' : List UInt8}
    (hbrighter : Brighter pixels pixels') (hsaturated : ¬ Saturated (calcHist pixels))
    (hsaturated' : ¬ Saturated (calcHist pixels')) :
    (estimateBrightnessOf percentile (calcHist pixels)).value ≤
      (estimateBrightnessOf percentile (calcHist pixels')).value := by
  by_cases hdark : Dark (calcHist pixels)
  · have hzero : (estimateBrightnessOf percentile (calcHist pixels)).value = 0 := by
      rw [estimateBrightnessOf, if_neg hsaturated, if_pos hdark]
    rw [hzero]
    exact estimateBrightnessOf_nonneg percentile hsaturated'
  · have hdark' := mt (Dark.of_brighter hbrighter) hdark
    rw [estimateBrightnessOf_value percentile (pixels_pos_of_not_dark hdark) hsaturated hdark,
      estimateBrightnessOf_value percentile (pixels_pos_of_not_dark hdark') hsaturated' hdark']
    have hmean := trimmedMean_mono hbrighter.sortedPixels_le
    have hfound : (foundValue percentile (sortedPixels (calcHist pixels)) : ℚ) ≤
        foundValue percentile (sortedPixels (calcHist pixels')) := by
      exact_mod_cast foundValue_mono percentile hbrighter.sortedPixels_le
    linarith

/-! ## A stream -/

/-- The histogram of a resized frame. -/
def Histogram.ofPixels (pixels : List UInt8) (hlength : pixels.length = 160 * 120) : Histogram :=
  ⟨calcHist pixels, (sum_calcHist pixels).trans hlength⟩

/-- A message that is an accepted frame with the resized pixels. -/
structure AcceptedFrame (percentile : ℤ) (message : Option VideoFrame) (pixels : List UInt8) :
    Prop where
  luminance : ∃ frame hlength, message = some frame ∧
    frame.luminance = some (.ofPixels pixels hlength)
  accepted : acceptedBrightness percentile message ≠ none

/-- The messages of a stream, one after the other. -/
def receiveAll (light : LightModel) (messages : List (Option VideoFrame))
    (e : AmbientLightEstimator) : AmbientLightEstimator :=
  run (fun e message => e.receive light message) e messages

/-- What is accepted is not negative. -/
theorem nonneg_of_acceptedBrightness {percentile : ℤ} {message : Option VideoFrame}
    {brightness : Brightness}
    (haccepted : acceptedBrightness percentile message = some brightness) :
    0 ≤ brightness.value := by
  unfold acceptedBrightness at haccepted
  split at haccepted
  · cases haccepted
  · split_ifs at haccepted
    split at haccepted
    · cases haccepted
    · dsimp only at haccepted
      split_ifs at haccepted with hnonneg
      cases haccepted
      exact hnonneg

theorem AcceptedFrame.exists_brightness {percentile : ℤ} {message : Option VideoFrame}
    {pixels : List UInt8} (hframe : AcceptedFrame percentile message pixels) :
    ¬ Saturated (calcHist pixels) ∧
      acceptedBrightness percentile message =
        some (estimateBrightnessOf percentile (calcHist pixels)) := by
  obtain ⟨⟨frame, hlength, rfl, hluminance⟩, haccepted⟩ := hframe
  obtain ⟨brightness, hbrightness⟩ := Option.ne_none_iff_exists'.mp haccepted
  have hvalue : brightness = estimateBrightnessOf percentile (calcHist pixels) := by
    have hfound := hbrightness
    simp only [acceptedBrightness, hluminance] at hfound
    split_ifs at hfound
    rw [← Option.some.inj hfound]
    exact estimateBrightness_eq percentile _
  refine ⟨fun hsaturated => ?_, hvalue ▸ hbrightness⟩
  have hnonneg := nonneg_of_acceptedBrightness hbrightness
  rw [hvalue, estimateBrightnessOf, if_pos hsaturated] at hnonneg
  exact absurd hnonneg (by norm_num)

section

variable {light : LightModel} (hlow : 0 ≤ light.emaAlpha) (hhigh : light.emaAlpha ≤ 1)
include hlow

/-- The filter after an accepted frame, from the same state. -/
theorem smoothed_le_of_brighter {e : AmbientLightEstimator} {message message' : Option VideoFrame}
    {b b' : Brightness} (haccepted : acceptedBrightness light.percentile message = some b)
    (haccepted' : acceptedBrightness light.percentile message' = some b')
    (hle : b.value ≤ b'.value) :
    (e.receive light message).smoothedBrightness ≤
      (e.receive light message').smoothedBrightness := by
  unfold AmbientLightEstimator.receive
  rw [haccepted, haccepted']
  dsimp only
  split_ifs
  · exact hle
  · have hscaled := mul_le_mul_of_nonneg_left hle hlow
    linarith

include hhigh

theorem smoothed_nonneg_of_accepted {e : AmbientLightEstimator} {message : Option VideoFrame}
    {b : Brightness} (haccepted : acceptedBrightness light.percentile message = some b) :
    0 ≤ (e.receive light message).smoothedBrightness := by
  have hb := nonneg_of_acceptedBrightness haccepted
  unfold AmbientLightEstimator.receive
  rw [haccepted]
  dsimp only
  split_ifs with hcold
  · exact hb
  · have hold := mul_nonneg (sub_nonneg.mpr hhigh) (not_lt.mp hcold)
    have hnew := mul_nonneg hlow hb
    linarith

/-- The same message, received by two estimators that are not cold. -/
theorem smoothed_le_of_same {e e' : AmbientLightEstimator} (message : Option VideoFrame)
    (hnonneg : 0 ≤ e.smoothedBrightness) (hle : e.smoothedBrightness ≤ e'.smoothedBrightness) :
    0 ≤ (e.receive light message).smoothedBrightness ∧
      (e.receive light message).smoothedBrightness ≤
        (e'.receive light message).smoothedBrightness := by
  cases haccepted : acceptedBrightness light.percentile message with
  | none =>
      rw [AmbientLightEstimator.receive_of_rejected haccepted,
        AmbientLightEstimator.receive_of_rejected haccepted]
      exact ⟨hnonneg, hle⟩
  | some b =>
      refine ⟨smoothed_nonneg_of_accepted hlow hhigh haccepted, ?_⟩
      unfold AmbientLightEstimator.receive
      rw [haccepted]
      dsimp only
      rw [if_neg (not_lt.mpr hnonneg), if_neg (not_lt.mpr (hnonneg.trans hle))]
      have hscaled := mul_le_mul_of_nonneg_left hle (sub_nonneg.mpr hhigh)
      linarith

theorem smoothed_le_run {e e' : AmbientLightEstimator} (messages : List (Option VideoFrame))
    (hnonneg : 0 ≤ e.smoothedBrightness) (hle : e.smoothedBrightness ≤ e'.smoothedBrightness) :
    (receiveAll light messages e).smoothedBrightness ≤
      (receiveAll light messages e').smoothedBrightness := by
  induction messages generalizing e e' with
  | nil => exact hle
  | cons message rest ih =>
      obtain ⟨hnonneg', hle'⟩ := smoothed_le_of_same hlow hhigh message hnonneg hle
      exact ih hnonneg' hle'

end

/-! ## Main theorem -/

/-- **A brighter frame is not estimated darker.**  The estimate of a brighter frame is at least as
high, for every percentile; and with a weight from 0 to 1, an accepted frame of a stream can
be replaced by a brighter one, and no later brightness is lower. -/
theorem brighter_notDarker :
    (∀ (percentile : ℤ) (pixels pixels' : List UInt8), Brighter pixels pixels' →
      ¬ Saturated (calcHist pixels) → ¬ Saturated (calcHist pixels') →
        (estimateBrightnessOf percentile (calcHist pixels)).value ≤
          (estimateBrightnessOf percentile (calcHist pixels')).value) ∧
    ∀ (light : LightModel), 0 ≤ light.emaAlpha → light.emaAlpha ≤ 1 →
      ∀ (e : AmbientLightEstimator) (earlier later : List (Option VideoFrame))
        (message message' : Option VideoFrame) (pixels pixels' : List UInt8),
        AcceptedFrame light.percentile message pixels →
        AcceptedFrame light.percentile message' pixels' → Brighter pixels pixels' →
          (receiveAll light (earlier ++ message :: later) e).smoothedBrightness ≤
            (receiveAll light (earlier ++ message' :: later) e).smoothedBrightness := by
  refine ⟨fun percentile pixels pixels' => estimateBrightnessOf_mono percentile, ?_⟩
  intro light hlow hhigh e earlier later message message' pixels pixels' hframe hframe' hbrighter
  obtain ⟨hsaturated, haccepted⟩ := hframe.exists_brightness
  obtain ⟨hsaturated', haccepted'⟩ := hframe'.exists_brightness
  have hle := estimateBrightnessOf_mono light.percentile hbrighter hsaturated hsaturated'
  unfold receiveAll
  rw [run_append, run_append, run_cons, run_cons]
  exact smoothed_le_run hlow hhigh later (smoothed_nonneg_of_accepted hlow hhigh haccepted)
    (smoothed_le_of_brighter hlow haccepted haccepted' hle)

/-! ### Two grey frames -/

/-- A frame of 160 × 120 pixels that are all of one value. -/
def greyFrame (value : UInt8) : Option VideoFrame :=
  some ⟨160, 120, 28800, some (.ofPixels (List.replicate 19200 value) List.length_replicate)⟩

theorem acceptedFrame_grey {value : UInt8} (hvalue : value.toNat < 250) (percentile : ℤ) :
    AcceptedFrame percentile (greyFrame value) (List.replicate 19200 value) := by
  refine ⟨⟨_, List.length_replicate, rfl, rfl⟩, ?_⟩
  have hsaturated : ¬ Saturated (calcHist (List.replicate 19200 value)) :=
    not_saturated_of_forall_lt fun pixel hpixel => by rwa [List.eq_of_mem_replicate hpixel]
  have hnonneg : 0 ≤ (estimateBrightness percentile
      (.ofPixels (List.replicate 19200 value) List.length_replicate)).value := by
    rw [estimateBrightness_eq]
    exact estimateBrightnessOf_nonneg percentile hsaturated
  show acceptedBrightness percentile (some ⟨160, 120, 28800, _⟩) ≠ none
  unfold acceptedBrightness
  dsimp only
  rw [if_neg (by decide), if_pos hnonneg]
  exact Option.some_ne_none _

theorem brighter_replicate (n : ℕ) {value value' : UInt8} (hle : value ≤ value') :
    Brighter (List.replicate n value) (List.replicate n value') := by
  induction n with
  | zero => exact .nil
  | succ n ih => exact .cons hle ih

/-- A model whose power is one. -/
def linearModel : LightModel := ⟨fun x _ => x, 1, 1, 1 / 5, 50⟩

/-- The estimate of a grey frame, and its place in a stream. -/
theorem brighter_notDarker_grey :
    (estimateBrightnessOf 50 (calcHist (List.replicate 10 100))).value ≤
        (estimateBrightnessOf 50 (calcHist (List.replicate 10 120))).value ∧
      (receiveAll linearModel [none, greyFrame 100, greyFrame 60] .construct).smoothedBrightness ≤
        (receiveAll linearModel [none, greyFrame 120, greyFrame 60]
          .construct).smoothedBrightness := by
  have hten (value : UInt8) (hvalue : value.toNat < 250) :
      ¬ Saturated (calcHist (List.replicate 10 value)) :=
    not_saturated_of_forall_lt fun pixel hpixel => by rwa [List.eq_of_mem_replicate hpixel]
  refine ⟨brighter_notDarker.1 50 _ _ (brighter_replicate 10 (by decide)) (hten 100 (by decide))
    (hten 120 (by decide)), ?_⟩
  exact brighter_notDarker.2 linearModel (by decide +kernel) (by decide +kernel) .construct [none]
    [greyFrame 60] (greyFrame 100) (greyFrame 120) _ _ (acceptedFrame_grey (by decide) 50)
    (acceptedFrame_grey (by decide) 50) (brighter_replicate 19200 (by decide))

end OroEdge.Environment
