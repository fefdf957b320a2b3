import OroEdge.Environment.Estimator
import OroEdge.Lib.Ranks
import Mathlib.Algebra.Order.Field.Basic
import Mathlib.Tactic.Linarith
import Mathlib.Tactic.Ring

/-!
# The brightness of a histogram

The loops of `estimate_brightness`, over the histogram of any number of pixels.  They visit
the pixels in ascending order of their values, with a running position, so that they find
order statistics: a value at a position, and the mean of the values from one position to
another (`walk_eq`).

`estimate_brightness` should return 0.7 times the trimmed mean and 0.3 times the percentile.
No position is reached for a percentile of 100, whose value is left at zero; for any lower
one the property holds (`estimatesBrightness_iff`).

The two nested loops visit the pixels one by one in ascending order, so they are a fold over the
sorted pixels (`walk_eq_foldl`), with a running number that is the position.  What the fold has
found after some pixels is a statement about positions (`foldl_visit_eq`): the sum over the
segment between the two trims, its length, and the value at the position of the percentile if it
has been passed.  From there on the loops do not appear; the sorted list, its slices and its
positions are the library's.

The comparison for the percentile is with the position and strict, which is why the last one is
never found at 100 percent (`foundValue_hundred`).
-/

namespace OroEdge.Environment

open OroEdge.Lib

/-! ## The loops -/

/-- The local variables of the loops. -/
@[ext]
structure Walk where
  cumulativeSum : ℕ
  sumTrimmed : ℚ
  countTrimmed : ℕ
  pValue : ℚ
  pFound : Bool
  deriving DecidableEq, Repr

/-- The variables before the first bin. -/
def Walk.start : Walk := ⟨0, 0, 0, 0, false⟩

section

variable (p10Count p90Count : ℕ) (pTargetCount : ℤ)

/-- A pixel with the value `i`. -/
def Walk.visit (w : Walk) (i : ℕ) : Walk :=
  let w :=
    if pTargetCount ≤ (w.cumulativeSum : ℤ) ∧ w.pFound = false then
      { w with pValue := i, pFound := true }
    else w
  let w :=
    if p10Count ≤ w.cumulativeSum ∧ w.cumulativeSum ≤ p90Count then
      { w with sumTrimmed := w.sumTrimmed + i, countTrimmed := w.countTrimmed + 1 }
    else w
  { w with cumulativeSum := w.cumulativeSum + 1 }

/-- The inner loop, over the pixels of a bin. -/
def Walk.visitBin (w : Walk) (bin : ℕ × ℕ) : Walk :=
  (fun w => Walk.visit p10Count p90Count pTargetCount w bin.2)^[bin.1] w

/-- The outer loop, over the bins. -/
def walk (bins : List ℕ) : Walk :=
  bins.zipIdx.foldl (Walk.visitBin p10Count p90Count pTargetCount) .start

end

/-- More than 85 percent of the pixels have a value of at least 250. -/
def Saturated (bins : List ℕ) : Prop := (85 / 100 : ℚ) < ((bins.drop 250).sum : ℚ) / bins.sum

instance (bins : List ℕ) : Decidable (Saturated bins) := inferInstanceAs (Decidable (_ < _))

/-- The largest value of a pixel is below 3. -/
def Dark (bins : List ℕ) : Prop := (bins.drop 3).sum = 0

instance (bins : List ℕ) : Decidable (Dark bins) := inferInstanceAs (Decidable (_ = _))

/-- `estimate_brightness` of an image with the histogram. -/
def estimateBrightnessOf (percentile : ℤ) (bins : List ℕ) : Brightness :=
  if Saturated bins then ⟨-1, 1 / 10⟩
  else if Dark bins then ⟨0, 95 / 100⟩
  else
    let saturationRatio : ℚ := ((bins.drop 250).sum : ℚ) / bins.sum
    let w := walk (10 * bins.sum / 100) (90 * bins.sum / 100)
      ((percentile * bins.sum).tdiv 100) bins
    let trimmedMean := if 0 < w.countTrimmed then w.sumTrimmed / w.countTrimmed else w.pValue
    let deviation := |trimmedMean - w.pValue| / 255
    ⟨7 / 10 * trimmedMean + 3 / 10 * w.pValue,
      max (1 / 10) (1 - deviation * (3 / 2) - saturationRatio * (1 / 2))⟩

/-! ## The pixels in ascending order -/

/-- The values of the pixels of the bins from `first` on. -/
def pixelsFrom (first : ℕ) (bins : List ℕ) : List ℕ :=
  (bins.zipIdx first).flatMap fun bin => List.replicate bin.1 bin.2

/-- The values of the pixels, sorted. -/
def sortedPixels (bins : List ℕ) : List ℕ := pixelsFrom 0 bins

theorem pixels_eq_sortedPixels (h : Histogram) : h.pixels = sortedPixels h.bins := rfl

theorem pixelsFrom_cons (first bin : ℕ) (bins : List ℕ) :
    pixelsFrom first (bin :: bins) = List.replicate bin first ++ pixelsFrom (first + 1) bins := rfl

theorem length_pixelsFrom (first : ℕ) (bins : List ℕ) :
    (pixelsFrom first bins).length = bins.sum := by
  induction bins generalizing first with
  | nil => rfl
  | cons bin bins ih =>
      rw [pixelsFrom_cons, List.length_append, List.length_replicate, ih, List.sum_cons]

theorem length_sortedPixels (bins : List ℕ) : (sortedPixels bins).length = bins.sum :=
  length_pixelsFrom 0 bins

theorem mem_pixelsFrom {first value : ℕ} {bins : List ℕ} (hmem : value ∈ pixelsFrom first bins) :
    first ≤ value ∧ value < first + bins.length := by
  induction bins generalizing first with
  | nil => cases hmem
  | cons bin bins ih =>
      rw [pixelsFrom_cons, List.mem_append] at hmem
      rw [List.length_cons]
      rcases hmem with hmem | hmem
      · have hvalue := List.eq_of_mem_replicate hmem
        omega
      · have hrest := ih hmem
        omega

theorem pairwise_pixelsFrom (first : ℕ) (bins : List ℕ) :
    (pixelsFrom first bins).Pairwise (· ≤ ·) := by
  induction bins generalizing first with
  | nil => exact List.Pairwise.nil
  | cons bin bins ih =>
      rw [pixelsFrom_cons, List.pairwise_append]
      refine ⟨List.pairwise_replicate.mpr (Or.inr le_rfl), ih (first + 1), fun x hx y hy => ?_⟩
      rw [List.eq_of_mem_replicate hx]
      exact (Nat.le_succ first).trans (mem_pixelsFrom hy).1

theorem count_pixelsFrom (first value : ℕ) (bins : List ℕ) :
    (pixelsFrom first bins).count value =
      if first ≤ value then bins.getD (value - first) 0 else 0 := by
  induction bins generalizing first with
  | nil => simp [pixelsFrom]
  | cons bin bins ih =>
      rw [pixelsFrom_cons, List.count_append, ih]
      rcases Nat.lt_trichotomy value first with hlt | rfl | hgt
      · have hne : first ≠ value := hlt.ne'
        rw [List.count_replicate, if_neg (by simpa using hne), if_neg (by omega),
          if_neg (by omega)]
      · simp
      · have hne : first ≠ value := hgt.ne
        have hsub : value - first = (value - (first + 1)) + 1 := by omega
        rw [List.count_replicate, if_neg (by simpa using hne), if_pos (by omega),
          if_pos (by omega), hsub, List.getD_cons_succ, Nat.zero_add]

/-- The pixels are sorted, and there are as many of each value as its bin says. -/
theorem sorted_sortedPixels (bins : List ℕ) :
    (sortedPixels bins).Pairwise (· ≤ ·) ∧
      ∀ value, (sortedPixels bins).count value = bins.getD value 0 :=
  ⟨pairwise_pixelsFrom 0 bins, fun value => count_pixelsFrom 0 value bins⟩

theorem lt_of_mem_sortedPixels {bins : List ℕ} (hlength : bins.length = 256) {value : ℕ}
    (hmem : value ∈ sortedPixels bins) : value < 256 := by
  have hlt := (mem_pixelsFrom hmem).2
  omega

/-- The pixels with a value of at least `n`. -/
theorem countP_pixelsFrom (first n : ℕ) (bins : List ℕ) :
    ((pixelsFrom first bins).countP fun value => decide (n ≤ value)) =
      (bins.drop (n - first)).sum := by
  induction bins generalizing first with
  | nil => simp [pixelsFrom]
  | cons bin bins ih =>
      rw [pixelsFrom_cons, List.countP_append, ih, List.countP_replicate]
      by_cases hle : n ≤ first
      · have hfirst : n - first = 0 := by omega
        have hnext : n - (first + 1) = 0 := by omega
        simp [hle, hfirst, hnext]
      · have hsub : n - first = (n - (first + 1)) + 1 := by omega
        rw [if_neg (by simpa using hle), Nat.zero_add, hsub, List.drop_succ_cons]

/-- A frame is dark if no pixel has a value of 3 or more. -/
theorem dark_iff (bins : List ℕ) : Dark bins ↔ ∀ value ∈ sortedPixels bins, value < 3 := by
  have hcount : ((sortedPixels bins).countP fun value => decide (3 ≤ value)) =
      (bins.drop 3).sum := countP_pixelsFrom 0 3 bins
  rw [Dark, ← hcount, List.countP_eq_zero]
  simp

/-! ## What the loops find -/

section

variable (p10Count p90Count : ℕ) (pTargetCount : ℤ)

/-- The loops visit the pixels in ascending order. -/
theorem walk_eq_foldl (bins : List ℕ) :
    walk p10Count p90Count pTargetCount bins =
      (sortedPixels bins).foldl (Walk.visit p10Count p90Count pTargetCount) .start := by
  have hbin (w : Walk) (bin : ℕ × ℕ) : Walk.visitBin p10Count p90Count pTargetCount w bin =
      (List.replicate bin.1 bin.2).foldl (Walk.visit p10Count p90Count pTargetCount) w := by
    obtain ⟨n, i⟩ := bin
    unfold Walk.visitBin
    induction n generalizing w with
    | zero => rfl
    | succ n ih =>
        rw [List.replicate_succ, List.foldl_cons, Function.iterate_succ_apply]
        exact ih _
  unfold walk sortedPixels pixelsFrom
  rw [List.foldl_flatMap]
  congr 1
  funext w bin
  exact hbin w bin

variable {p10Count p90Count pTargetCount} (w : Walk) (i : ℕ)

theorem visit_cumulativeSum : (Walk.visit p10Count p90Count pTargetCount w i).cumulativeSum =
    w.cumulativeSum + 1 := by
  unfold Walk.visit
  dsimp only
  split_ifs <;> rfl

theorem visit_sumTrimmed : (Walk.visit p10Count p90Count pTargetCount w i).sumTrimmed =
    if p10Count ≤ w.cumulativeSum ∧ w.cumulativeSum ≤ p90Count then w.sumTrimmed + i
    else w.sumTrimmed := by
  unfold Walk.visit
  dsimp only
  split_ifs <;> rfl

theorem visit_countTrimmed : (Walk.visit p10Count p90Count pTargetCount w i).countTrimmed =
    if p10Count ≤ w.cumulativeSum ∧ w.cumulativeSum ≤ p90Count then w.countTrimmed + 1
    else w.countTrimmed := by
  unfold Walk.visit
  dsimp only
  split_ifs <;> rfl

/-- The value is kept once it has been found. -/
theorem visit_pValue : (Walk.visit p10Count p90Count pTargetCount w i).pValue =
    if pTargetCount ≤ (w.cumulativeSum : ℤ) ∧ w.pFound = false then (i : ℚ) else w.pValue := by
  unfold Walk.visit
  dsimp only
  split_ifs <;> rfl

theorem visit_pFound : (Walk.visit p10Count p90Count pTargetCount w i).pFound =
    (decide (pTargetCount ≤ (w.cumulativeSum : ℤ)) || w.pFound) := by
  unfold Walk.visit
  dsimp only
  by_cases hfound : pTargetCount ≤ (w.cumulativeSum : ℤ) ∧ w.pFound = false
  · have hnow : (decide (pTargetCount ≤ (w.cumulativeSum : ℤ)) || w.pFound) = true := by
      simp [hfound.1]
    simp only [if_pos hfound, hnow]
    split_ifs <;> rfl
  · have hkept : (decide (pTargetCount ≤ (w.cumulativeSum : ℤ)) || w.pFound) = w.pFound := by
      cases hp : w.pFound with
      | true => exact Bool.or_true _
      | false => simpa [hp] using hfound
    simp only [if_neg hfound, hkept]
    split_ifs <;> rfl

end

section

variable (p10Count p90Count : ℕ) (pTargetCount : ℤ)

/-- **The loops.**  What they have found after some pixels: the segment between the two
positions, and the value at the target. -/
theorem foldl_visit_eq (pixels : List ℕ) :
    pixels.foldl (Walk.visit p10Count p90Count pTargetCount) .start =
      { cumulativeSum := pixels.length
        sumTrimmed := ((rankSlice p10Count p90Count pixels).sum : ℕ)
        countTrimmed := (rankSlice p10Count p90Count pixels).length
        pValue := ((pixels[pTargetCount.toNat]?).getD 0 : ℕ)
        pFound := decide (pTargetCount.toNat < pixels.length) } := by
  induction pixels using List.reverseRecOn with
  | nil => simp [Walk.start, rankSlice]
  | append_singleton pixels value ih =>
      have hreached : pTargetCount ≤ (pixels.length : ℤ) ↔ pTargetCount.toNat ≤ pixels.length :=
        Int.toNat_le.symm
      rw [List.foldl_append, ih, List.foldl_cons, List.foldl_nil, rankSlice_snoc]
      apply Walk.ext
      · rw [visit_cumulativeSum, List.length_append, List.length_singleton]
      · rw [visit_sumTrimmed]
        dsimp only
        split_ifs
        · rw [List.sum_append, List.sum_singleton]
          push_cast
          rfl
        · rfl
      · rw [visit_countTrimmed]
        dsimp only
        split_ifs
        · rw [List.length_append, List.length_singleton]
        · rfl
      · rw [visit_pValue]
        simp only [hreached]
        rcases Nat.lt_trichotomy pTargetCount.toNat pixels.length with hlt | heq | hgt
        · rw [if_neg (by simp [hlt]), List.getElem?_append_left hlt]
        · rw [heq, if_pos (by simp), List.getElem?_append_right le_rfl]
          simp
        · have hpast : (pixels ++ [value]).length ≤ pTargetCount.toNat := by
            rw [List.length_append, List.length_singleton]
            exact hgt
          rw [if_neg fun h => absurd h.1 (not_le.mpr hgt), List.getElem?_eq_none hpast,
            List.getElem?_eq_none hgt.le]
      · rw [visit_pFound, List.length_append, List.length_singleton, Bool.eq_iff_iff]
        simp only [Bool.or_eq_true, decide_eq_true_eq, hreached]
        omega

theorem walk_eq (bins : List ℕ) :
    walk p10Count p90Count pTargetCount bins =
      { cumulativeSum := (sortedPixels bins).length
        sumTrimmed := ((rankSlice p10Count p90Count (sortedPixels bins)).sum : ℕ)
        countTrimmed := (rankSlice p10Count p90Count (sortedPixels bins)).length
        pValue := (((sortedPixels bins)[pTargetCount.toNat]?).getD 0 : ℕ)
        pFound := decide (pTargetCount.toNat < (sortedPixels bins).length) } := by
  rw [walk_eq_foldl, foldl_visit_eq]

end

/-! ## Order statistics -/

/-- The mean of the values at the positions from a tenth to nine tenths. -/
def trimmedMean (pixels : List ℕ) : ℚ :=
  ((rankSlice (pixels.length / 10) (9 * pixels.length / 10) pixels).sum : ℚ) /
    (rankSlice (pixels.length / 10) (9 * pixels.length / 10) pixels).length

/-- The value at the position of a percentile, the last one at most. -/
def percentileValue (percentile : ℕ) (pixels : List ℕ) : ℕ :=
  pixels.getD (min (percentile * pixels.length / 100) (pixels.length - 1)) 0

/-- The value that the loops find for a percentile. -/
def foundValue (percentile : ℤ) (pixels : List ℕ) : ℕ :=
  (pixels[((percentile * pixels.length).tdiv 100).toNat]?).getD 0

theorem rankSlice_pos (pixels : List ℕ) (hpixels : 0 < pixels.length) :
    0 < (rankSlice (pixels.length / 10) (9 * pixels.length / 10) pixels).length := by
  rw [length_segment pixels (by omega)]
  omega

/-- An estimate that is not rejected, in terms of the pixels. -/
theorem estimateBrightnessOf_value (percentile : ℤ) {bins : List ℕ} (hpixels : 0 < bins.sum)
    (hsaturated : ¬ Saturated bins) (hdark : ¬ Dark bins) :
    (estimateBrightnessOf percentile bins).value =
      7 / 10 * trimmedMean (sortedPixels bins) +
        3 / 10 * (foundValue percentile (sortedPixels bins) : ℚ) := by
  have htenth : 10 * bins.sum / 100 = bins.sum / 10 := by omega
  have hnine : 90 * bins.sum / 100 = 9 * bins.sum / 10 := by omega
  have hcount : 0 < (rankSlice (bins.sum / 10) (9 * bins.sum / 10) (sortedPixels bins)).length := by
    have hpos := rankSlice_pos (sortedPixels bins) (by rwa [length_sortedPixels])
    rwa [length_sortedPixels] at hpos
  unfold estimateBrightnessOf trimmedMean foundValue
  rw [if_neg hsaturated, if_neg hdark, walk_eq, htenth, hnine]
  simp only [length_sortedPixels, if_pos hcount]

theorem estimateBrightnessOf_confidence {percentile : ℤ} {bins : List ℕ}
    (hsaturated : ¬ Saturated bins) (hdark : ¬ Dark bins) :
    1 / 10 ≤ (estimateBrightnessOf percentile bins).confidence ∧
      (estimateBrightnessOf percentile bins).confidence ≤ 1 := by
  unfold estimateBrightnessOf
  rw [if_neg hsaturated, if_neg hdark]
  dsimp only
  refine ⟨le_max_left _ _, max_le (by norm_num) ?_⟩
  have hratio : 0 ≤ ((bins.drop 250).sum : ℚ) / bins.sum :=
    div_nonneg (Nat.cast_nonneg _) (Nat.cast_nonneg _)
  generalize ((bins.drop 250).sum : ℚ) / bins.sum = ratio at hratio ⊢
  generalize walk _ _ _ bins = w
  have hdeviation : 0 ≤ |(if 0 < w.countTrimmed then w.sumTrimmed / w.countTrimmed else w.pValue) -
      w.pValue| / 255 := div_nonneg (abs_nonneg _) (by norm_num)
  linarith

/-- A mean of values up to 255. -/
theorem mean_le {values : List ℕ} (hle : ∀ value ∈ values, value ≤ 255) :
    (values.sum : ℚ) / values.length ≤ 255 := by
  rcases Nat.eq_zero_or_pos values.length with hzero | hpos
  · rw [hzero, Nat.cast_zero, div_zero]
    norm_num
  · rw [div_le_iff₀ (by exact_mod_cast hpos)]
    have hsum := List.sum_le_card_nsmul values 255 hle
    rw [nsmul_eq_mul, Nat.cast_id, mul_comm] at hsum
    exact_mod_cast hsum

theorem mem_of_mem_rankSlice {a b value : ℕ} {pixels : List ℕ}
    (hmem : value ∈ rankSlice a b pixels) : value ∈ pixels :=
  List.mem_of_mem_drop (List.mem_of_mem_take hmem)

theorem getD_le {pixels : List ℕ} (hle : ∀ value ∈ pixels, value ≤ 255) (k : ℕ) :
    (pixels[k]?).getD 0 ≤ 255 := by
  cases hget : pixels[k]? with
  | none => exact Nat.zero_le _
  | some value => exact hle value (List.mem_of_getElem? hget)

theorem estimateBrightnessOf_range {percentile : ℤ} {bins : List ℕ} (hlength : bins.length = 256)
    (hpixels : 0 < bins.sum) (hsaturated : ¬ Saturated bins) (hdark : ¬ Dark bins) :
    0 ≤ (estimateBrightnessOf percentile bins).value ∧
      (estimateBrightnessOf percentile bins).value ≤ 255 := by
  have hle : ∀ value ∈ sortedPixels bins, value ≤ 255 := fun value hmem =>
    Nat.le_of_lt_succ (lt_of_mem_sortedPixels hlength hmem)
  have hmean : trimmedMean (sortedPixels bins) ≤ 255 :=
    mean_le fun value hmem => hle value (mem_of_mem_rankSlice hmem)
  have hmean' : 0 ≤ trimmedMean (sortedPixels bins) :=
    div_nonneg (Nat.cast_nonneg _) (Nat.cast_nonneg _)
  have hfound : (foundValue percentile (sortedPixels bins) : ℚ) ≤ 255 := by
    exact_mod_cast getD_le hle _
  have hfound' : (0 : ℚ) ≤ foundValue percentile (sortedPixels bins) := Nat.cast_nonneg _
  rw [estimateBrightnessOf_value percentile hpixels hsaturated hdark]
  constructor <;> linarith

/-- Below 100 percent the loops reach the position. -/
theorem foundValue_eq {percentile : ℕ} (hpercentile : percentile < 100) {pixels : List ℕ}
    (hpixels : 0 < pixels.length) :
    foundValue percentile pixels = percentileValue percentile pixels := by
  have hposition : ((percentile * pixels.length : ℤ).tdiv 100).toNat =
      percentile * pixels.length / 100 := by
    rw [Int.tdiv_eq_ediv_of_nonneg (by positivity)]
    exact_mod_cast Int.toNat_natCast (percentile * pixels.length / 100)
  have hle : percentile * pixels.length ≤ 99 * pixels.length :=
    Nat.mul_le_mul_right _ (Nat.le_of_lt_succ hpercentile)
  have hmin : min (percentile * pixels.length / 100) (pixels.length - 1) =
      percentile * pixels.length / 100 := min_eq_left (by omega)
  rw [foundValue, percentileValue, hposition, hmin, List.getD_eq_getElem?_getD]

/-- At 100 percent they do not. -/
theorem foundValue_hundred (pixels : List ℕ) : foundValue 100 pixels = 0 := by
  have hposition : ((100 * pixels.length : ℤ).tdiv 100).toNat = pixels.length := by
    rw [Int.mul_tdiv_cancel_left _ (by decide), Int.toNat_natCast]
  rw [foundValue, hposition, List.getElem?_eq_none le_rfl]
  rfl

/-- The value at 100 percent is the largest. -/
theorem le_percentileValue_hundred {pixels : List ℕ} (hsorted : pixels.Pairwise (· ≤ ·))
    {value : ℕ} (hmem : value ∈ pixels) : value ≤ percentileValue 100 pixels := by
  obtain ⟨k, hk, rfl⟩ := List.getElem_of_mem hmem
  have hlast : min (100 * pixels.length / 100) (pixels.length - 1) = pixels.length - 1 := by omega
  have hlt : pixels.length - 1 < pixels.length := by omega
  rw [percentileValue, hlast, List.getD_eq_getElem?_getD, List.getElem?_eq_getElem hlt,
    Option.getD_some]
  rcases Nat.lt_or_ge k (pixels.length - 1) with hbefore | hge
  · exact List.pairwise_iff_getElem.mp hsorted k (pixels.length - 1) hk hlt hbefore
  · have heq : k = pixels.length - 1 := by omega
    simp only [heq]
    exact le_rfl

/-! ## Main theorem -/

/-- What `estimate_brightness` should return. -/
structure EstimatesBrightness (percentile : ℕ) (bins : List ℕ) : Prop where
  value : (estimateBrightnessOf percentile bins).value =
    7 / 10 * trimmedMean (sortedPixels bins) +
      3 / 10 * (percentileValue percentile (sortedPixels bins) : ℚ)
  range : 0 ≤ (estimateBrightnessOf percentile bins).value ∧
    (estimateBrightnessOf percentile bins).value ≤ 255
  confidence : 1 / 10 ≤ (estimateBrightnessOf percentile bins).confidence ∧
    (estimateBrightnessOf percentile bins).confidence ≤ 1

/-- **The brightness of a histogram, exactly.**  For a frame that is neither saturated nor dark and
a percentile up to 100, the estimate is what it should be if and only if the percentile is
below 100. -/
theorem estimatesBrightness_iff (percentile : ℕ) (hpercentile : percentile ≤ 100)
    (bins : List ℕ) (hlength : bins.length = 256) (hpixels : 10 ≤ bins.sum)
    (hsaturated : ¬ Saturated bins) (hdark : ¬ Dark bins) :
    EstimatesBrightness percentile bins ↔ percentile < 100 := by
  have hpos : 0 < bins.sum := by omega
  have hfound := estimateBrightnessOf_value percentile hpos hsaturated hdark
  constructor
  · intro hestimates
    by_contra hge
    obtain rfl : percentile = 100 := by omega
    have hvalue := hestimates.value
    rw [hfound, Nat.cast_ofNat, foundValue_hundred] at hvalue
    -- a frame that is not dark has a value of at least 3
    obtain ⟨value, hmem, hbright⟩ : ∃ value ∈ sortedPixels bins, 3 ≤ value := by
      by_contra hnone
      push Not at hnone
      exact hdark ((dark_iff bins).mpr hnone)
    have hlast := le_percentileValue_hundred (sorted_sortedPixels bins).1 hmem
    have hthree : (3 : ℚ) ≤ percentileValue 100 (sortedPixels bins) := by
      exact_mod_cast hbright.trans hlast
    rw [Nat.cast_zero] at hvalue
    linarith
  · intro hlt
    refine ⟨?_, estimateBrightnessOf_range hlength hpos hsaturated hdark,
      estimateBrightnessOf_confidence hsaturated hdark⟩
    rw [hfound, foundValue_eq hlt (by rwa [length_sortedPixels])]

/-- Ten pixels with the value 100. -/
def tenPixels : List ℕ := List.replicate 100 0 ++ 10 :: List.replicate 155 0

theorem estimatesBrightness_median : EstimatesBrightness 50 tenPixels :=
  (estimatesBrightness_iff 50 (by decide) tenPixels (by decide +kernel) (by decide +kernel)
    (by decide +kernel) (by decide +kernel)).mpr (by decide)

/-- **Failing input.**  The value at 100 percent is 100, and the loops leave it at zero. -/
theorem not_estimatesBrightness_hundred :
    tenPixels.length = 256 ∧ tenPixels.sum = 10 ∧ ¬ Saturated tenPixels ∧ ¬ Dark tenPixels ∧
      (estimateBrightnessOf 100 tenPixels).value = 70 ∧ ¬ EstimatesBrightness 100 tenPixels := by
  have hvalue : (estimateBrightnessOf 100 tenPixels).value = 70 := by decide +kernel
  refine ⟨by decide +kernel, by decide +kernel, by decide +kernel, by decide +kernel, hvalue,
    fun hestimates => ?_⟩
  have hexpected : 7 / 10 * trimmedMean (sortedPixels tenPixels) +
      3 / 10 * (percentileValue 100 (sortedPixels tenPixels) : ℚ) = 100 := by decide +kernel
  have hsame := hestimates.value
  rw [Nat.cast_ofNat, hvalue, hexpected] at hsame
  exact absurd hsame (by decide +kernel)

/-! ## Histograms of resized frames -/

/-- The estimate of a resized frame is that of its bins. -/
theorem estimateBrightness_eq (percentile : ℤ) (h : Histogram) :
    estimateBrightness percentile h = estimateBrightnessOf percentile h.bins := by
  have hlow : 10 * (h.bins.sum : ℤ) / 100 = ((10 * h.bins.sum / 100 : ℕ) : ℤ) := by push_cast; rfl
  have hhigh : 90 * (h.bins.sum : ℤ) / 100 = ((90 * h.bins.sum / 100 : ℕ) : ℤ) := by push_cast; rfl
  unfold estimateBrightness estimateBrightnessOf
  dsimp only
  by_cases hsaturated : Saturated h.bins
  · rw [if_pos hsaturated]
    exact if_pos hsaturated
  rw [if_neg hsaturated]
  refine (if_neg hsaturated).trans ?_
  by_cases hdark : Dark h.bins
  · rw [if_pos hdark]
    exact if_pos hdark
  rw [if_neg hdark]
  refine (if_neg hdark).trans ?_
  simp only [hlow, hhigh, Nat.cast_le, pixels_eq_sortedPixels, find?_zipIdx_eq_getElem?,
    filter_zipIdx_eq_rankSlice, walk_eq]
  rfl

end OroEdge.Environment
