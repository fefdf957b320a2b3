import Mathlib.Algebra.BigOperators.Group.List.Basic
import Mathlib.Data.Int.Order.Basic
import Mathlib.Data.List.Range
import Mathlib.Order.Monotone.Basic

/-!
# Sums over slices of a line

Rows that carry a point of a line, and a value to be added up.  A slice of the line is
given by its ends, of which the first belongs to it.  The sums over slices that follow on
each other add up to the sum over the whole (`sum_slices`).

It is the fact behind every account that is kept by the day: what is added up day by day is what
is added up over all days, if each row belongs to exactly one of them.  A slice is half-open for
this reason.  With both ends inside, a row at midnight would be counted twice, and with neither,
not at all.

The points are integers and the values are of any additive monoid, so the same lemma is used for
grams and for counts of meals.  Two neighbouring slices are put together first (`sliceSum_add`):
of a row whose point lies in the whole, exactly one of the two conditions holds.  Any number of
them follows by induction on that number.
-/

namespace OroEdge.Lib

variable {Row M : Type*} [AddCommMonoid M] (point : Row → ℤ) (value : Row → M)

/-- The rows of a slice. -/
def slice (low high : ℤ) (rows : List Row) : List Row :=
  rows.filter fun row => decide (low ≤ point row) && decide (point row < high)

/-- The sum over the rows of a slice. -/
def sliceSum (low high : ℤ) (rows : List Row) : M := ((slice point low high rows).map value).sum

variable {low mid high : ℤ}

theorem sliceSum_self (low : ℤ) (rows : List Row) : sliceSum point value low low rows = 0 := by
  have hnone : slice point low low rows = [] := by
    refine List.filter_eq_nil_iff.mpr fun row _ => ?_
    simp only [Bool.and_eq_true, decide_eq_true_eq]
    omega
  rw [sliceSum, hnone]
  rfl

/-- Two slices that follow on each other. -/
theorem sliceSum_add (hlow : low ≤ mid) (hhigh : mid ≤ high) (rows : List Row) :
    sliceSum point value low mid rows + sliceSum point value mid high rows =
      sliceSum point value low high rows := by
  induction rows with
  | nil => exact add_zero 0
  | cons row rest ih =>
      unfold sliceSum slice at ih ⊢
      by_cases hfirst : low ≤ point row ∧ point row < mid
      · have hsecond : ¬ (mid ≤ point row ∧ point row < high) := by omega
        have hwhole : low ≤ point row ∧ point row < high := by omega
        rw [List.filter_cons_of_pos (by simpa using hfirst),
          List.filter_cons_of_neg (by simpa using hsecond),
          List.filter_cons_of_pos (by simpa using hwhole), List.map_cons, List.sum_cons,
          List.map_cons, List.sum_cons, add_assoc, ih]
      by_cases hsecond : mid ≤ point row ∧ point row < high
      · have hwhole : low ≤ point row ∧ point row < high := by omega
        rw [List.filter_cons_of_neg (by simpa using hfirst),
          List.filter_cons_of_pos (by simpa using hsecond),
          List.filter_cons_of_pos (by simpa using hwhole), List.map_cons, List.sum_cons,
          List.map_cons, List.sum_cons, add_left_comm, ih]
      · have hwhole : ¬ (low ≤ point row ∧ point row < high) := by omega
        rw [List.filter_cons_of_neg (by simpa using hfirst),
          List.filter_cons_of_neg (by simpa using hsecond),
          List.filter_cons_of_neg (by simpa using hwhole), ih]

/-- Slices that follow on each other. -/
theorem sum_slices {bound : ℕ → ℤ} (hstep : ∀ i, bound i ≤ bound (i + 1)) (rows : List Row)
    (n : ℕ) :
    ((List.range n).map fun i => sliceSum point value (bound i) (bound (i + 1)) rows).sum =
      sliceSum point value (bound 0) (bound n) rows := by
  induction n with
  | zero => exact (sliceSum_self point value (bound 0) rows).symm
  | succ n ih =>
      rw [List.range_succ, List.map_append, List.sum_append, ih, List.map_singleton,
        List.sum_singleton]
      exact sliceSum_add point value (monotone_nat_of_le_succ hstep (Nat.zero_le n)) (hstep n) rows

end OroEdge.Lib
