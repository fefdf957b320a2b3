import Mathlib.Algebra.Order.Field.Rat
import Mathlib.Tactic.Ring

/-!
# Fixed-width arithmetic on ordinary integers

Machine words are kept as `ℤ` (signed) and `ℕ` (unsigned); the operations that
can leave the range wrap explicitly.

Whether a program is right at the ends of the range is often the question, so no range is built
into the types: an integer that leaves its word is still an integer, and where the machine would
wrap, the model says so.  The lemmas then come in pairs, for the case in which nothing wraps
(`sub64_of_le`, `wrap64_eq_self`) and for the case in which something does (`sub64_of_lt`,
`wrap64_of_ge`), and a proof has to decide in which one it is.

Two cases matter more than others.  The unsigned difference of a time and a later one is very
large, so something looks overdue when a clock goes back.  And the least value, which programs
use for "never", has no distance from a time of today that would fit: the difference is negative
(`wrap64_sub_int64Min`).

Casts of floating-point numbers drop the fraction (`truncated`); what they do beyond the range
of the type is not a matter of words, and is left to `OroEdge.Lib.FloatCasts`.
-/

namespace OroEdge.Lib

/-- Two's-complement wrap onto `[-2^63, 2^63)`. -/
def wrap64 (x : ℤ) : ℤ := x.bmod 18446744073709551616

/-- Two's-complement wrap onto `[-2^31, 2^31)`. -/
def wrap32 (x : ℤ) : ℤ := x.bmod 4294967296

/-- The least signed 64-bit value. -/
def int64Min : ℤ := -9223372036854775808

/-- Unsigned 64-bit subtraction. -/
def sub64 (a b : ℕ) : ℕ := (a + 18446744073709551616 - b) % 18446744073709551616

/-- A cast to an unsigned 64-bit number. -/
def toUint64 (x : ℤ) : ℕ := (x % 18446744073709551616).toNat

/-- A cast of a floating-point number to an integer: the fraction is dropped. -/
def truncated (q : ℚ) : ℤ := q.num.tdiv q.den

/-- The numbers that a cast to `int` keeps. -/
def FitsInt (q : ℚ) : Prop := ∃ n : ℤ, (n : ℚ) = q ∧ -2147483648 ≤ n ∧ n < 2147483648

theorem sub64_of_le {a b : ℕ} (hle : b ≤ a) (hlt : a < 18446744073709551616) :
    sub64 a b = a - b := by
  unfold sub64
  omega

/-- The difference of a number and a larger one wraps. -/
theorem sub64_of_lt {a b : ℕ} (hlt : a < b) :
    sub64 a b = a + 18446744073709551616 - b := by
  unfold sub64
  omega

theorem wrap64_eq_self {x : ℤ} (hlow : int64Min ≤ x) (hhigh : x < -int64Min) :
    wrap64 x = x := by
  unfold int64Min at hlow hhigh
  exact Int.bmod_eq_of_le (by omega) (by omega)

theorem wrap64_bounds (x : ℤ) : int64Min ≤ wrap64 x ∧ wrap64 x < -int64Min := by
  have hlow := Int.le_bmod (x := x) (by decide : 0 < 18446744073709551616)
  have hhigh := Int.bmod_lt (x := x) (by decide : 0 < 18446744073709551616)
  unfold wrap64 int64Min
  omega

/-- A number just above the range wraps once. -/
theorem wrap64_of_ge {x : ℤ} (hlow : -int64Min ≤ x) (hhigh : x < -3 * int64Min) :
    wrap64 x = x + 2 * int64Min := by
  unfold int64Min at hlow hhigh ⊢
  unfold wrap64
  rw [show x = x + 2 * -9223372036854775808 + ((18446744073709551616 : ℕ) : ℤ) by push_cast; ring,
    Int.add_bmod_right, Int.bmod_eq_of_le (by omega) (by omega)]
  ring

/-- The distance from the least value to a nonnegative one does not fit: it
wraps to a negative number. -/
theorem wrap64_sub_int64Min {x : ℤ} (hlow : 0 ≤ x) (hhigh : x < -int64Min) :
    wrap64 (x - int64Min) = x + int64Min := by
  unfold int64Min at hhigh ⊢
  unfold wrap64
  rw [show x - -9223372036854775808
      = x + -9223372036854775808 + ((18446744073709551616 : ℕ) : ℤ) by push_cast; ring,
    Int.add_bmod_right]
  exact Int.bmod_eq_of_le (by omega) (by omega)

/-! ### Casts of floating-point numbers -/

theorem truncated_intCast (n : ℤ) : truncated n = n := by
  simp [truncated]

theorem truncated_neg (q : ℚ) : truncated (-q) = -truncated q := by
  simp [truncated, Int.neg_tdiv]

/-- The fraction that is dropped does not take a number past an integer. -/
theorem truncated_le {q : ℚ} {n : ℤ} (hle : q ≤ n) : truncated q ≤ n := by
  have hden : (0 : ℤ) < q.den := by exact_mod_cast q.den_pos
  have hnum : q.num ≤ n * q.den := by
    have hscaled : q * q.den ≤ n * q.den := mul_le_mul_of_nonneg_right hle (Nat.cast_nonneg _)
    rw [Rat.mul_den_eq_num] at hscaled
    exact_mod_cast hscaled
  calc truncated q ≤ (n * q.den).tdiv q.den := Int.tdiv_le_tdiv hden hnum
    _ = n := Int.mul_tdiv_cancel n hden.ne'

theorem le_truncated {q : ℚ} {n : ℤ} (hle : (n : ℚ) ≤ q) : n ≤ truncated q := by
  have hden : (0 : ℤ) < q.den := by exact_mod_cast q.den_pos
  have hnum : n * q.den ≤ q.num := by
    have hscaled : (n : ℚ) * q.den ≤ q * q.den :=
      mul_le_mul_of_nonneg_right hle (Nat.cast_nonneg _)
    rw [Rat.mul_den_eq_num] at hscaled
    exact_mod_cast hscaled
  calc n = (n * q.den).tdiv q.den := (Int.mul_tdiv_cancel n hden.ne').symm
    _ ≤ truncated q := Int.tdiv_le_tdiv hden hnum

end OroEdge.Lib
