import OroEdge.Lib.Word

/-!
# Casts of floating-point numbers to integer types

A cast to an integer type drops the fraction (`truncated`).  Where the integer that is left is not
one of the type, C++ says nothing about the result, and machines differ: x86-64 gives the least
`int`, ARM64 the nearest one.  A program that is verified for one of them may fail on the other.

So nothing is assumed beyond the range.  `FloatCasts` says, for each type and each number, which
value of the type the cast gives there, and a model takes it as a parameter that stays arbitrary.
That the results are values of their types is part of `FloatCasts`, so a cast always ends in the
range of its type (`castTo_bounds`), and within the range it is the integer that is left, for every
parameter (`castTo_of_le`).

What follows for a program is decided by the second fact alone: a number is kept by a cast if and
only if it is an integer of the type (`toInt32_eq_iff`), whatever the machine does with the others.
`FloatCasts.saturating` is one such machine, for statements about fixed inputs.
-/

namespace OroEdge.Lib

/-- The values of an integer type. -/
def Within (low high : ℤ) : Type := { n : ℤ // low ≤ n ∧ n ≤ high }

/-- The value of the type that is nearest to an integer. -/
def nearest {low high : ℤ} (hle : low ≤ high) (n : ℤ) : Within low high :=
  ⟨max low (min high n), by omega⟩

variable {low high : ℤ}

/-- The cast to a type with the values from `low` to `high`; `beyond` are its results for the
numbers that the type does not hold. -/
def castTo (beyond : ℚ → Within low high) (q : ℚ) : ℤ :=
  if low ≤ truncated q ∧ truncated q ≤ high then truncated q else (beyond q).1

theorem castTo_of_le {beyond : ℚ → Within low high} {q : ℚ} (hlow : low ≤ truncated q)
    (hhigh : truncated q ≤ high) : castTo beyond q = truncated q :=
  if_pos ⟨hlow, hhigh⟩

theorem castTo_bounds (beyond : ℚ → Within low high) (q : ℚ) :
    low ≤ castTo beyond q ∧ castTo beyond q ≤ high := by
  unfold castTo
  split_ifs with hwithin
  · exact hwithin
  · exact (beyond q).2

/-- An integer of the type is kept. -/
theorem castTo_intCast {beyond : ℚ → Within low high} {n : ℤ} (hlow : low ≤ n) (hhigh : n ≤ high) :
    castTo beyond n = n := by
  have htruncated : truncated (n : ℚ) = n := truncated_intCast n
  rw [castTo_of_le (by rw [htruncated]; exact hlow) (by rw [htruncated]; exact hhigh), htruncated]

/-- The results of the casts beyond the ranges of their types, which C++ leaves undefined. -/
structure FloatCasts where
  int8 : ℚ → Within (-128) 127
  uint8 : ℚ → Within 0 255
  int32 : ℚ → Within (-2147483648) 2147483647
  int64 : ℚ → Within (-9223372036854775808) 9223372036854775807

namespace FloatCasts

variable (casts : FloatCasts)

/-- `static_cast<int8_t>`. -/
def toInt8 (q : ℚ) : ℤ := castTo casts.int8 q

/-- `static_cast<uint8_t>`. -/
def toUint8 (q : ℚ) : ℤ := castTo casts.uint8 q

/-- `static_cast<int>`. -/
def toInt32 (q : ℚ) : ℤ := castTo casts.int32 q

/-- `static_cast<int64_t>`. -/
def toInt64 (q : ℚ) : ℤ := castTo casts.int64 q

/-- A cast to `int` keeps the integers of the type, and changes every other number. -/
theorem toInt32_eq_iff {q : ℚ} : ((casts.toInt32 q : ℤ) : ℚ) = q ↔ FitsInt q := by
  constructor
  · intro hsame
    obtain ⟨hlow, hhigh⟩ := castTo_bounds casts.int32 q
    exact ⟨casts.toInt32 q, hsame, hlow, Int.lt_add_one_of_le hhigh⟩
  · rintro ⟨n, rfl, hlow, hhigh⟩
    rw [toInt32, castTo_intCast hlow (Int.le_of_lt_add_one hhigh)]

/-- A machine that takes the nearest value of the type, as ARM64 does. -/
def saturating : FloatCasts where
  int8 q := nearest (by decide) (truncated q)
  uint8 q := nearest (by decide) (truncated q)
  int32 q := nearest (by decide) (truncated q)
  int64 q := nearest (by decide) (truncated q)

end FloatCasts

end OroEdge.Lib
