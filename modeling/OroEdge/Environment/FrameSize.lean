import OroEdge.Environment.Estimator
import Mathlib.Tactic.Ring

/-!
# The size of a frame

A frame that passes the check of its size should have the bytes that its decoding reads:
`3 * height / 2` rows of `width` bytes.

The check computes `width * height * 3` with 32 bits.  The two roundings never matter, for
an odd height the matrix is the smaller one.  A product that wraps does: the check is
sufficient exactly for the sizes whose product fits (`sizeCheck_sufficient_iff`).

The matrix has `height * 3 / 2` rows, rounded down, and the expected size is the product halved,
rounded down; `two_mul_nv12Size` compares the two without a wrap.  A wrap takes away a multiple
of `2 ^ 32`, which halved is more than the half row that rounding could make up for
(`expectedSize_lt_nv12Size`).  So a size is good exactly if its product does not wrap, and no
case split on the parity of the height is left in the theorem.
-/

namespace OroEdge.Environment

namespace VideoFrame

/-! ## The check, and the bytes that are read -/

/-- `expected_size`, where the products wrap. -/
def expectedSize (frame : VideoFrame) : ℕ := frame.width * frame.height * 3 % 4294967296 / 2

/-- `data_size >= expected_size`. -/
def PassesSizeCheck (frame : VideoFrame) : Prop := frame.expectedSize ≤ frame.dataSize

instance (frame : VideoFrame) : Decidable frame.PassesSizeCheck :=
  inferInstanceAs (Decidable (_ ≤ _))

/-- The bytes of an image in NV12, over the integers. -/
def nv12Size (frame : VideoFrame) : ℕ := 3 * frame.height / 2 * frame.width

/-- The bytes of the matrix `nv12`: its number of rows is computed with 32 bits. -/
def matrixSize (frame : VideoFrame) : ℕ := frame.height * 3 % 4294967296 / 2 * frame.width

/-! ## Half of a product -/

/-- The rows of an even height make up half of the product, and those of an odd height half
a row less. -/
theorem two_mul_nv12Size (frame : VideoFrame) :
    2 * frame.nv12Size = frame.width * frame.height * 3 ∨
      2 * frame.nv12Size + frame.width = frame.width * frame.height * 3 := by
  rcases Nat.even_or_odd' frame.height with ⟨half, hheight | hheight⟩
  · left
    have hrows : 3 * frame.height / 2 = 3 * half := by omega
    rw [nv12Size, hrows, hheight]
    ring
  · right
    have hrows : 3 * frame.height / 2 = 3 * half + 1 := by omega
    rw [nv12Size, hrows, hheight]
    ring

theorem nv12Size_le_expectedSize (frame : VideoFrame)
    (hfits : 3 * frame.width * frame.height < 4294967296) :
    frame.nv12Size ≤ frame.expectedSize := by
  have hproduct : 3 * frame.width * frame.height = frame.width * frame.height * 3 := by ring
  have hhalf := two_mul_nv12Size frame
  rw [hproduct] at hfits
  unfold expectedSize
  generalize frame.width * frame.height * 3 = product at *
  omega

/-- What a wrap takes away is more than the half row. -/
theorem expectedSize_lt_nv12Size (frame : VideoFrame) (hwidth : frame.width < 4294967296)
    (hwraps : 4294967296 ≤ 3 * frame.width * frame.height) :
    frame.expectedSize < frame.nv12Size := by
  have hproduct : 3 * frame.width * frame.height = frame.width * frame.height * 3 := by ring
  have hhalf := two_mul_nv12Size frame
  rw [hproduct] at hwraps
  unfold expectedSize
  generalize frame.width * frame.height * 3 = product at *
  omega

/-! ## Main theorem -/

/-- Every frame of a size that passes the check has the bytes of its image. -/
def SizeCheckSufficient (width height : ℕ) : Prop :=
  ∀ (dataSize : ℕ) (luminance : Option Histogram),
    PassesSizeCheck ⟨width, height, dataSize, luminance⟩ →
      nv12Size ⟨width, height, dataSize, luminance⟩ ≤ dataSize

/-- **The check of the size, exactly.**  Every frame of a size that passes the check has the bytes
of its image, if and only if three times the product of the size does not wrap. -/
theorem sizeCheck_sufficient_iff (width height : ℕ) (hwidth : width < 4294967296) :
    SizeCheckSufficient width height ↔ 3 * width * height < 4294967296 := by
  constructor
  · intro hsufficient
    by_contra hwraps
    -- data of exactly the expected size
    have hlt := expectedSize_lt_nv12Size ⟨width, height, 0, none⟩ hwidth (not_lt.mp hwraps)
    have hle := hsufficient (expectedSize ⟨width, height, 0, none⟩) none le_rfl
    exact absurd hlt (not_lt.mpr hle)
  · intro hfits dataSize luminance hpasses
    have hle := nv12Size_le_expectedSize ⟨width, height, dataSize, luminance⟩ hfits
    exact hle.trans hpasses

/-- A frame of 640 × 480, with its bytes. -/
theorem sizeCheck_sufficient_vga : SizeCheckSufficient 640 480 :=
  (sizeCheck_sufficient_iff 640 480 (by decide)).mpr (by decide)

/-- **Failing input.**  No byte is expected of a frame of 65536 × 65536, and a matrix of more than
6 GB is read. -/
theorem not_sizeCheck_sufficient :
    PassesSizeCheck ⟨65536, 65536, 0, none⟩ ∧ matrixSize ⟨65536, 65536, 0, none⟩ = 6442450944 ∧
      ¬ SizeCheckSufficient 65536 65536 := by
  refine ⟨by decide, by decide, fun hsufficient => ?_⟩
  exact absurd (hsufficient 0 none (by decide)) (by decide)

end VideoFrame

end OroEdge.Environment
