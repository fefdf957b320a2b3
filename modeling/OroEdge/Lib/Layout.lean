import OroEdge.Lib.Calendar
import OroEdge.Lib.Stamp
import Mathlib.Algebra.Order.Ring.Nat

/-!
# Texts of a fixed layout

A layout is a list of pieces: numbers that are written with a fixed count of
digits, and characters.  What is printed from numbers that fit can be read back
(`Piece.read_print`), and printing keeps the lexicographic order
(`Piece.print_lt_print`).

Formats such as `%04d-%02d-%02d` are of this kind as long as every number fits into its field. 
A layout is data here, so both directions are proved once for all layouts, by induction on the
pieces: a field takes its width off the text (`length_fixedDigits`), the digits that it takes
give back the number (`ofDigitChars_fixedDigits`), and the rest is read by the rest of the
layout.

That texts are ordered as the numbers is by the same induction.  Texts of one length compare by
the first character in which they differ, so it is enough that one field keeps the order
(`fixedDigits_lt`) and that equal fields take equally many characters.  Padded numbers, which
are what programs write, agree with the fields where they fit (`toList_padded`).
-/

namespace OroEdge.Lib

/-- The last `width` decimal digits of a number. -/
def fixedDigits : ℕ → ℕ → List Char
  | 0, _ => []
  | width + 1, n => fixedDigits width (n / 10) ++ [Nat.digitChar (n % 10)]

/-- A number of fixed width, or a character. -/
inductive Piece
  | digits (width : ℕ)
  | literal (c : Char)
  deriving DecidableEq, Repr

namespace Piece

/-- The values in their places; what comes after the last value is left out. -/
def print : List Piece → List ℕ → List Char
  | .digits width :: layout, n :: values => fixedDigits width n ++ print layout values
  | .digits _ :: _, [] => []
  | .literal c :: layout, values => c :: print layout values
  | [], _ => []

/-- The numbers of a text that has the layout. -/
def read : List Piece → List Char → Option (List ℕ)
  | .digits width :: layout, input =>
      let digits := input.take width
      if digits.length = width ∧ digits.all Char.isDigit = true then
        (read layout (input.drop width)).map (Nat.ofDigitChars 10 digits 0 :: ·)
      else none
  | .literal c :: layout, input =>
      if input.head? = some c then read layout input.tail else none
  | [], input => if input = [] then some [] else none

/-- There is a number for each field, and it has no more digits than the field. -/
def Fits : List Piece → List ℕ → Prop
  | .digits width :: layout, n :: values => n < 10 ^ width ∧ Fits layout values
  | .digits _ :: _, [] => False
  | .literal _ :: layout, values => Fits layout values
  | [], values => values = []

end Piece

/-! ## The digits of one field -/

variable {width n n' : ℕ}

@[simp]
theorem length_fixedDigits (width n : ℕ) : (fixedDigits width n).length = width := by
  induction width generalizing n with
  | zero => rfl
  | succ width ih => simp [fixedDigits, ih]

theorem isDigit_of_mem_fixedDigits {c : Char} (hc : c ∈ fixedDigits width n) :
    c.isDigit = true := by
  induction width generalizing n with
  | zero => cases hc
  | succ width ih =>
      rcases List.mem_append.mp hc with hc | hc
      · exact ih hc
      · rw [List.mem_singleton.mp hc, Nat.isDigit_digitChar]
        exact decide_eq_true (Nat.mod_lt n (by decide))

theorem ofDigitChars_fixedDigits (hlt : n < 10 ^ width) :
    Nat.ofDigitChars 10 (fixedDigits width n) 0 = n := by
  induction width generalizing n with
  | zero =>
      have : n = 0 := by simpa using hlt
      rw [this]
      rfl
  | succ width ih =>
      have hdiv : n / 10 < 10 ^ width := by
        rw [pow_succ] at hlt
        omega
      rw [fixedDigits, Nat.ofDigitChars_append, ih hdiv,
        Nat.ofDigitChars_cons_digitChar_of_lt_ten (Nat.mod_lt n (by decide)), Nat.ofDigitChars_nil]
      omega

theorem append_lt_append {first second : List Char} (hlt : first < second)
    (hlength : first.length = second.length) (rest rest' : List Char) :
    first ++ rest < second ++ rest' := by
  induction first generalizing second with
  | nil =>
      rw [List.length_eq_zero_iff.mp hlength.symm] at hlt
      cases hlt
  | cons c first ih =>
      cases second with
      | nil => cases hlength
      | cons d second =>
          rw [List.cons_append, List.cons_append, List.cons_lt_cons_iff]
          rcases List.cons_lt_cons_iff.mp hlt with h | ⟨h, hlt⟩
          · exact Or.inl h
          · exact Or.inr ⟨h, ih hlt (Nat.succ.inj hlength)⟩

theorem digitChar_lt_digitChar : ∀ d d' : Fin 10, d < d' →
    Nat.digitChar d < Nat.digitChar d' := by
  decide

/-- The digits of a field keep the order of the numbers. -/
theorem fixedDigits_lt (hlt : n < n') (hfits : n' < 10 ^ width) :
    fixedDigits width n < fixedDigits width n' := by
  induction width generalizing n n' with
  | zero => 
      rw [pow_zero] at hfits
      omega
  | succ width ih =>
      rw [pow_succ] at hfits
      unfold fixedDigits
      rcases (show n / 10 ≤ n' / 10 by omega).lt_or_eq with hdiv | hdiv
      · exact append_lt_append (ih hdiv (by omega)) (by simp) _ _
      · rw [hdiv]
        refine List.append_left_lt (List.cons_lt_cons_iff.mpr (Or.inl ?_))
        exact digitChar_lt_digitChar ⟨n % 10, by omega⟩ ⟨n' % 10, by omega⟩
          (Fin.mk_lt_mk.mpr (by omega))

/-! ## A whole text -/

namespace Piece

variable {layout : List Piece} {values values' : List ℕ}

theorem read_print (hfits : Fits layout values) :
    read layout (print layout values) = some values := by
  induction layout generalizing values with
  | nil =>
      rw [Fits] at hfits
      rw [hfits]
      rfl
  | cons piece layout ih =>
      cases piece with
      | literal c => simpa [print, read] using ih hfits
      | digits width =>
          cases values with
          | nil => cases hfits
          | cons n values =>
              obtain ⟨hn, hrest⟩ := hfits
              have htake : (fixedDigits width n ++ print layout values).take width =
                  fixedDigits width n := List.take_left' (length_fixedDigits width n)
              have hdrop : (fixedDigits width n ++ print layout values).drop width =
                  print layout values := List.drop_left' (length_fixedDigits width n)
              have hdigits : (fixedDigits width n).all Char.isDigit = true :=
                List.all_eq_true.mpr fun c hc => isDigit_of_mem_fixedDigits hc
              simp only [print, read, htake, hdrop, length_fixedDigits, hdigits, and_self, if_true,
                ofDigitChars_fixedDigits hn, ih hrest, Option.map_some]

/-- Printing keeps the lexicographic order. -/
theorem print_lt_print (hfits : Fits layout values) (hfits' : Fits layout values')
    (hlt : values < values') : print layout values < print layout values' := by
  induction layout generalizing values values' with
  | nil =>
      rw [Fits] at hfits hfits'
      rw [hfits, hfits'] at hlt
      cases hlt
  | cons piece layout ih =>
      cases piece with
      | literal c => exact List.cons_lt_cons_iff.mpr (Or.inr ⟨rfl, ih hfits hfits' hlt⟩)
      | digits width =>
          cases values with
          | nil => cases hfits
          | cons n values =>
              cases values' with
              | nil => cases hfits'
              | cons n' values' =>
                  rcases List.cons_lt_cons_iff.mp hlt with hn | ⟨rfl, hrest⟩
                  · exact append_lt_append (fixedDigits_lt hn hfits'.1) (by simp) _ _
                  · exact List.append_left_lt (ih hfits.2 hfits'.2 hrest)

end Piece

/-! ## Padded numbers -/

theorem fixedDigits_zero (width : ℕ) : fixedDigits width 0 = List.replicate width '0' := by
  induction width with
  | zero => rfl
  | succ width ih =>
      rw [fixedDigits, Nat.zero_div, ih, List.replicate_succ']
      rfl

theorem replicate_append_toDigits (hpos : 0 < width) (hlt : n < 10 ^ width) :
    List.replicate (width - (Nat.toDigits 10 n).length) '0' ++ Nat.toDigits 10 n =
      fixedDigits width n := by
  induction width generalizing n with
  | zero => exact absurd hpos (Nat.lt_irrefl 0)
  | succ width ih =>
      rw [fixedDigits]
      by_cases hdigit : n < 10
      · rw [Nat.toDigits_of_lt_base hdigit, Nat.div_eq_of_lt hdigit, Nat.mod_eq_of_lt hdigit,
          fixedDigits_zero]
        rfl
      · -- the last digit is split off on both sides
        have hwidth : 0 < width := by
          rcases Nat.eq_zero_or_pos width with rfl | h
          · simp at hlt
            omega
          · exact h
        rw [pow_succ] at hlt
        rw [Nat.toDigits_of_base_le (by decide) (by omega), ← ih hwidth (by omega),
          List.length_append, List.length_singleton, Nat.add_sub_add_right, List.append_assoc]

/-- A number that fits is padded to the digits of its field. -/
theorem toList_padded (hpos : 0 < width) (hlt : n < 10 ^ width) :
    (padded width n).toList = fixedDigits width n := by
  rw [← replicate_append_toDigits hpos hlt]
  simp [padded, Nat.toString_eq_repr, ← String.length_toList]

theorem toList_padded_toNat {x : ℤ} (hpos : 0 < width) (hnonneg : 0 ≤ x)
    (hlt : x.toNat < 10 ^ width) : (padded width x).toList = fixedDigits width x.toNat := by
  rw [← toList_padded hpos hlt, Int.toNat_of_nonneg hnonneg]

theorem isDigit_of_mem_padded {width : ℕ} {n : ℤ} {c : Char} (hc : c ∈ (padded width n).toList) :
    c.isDigit = true := by
  unfold padded at hc
  rw [String.toList_append, String.toList_ofList] at hc
  rcases List.mem_append.mp hc with hc | hc
  · rw [(List.mem_replicate.mp hc).2]
    rfl
  · exact isDigit_of_mem_toString hc

theorem toList_padded_ne_nil (width : ℕ) (n : ℤ) : (padded width n).toList ≠ [] := by
  intro hnil
  unfold padded at hnil
  rw [String.toList_append, List.append_eq_nil_iff, Nat.toString_eq_repr, Nat.toList_repr] at hnil
  exact (List.ne_nil_of_length_pos Nat.length_toDigits_pos) hnil.2

end OroEdge.Lib
