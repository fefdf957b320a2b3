import Mathlib.Algebra.Order.BigOperators.Group.List
import Mathlib.Data.List.Forall2
import Mathlib.Data.List.Induction
import Mathlib.Order.Lattice

/-!
# Ranks in sorted lists

The element at a position of a sorted list is known from counts: it is at most `v` exactly
if more elements than its position are.  So raising elements of a list raises its order
statistics (`sorted_le_sorted`).

`rankSlice a b` is the part of a list from position `a` to position `b`; a loop that numbers
the elements finds it by looking at the numbers (`filter_zipIdx_eq_rankSlice`).

A histogram of values is such a list in another form: the values from the least to the greatest,
each as often as it occurs.  A loop over the bins of a histogram that keeps a running count does
not see the list, and the lemmas about counts are what connects the two.

That order statistics are monotone is the fact on which comparisons of percentiles rest.  It is
not proved by sorting two lists side by side, but from counts: if every element of a list is
raised, then no value has more elements at or below it than before (`countP_le_of_forall₂`), so
the element at a position cannot have come down.  The order in which the elements are given,
before sorting, does not matter for a count.
-/

namespace OroEdge.Lib

/-! ## Order statistics -/

section

variable {α : Type*} [LinearOrder α]

theorem getElem_le_iff_lt_countP {s : List α} (hsorted : s.Pairwise (· ≤ ·)) {k : ℕ}
    (hk : k < s.length) (v : α) : s[k] ≤ v ↔ k < s.countP fun x => decide (x ≤ v) := by
  induction s generalizing k with
  | nil => exact absurd hk (Nat.not_lt_zero k)
  | cons x s ih =>
      obtain ⟨hhead, htail⟩ := List.pairwise_cons.mp hsorted
      by_cases hx : x ≤ v
      · rw [List.countP_cons_of_pos (by simpa using hx)]
        cases k with
        | zero => simpa using hx
        | succ k =>
            rw [List.getElem_cons_succ, ih htail (by simpa using hk)]
            exact Nat.succ_lt_succ_iff.symm
      · -- the list is above `v` from here on
        have hnone : (s.countP fun x => decide (x ≤ v)) = 0 := by
          rw [List.countP_eq_zero]
          intro y hy
          simpa using (not_le.mp hx).trans_le (hhead y hy)
        rw [List.countP_cons_of_neg (by simpa using hx), hnone]
        refine iff_of_false (fun hle => hx ?_) (Nat.not_lt_zero k)
        cases k with
        | zero => exact hle
        | succ k => exact (hhead _ (List.getElem_mem _)).trans hle

/-- Raised elements are at most `v` less often. -/
theorem countP_le_of_forall₂ {l l' : List α} (hle : List.Forall₂ (· ≤ ·) l l') (v : α) :
    (l'.countP fun x => decide (x ≤ v)) ≤ l.countP fun x => decide (x ≤ v) := by
  induction hle with
  | nil => exact le_rfl
  | @cons x x' l l' hx _ ih =>
      rw [List.countP_cons, List.countP_cons]
      refine Nat.add_le_add ih ?_
      by_cases hx' : x' ≤ v
      · simp [hx', hx.trans hx']
      · simp [hx']

/-- **Order statistics are monotone.** -/
theorem sorted_le_sorted {l l' s s' : List α} (hle : List.Forall₂ (· ≤ ·) l l')
    (hsorted : s.Pairwise (· ≤ ·)) (hsorted' : s'.Pairwise (· ≤ ·)) (hperm : s.Perm l)
    (hperm' : s'.Perm l') : List.Forall₂ (· ≤ ·) s s' := by
  have hlength : s.length = s'.length := by
    rw [hperm.length_eq, hperm'.length_eq, hle.length_eq]
  refine List.forall₂_iff_get.mpr ⟨hlength, fun k hk hk' => ?_⟩
  show s[k] ≤ s'[k]
  rw [getElem_le_iff_lt_countP hsorted hk, hperm.countP_eq]
  refine lt_of_lt_of_le ?_ (countP_le_of_forall₂ hle _)
  rw [← hperm'.countP_eq, ← getElem_le_iff_lt_countP hsorted' hk']

end

/-! ## Segments -/

section

variable {α : Type*} {a b : ℕ}

/-- The elements at the positions from `a` to `b`. -/
def rankSlice (a b : ℕ) (l : List α) : List α := (l.drop a).take (b + 1 - a)

theorem length_segment (l : List α) (hb : b < l.length) :
    (rankSlice a b l).length = b + 1 - a := by
  rw [rankSlice, List.length_take, List.length_drop]
  omega

theorem rankSlice_snoc (l : List α) (x : α) :
    rankSlice a b (l ++ [x]) =
      if a ≤ l.length ∧ l.length ≤ b then rankSlice a b l ++ [x] else rankSlice a b l := by
  unfold rankSlice
  split_ifs with hin
  · rw [List.drop_append_of_le_length hin.1, List.take_of_length_le (by simp; omega),
      List.take_of_length_le (by simp; omega)]
  · by_cases ha : a ≤ l.length
    · rw [List.drop_append_of_le_length ha, List.take_append_of_le_length (by simp; omega)]
    · rw [List.drop_of_length_le (by simp; omega), List.drop_of_length_le (by omega)]

theorem zipIdx_snoc (l : List α) (x : α) : (l ++ [x]).zipIdx = l.zipIdx ++ [(x, l.length)] := by
  simp [List.zipIdx_append]

/-- The part of a list, found by the numbers of the elements. -/
theorem filter_zipIdx_eq_rankSlice (l : List α) :
    (l.zipIdx.filter fun p => decide (a ≤ p.2) && decide (p.2 ≤ b)).map Prod.fst =
      rankSlice a b l := by
  induction l using List.reverseRecOn with
  | nil => simp [rankSlice]
  | append_singleton l x ih =>
      rw [zipIdx_snoc, List.filter_append, List.map_append, ih, rankSlice_snoc]
      split_ifs with hin
      · simp [hin]
      · have hout : (decide (a ≤ l.length) && decide (l.length ≤ b)) = false := by
          simpa using hin
        simp [hout]

/-- The first element with a number of at least `a`. -/
theorem find?_zipIdx_eq_getElem? (l : List α) (a : ℤ) :
    (l.zipIdx.find? fun p => decide (a ≤ (p.2 : ℤ))).map Prod.fst = l[a.toNat]? := by
  induction l using List.reverseRecOn with
  | nil => simp
  | append_singleton l x ih =>
      rw [zipIdx_snoc, List.find?_append, Option.map_or, ih]
      by_cases hlt : a.toNat < l.length
      · rw [List.getElem?_append_left hlt, List.getElem?_eq_getElem hlt, Option.some_or]
      · rw [List.getElem?_eq_none (not_lt.mp hlt), Option.none_or,
          List.getElem?_append_right (not_lt.mp hlt)]
        by_cases heq : a.toNat = l.length
        · have hle : a ≤ (l.length : ℤ) := by omega
          simp [hle, heq]
        · have hgt : ¬ a ≤ (l.length : ℤ) := by omega
          have hpos : a.toNat - l.length ≠ 0 := by omega
          simp [hgt, hpos]

end

end OroEdge.Lib
