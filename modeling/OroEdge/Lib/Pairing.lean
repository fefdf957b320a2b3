import Mathlib.Algebra.Group.Nat.Even
import Mathlib.Tactic.Common

/-!
# Reading in pairs

A loop that takes two elements of a stream at a time, and hands each pair on with the
number of its round.  A last element without a second one waits.

What is read of a second part of the stream depends on the length of the first: after an
even one the pairs of the second part are its own (`readPairs_append_of_even`), and after
an odd one its first element completes a pair of the first part
(`readPairs_append_cons_of_odd`).

The number of a round tells a handler apart from others of its kind, so that something can be
said of the `n`-th pair that is handed on, and not only of the pairs as a collection.  Elements
are numbered in the order of the stream, and pairs by the rounds that take them.

The induction goes in steps of two, along the definition.  It is on the first part of the
stream, with the number of the round generalised; the second part is cut off where the pairs of
the first one end, which is at its end, or one element beyond it.
-/

namespace OroEdge.Lib

variable {α β : Type*} {handle : ℕ → α → α → List β}

/-- Two items are read at a time, and a last one without a partner is not handled. -/
def readPairs (handle : ℕ → α → α → List β) : ℕ → List α → List β
  | n, a :: b :: rest => handle n a b ++ readPairs handle (n + 1) rest
  | _, _ => []

@[simp] theorem readPairs_nil (n : ℕ) : readPairs handle n [] = [] := rfl

@[simp] theorem readPairs_singleton (n : ℕ) (a : α) : readPairs handle n [a] = [] := rfl

@[simp] theorem readPairs_cons_cons (n : ℕ) (a b : α) (rest : List α) :
    readPairs handle n (a :: b :: rest) = handle n a b ++ readPairs handle (n + 1) rest := rfl

/-- After an even number of elements a round starts. -/
theorem readPairs_append_of_even (n : ℕ) {first : List α} (heven : Even first.length)
    (second : List α) : readPairs handle n (first ++ second) =
      readPairs handle n first ++ readPairs handle (n + first.length / 2) second := by
  induction n, first using readPairs.induct with
  | case1 n a b rest ih =>
      have hrest : Even rest.length := by
        rw [Nat.even_iff, List.length_cons, List.length_cons] at heven
        rw [Nat.even_iff]
        omega
      have hrounds : n + (a :: b :: rest).length / 2 = n + 1 + rest.length / 2 := by
        rw [List.length_cons, List.length_cons]
        omega
      rw [List.cons_append, List.cons_append, readPairs_cons_cons, readPairs_cons_cons, ih hrest,
        hrounds, List.append_assoc]
  | case2 first n hshort =>
      cases first with
      | nil => simp only [List.nil_append, readPairs_nil, List.length_nil, Nat.zero_div, add_zero]
      | cons a rest =>
          cases rest with
          | nil => exact absurd heven Nat.not_even_one
          | cons b rest => exact (hshort a b rest rfl).elim

/-- The first of a pair waits for the second. -/
theorem readPairs_append_singleton_of_even (n : ℕ) {first : List α} (heven : Even first.length)
    (a : α) : readPairs handle n (first ++ [a]) = readPairs handle n first := by
  rw [readPairs_append_of_even n heven, readPairs_singleton, List.append_nil]

/-- After an odd number of elements, the last of them is read with the next. -/
theorem readPairs_append_cons_of_odd (n : ℕ) {first : List α} (heven : Even first.length)
    (a b : α) (second : List α) : readPairs handle n ((first ++ [a]) ++ b :: second) =
      readPairs handle n (first ++ [a]) ++ (handle (n + first.length / 2) a b ++
        readPairs handle (n + first.length / 2 + 1) second) := by
  rw [List.append_assoc, readPairs_append_of_even n heven,
    readPairs_append_singleton_of_even n heven]
  rfl

end OroEdge.Lib
