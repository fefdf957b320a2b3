import Mathlib.Data.List.MinMax
import Mathlib.Tactic.Common

/-!
# The earliest of a list

`List.argmin` is the search for the least value: it returns the element whose value is
least, and the first one of several.  Two facts say when two searches agree: only the
order of the values counts (`argmin_congr`), and a search that passes over elements
finds the same one if all that it looks at come before all that it passes over
(`argmin_filter`).

A loop that keeps the best candidate so far is such a search, from the front and with a strict
comparison, so that the first of several equal ones stays.  The lemmas about one more element at
the end (`argmin_concat_of_lt`, `argmin_concat_of_le`) are what relates the loop to
`List.argmin`.

That a search may pass over elements is what lets two of them be compared, one over the
candidates of today and one over those of today and tomorrow: the elements that are passed over
must come later than every one that is looked at, and not only later than the one that is found.
-/

namespace OroEdge.Lib

variable {α β γ : Type*} [LinearOrder β] [LinearOrder γ] {f : α → β} {g : α → γ} {l : List α}

theorem argmin_congr (horder : ∀ a ∈ l, ∀ b ∈ l, f a < f b ↔ g a < g b) :
    l.argmin f = l.argmin g := by
  induction l using List.reverseRecOn with
  | nil => rfl
  | append_singleton l a ih =>
      have hinit : l.argmin f = l.argmin g := by
        apply ih
        intro b hb c hc
        exact horder b (List.mem_append_left _ hb) c (List.mem_append_left _ hc)
      rw [List.argmin_concat, List.argmin_concat, hinit]
      cases hbest : l.argmin g with
      | none => rfl
      | some c =>
          have hc : c ∈ l := List.argmin_mem hbest
          simp only [horder a (by simp) c (List.mem_append_left _ hc)]

theorem argmin_concat_of_lt {a : α} (hlt : ∀ b ∈ l, f a < f b) : (l ++ [a]).argmin f = some a := by
  rw [List.argmin_concat]
  cases hbest : l.argmin f with
  | none => rfl
  | some b => exact if_pos (hlt b (List.argmin_mem hbest))

theorem argmin_concat_of_le {a c : α} (hbest : c ∈ l.argmin f) (hle : f c ≤ f a) :
    (l ++ [a]).argmin f = some c := by
  rw [List.argmin_concat, Option.mem_def.mp hbest]
  exact if_neg hle.not_gt

/-- The elements that a search looks at, the first one of which is the first of all. -/
theorem mem_argmin_of_filter {p : α → Bool}
    (hseparated : ∀ a ∈ l, p a = true → ∀ b ∈ l, p b = false → f a < f b) {c : α}
    (hc : c ∈ (l.filter p).argmin f) : c ∈ l.argmin f := by
  induction l using List.reverseRecOn generalizing c with
  | nil => exact hc
  | append_singleton l a ih =>
      have hinit : ∀ {c}, c ∈ (l.filter p).argmin f → c ∈ l.argmin f := by
        apply ih
        intro b hb hpb d hd hpd
        exact hseparated b (List.mem_append_left _ hb) hpb d (List.mem_append_left _ hd) hpd
      have hlast : a ∈ l ++ [a] := List.mem_append_right _ (List.mem_singleton_self a)
      rw [List.filter_append] at hc
      cases ha : p a with
      | true =>
          rw [List.filter_cons_of_pos ha, List.filter_nil] at hc
          cases hbest : (l.filter p).argmin f with
          | some d =>
              rw [List.argmin_concat, hbest] at hc
              rw [List.argmin_concat, Option.mem_def.mp (hinit hbest)]
              exact hc
          | none =>
              -- nothing before `a` is looked at
              have hnone := List.argmin_eq_none.mp hbest
              rw [hnone, List.nil_append, List.argmin_singleton] at hc
              rw [argmin_concat_of_lt]
              · exact hc
              · intro b hb
                have hpassed : p b = false := by
                  simpa using List.filter_eq_nil_iff.mp hnone b hb
                exact hseparated a hlast ha b (List.mem_append_left _ hb) hpassed
      | false =>
          rw [List.filter_cons_of_neg (by simp [ha]), List.filter_nil, List.append_nil] at hc
          have hmem := List.mem_filter.mp (List.argmin_mem hc)
          have hlt := hseparated c (List.mem_append_left _ hmem.1) hmem.2 a hlast ha
          rw [argmin_concat_of_le (hinit hc) hlt.le]
          rfl

/-- A search that passes over later elements only. -/
theorem argmin_filter {p : α → Bool}
    (hseparated : ∀ a ∈ l, p a = true → ∀ b ∈ l, p b = false → f a < f b)
    (hsome : l.filter p ≠ []) : (l.filter p).argmin f = l.argmin f := by
  cases hbest : (l.filter p).argmin f with
  | none => exact absurd (List.argmin_eq_none.mp hbest) hsome
  | some c => exact (Option.mem_def.mp (mem_argmin_of_filter hseparated hbest)).symm

end OroEdge.Lib
