import Mathlib.Data.List.Nodup

/-!
# Rows admitted by a key

A store that takes a row only when no earlier row has its key.  `admitted` lists
the rows that a sequence of attempts adds to a store that holds the keys `stored`.

The attempts may come in the order of some bucket of the rows (an hour, a minute)
rather than in the order of the list: `perm_flatMap_range_filter`.

The rows are never deleted here and the keys that were there at first are a parameter, so the
lemmas hold in the middle of a history as well as at its start (`admitted_append`).  What is
admitted depends on the rows in order, but whether all of them are admitted does not: it is a
matter of the keys alone (`admitted_eq_self_iff`), and as a consequence rows may be exchanged
for others with the same keys (`admitted_congr`) and may be compared up to their order
(`perm_map_admitted_iff`).

All proofs are by induction on the attempts, with the stored keys generalised: the first row is
admitted or is not, and the rest is admitted to a store that has its key or that has not.
-/

namespace OroEdge.Lib

variable {Row Key : Type*} [DecidableEq Key] (key : Row → Key)

/-- The rows whose keys are neither stored nor those of an earlier row. -/
def admitted : List Key → List Row → List Row
  | _, [] => []
  | stored, row :: rest =>
      if key row ∈ stored then admitted stored rest
      else row :: admitted (stored ++ [key row]) rest

variable {key}

theorem admitted_append (stored : List Key) (first second : List Row) :
    admitted key stored (first ++ second) = admitted key stored first ++
      admitted key (stored ++ (admitted key stored first).map key) second := by
  induction first generalizing stored with
  | nil => simp [admitted]
  | cons row rest ih =>
      by_cases hmem : key row ∈ stored
      · simp [admitted, hmem, ih]
      · simp [admitted, hmem, ih, List.append_assoc]

theorem admitted_sublist (stored : List Key) (rows : List Row) :
    (admitted key stored rows).Sublist rows := by
  induction rows generalizing stored with
  | nil => exact List.Sublist.refl _
  | cons row rest ih =>
      by_cases hmem : key row ∈ stored
      · simpa [admitted, hmem] using (ih stored).cons row
      · simpa [admitted, hmem] using ih (stored ++ [key row])

/-- Only the stored keys of the rows matter. -/
theorem admitted_congr {stored others : List Key} {rows : List Row}
    (hsame : ∀ row ∈ rows, key row ∈ stored ↔ key row ∈ others) :
    admitted key stored rows = admitted key others rows := by
  induction rows generalizing stored others with
  | nil => rfl
  | cons row rest ih =>
      have hrow := hsame row List.mem_cons_self
      have hrest : ∀ other ∈ rest, key other ∈ stored ↔ key other ∈ others :=
        fun other hother => hsame other (List.mem_cons_of_mem _ hother)
      by_cases hmem : key row ∈ stored
      · simp [admitted, hmem, hrow.mp hmem, ih hrest]
      · have hothers := mt hrow.mpr hmem
        have hnext : admitted key (stored ++ [key row]) rest =
            admitted key (others ++ [key row]) rest :=
          ih fun other hother => by simp [hrest other hother]
        simp [admitted, hmem, hothers, hnext]

/-- Every row is admitted exactly when the keys are new and differ from each other. -/
theorem admitted_eq_self_iff {stored : List Key} {rows : List Row} :
    admitted key stored rows = rows ↔
      (rows.map key).Nodup ∧ ∀ row ∈ rows, key row ∉ stored := by
  induction rows generalizing stored with
  | nil => simp [admitted]
  | cons row rest ih =>
      by_cases hmem : key row ∈ stored
      · -- a row whose key is stored is lost, and no other makes up for it
        have hshort : (admitted key stored rest).length ≤ rest.length :=
          (admitted_sublist stored rest).length_le
        constructor
        · intro hself
          rw [admitted, if_pos hmem] at hself
          have := congrArg List.length hself
          simp only [List.length_cons] at this
          omega
        · rintro ⟨-, hnew⟩
          exact absurd hmem (hnew row List.mem_cons_self)
      · rw [admitted, if_neg hmem, List.cons_inj_right, ih]
        simp only [List.map_cons, List.nodup_cons, List.mem_map, List.mem_append, List.mem_cons,
          List.not_mem_nil, or_false, forall_eq_or_imp]
        constructor
        · rintro ⟨hnodup, hnew⟩
          refine ⟨⟨?_, hnodup⟩, hmem, ?_⟩
          · rintro ⟨other, hother, heq⟩
            exact hnew other hother (Or.inr heq)
          · intro other hother hstored
            exact hnew other hother (Or.inl hstored)
        · rintro ⟨⟨hfresh, hnodup⟩, -, hnew⟩
          refine ⟨hnodup, ?_⟩
          rintro other hother (hstored | heq)
          · exact hnew other hother hstored
          · exact hfresh ⟨other, hother, heq⟩

/-- The rows admitted are as many as the rows only when all are. -/
theorem perm_map_admitted_iff {Title : Type*} (key : Row → Key) (title : Row → Title)
    (stored : List Key) {rows all : List Row} (hperm : rows.Perm all) :
    ((admitted key stored rows).map title).Perm (all.map title) ↔
      (all.map key).Nodup ∧ ∀ row ∈ all, key row ∉ stored := by
  have hall : ((all.map key).Nodup ∧ ∀ row ∈ all, key row ∉ stored) ↔
      admitted key stored rows = rows := by
    rw [admitted_eq_self_iff, (hperm.map key).nodup_iff]
    simp only [hperm.mem_iff]
  rw [hall]
  constructor
  · intro htitles
    have hlength := htitles.length_eq
    rw [List.length_map, List.length_map, ← hperm.length_eq] at hlength
    exact (admitted_sublist stored rows).eq_of_length hlength
  · intro hself
    rw [hself]
    exact hperm.map title

/-- Of the rows with one key at most the first is admitted. -/
theorem countP_admitted (stored : List Key) (rows : List Row) (k : Key) :
    (admitted key stored rows).countP (fun row => decide (key row = k)) =
      if k ∉ stored ∧ ∃ row ∈ rows, key row = k then 1 else 0 := by
  induction rows generalizing stored with
  | nil => simp [admitted]
  | cons row rest ih =>
      by_cases hmem : key row ∈ stored
      · -- the row is refused; if it has the key, so is every other one
        rw [admitted, if_pos hmem, ih]
        by_cases hkey : key row = k
        · have hstored : k ∈ stored := hkey ▸ hmem
          simp [hstored]
        · simp [hkey]
      · rw [admitted, if_neg hmem, List.countP_cons, ih]
        by_cases hkey : key row = k
        · have hnew : k ∉ stored := hkey ▸ hmem
          simp [hkey, hnew]
        · have hother : ¬ k = key row := fun h => hkey h.symm
          simp [hkey, hother]

/-- Listing the rows bucket by bucket rearranges them. -/
theorem perm_flatMap_range_filter (bucket : Row → ℕ) {n : ℕ} {rows : List Row}
    (hbuckets : ∀ row ∈ rows, bucket row < n) :
    ((List.range n).flatMap fun i => rows.filter fun row => bucket row = i).Perm rows := by
  have hupto : ∀ m, ((List.range m).flatMap fun i => rows.filter fun row => bucket row = i).Perm
      (rows.filter fun row => bucket row < m) := by
    intro m
    induction m with
    | zero => simp
    | succ m ih =>
        -- the rows below `m + 1` are cut by `bucket row < m` into those of `ih` and the bucket `m`
        have hlast : rows.filter (fun row => bucket row = m) =
            (rows.filter fun row => bucket row < m + 1).filter
              fun row => !decide (bucket row < m) := by
          rw [List.filter_filter]
          refine List.filter_congr fun row _ => ?_
          rw [Bool.eq_iff_iff]
          simp only [decide_eq_true_eq, Bool.and_eq_true, Bool.not_eq_true',
            decide_eq_false_iff_not]
          omega
        have hearlier : rows.filter (fun row => bucket row < m) =
            (rows.filter fun row => bucket row < m + 1).filter fun row => bucket row < m := by
          rw [List.filter_filter]
          refine List.filter_congr fun row _ => ?_
          rw [Bool.eq_iff_iff]
          simp only [decide_eq_true_eq, Bool.and_eq_true]
          omega
        rw [List.range_succ, List.flatMap_append, List.flatMap_singleton]
        refine (ih.append_right _).trans ?_
        rw [hlast, hearlier]
        exact List.filter_append_perm _ _
  refine (hupto n).trans ?_
  rw [List.filter_eq_self.mpr fun row hrow => decide_eq_true (hbuckets row hrow)]

end OroEdge.Lib
