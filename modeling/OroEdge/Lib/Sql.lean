import Mathlib.Algebra.Order.Field.Rat
import Mathlib.Data.List.Nodup
import Mathlib.Data.List.ReduceOption
import Mathlib.Tactic.Common

/-!
# Fragments of SQL on lists of rows

Aggregates of a nullable column, `ROW_NUMBER()` over an ordering, the rows that
`ORDER BY key DESC LIMIT 1` may return, and `INSERT … SELECT`.  A column value is an
`Option`, with `none` for `NULL`.

SQL leaves the order of rows with equal keys open.  `IsOrdering` therefore says
which orderings an engine may choose, and `IsLatest` which rows may come first.

An aggregate of no rows is `NULL` in SQL, except for a count, and the same holds if all values
are `NULL`; comparisons with it are not true.  So an aggregate is an `Option` here, too, and
what a program makes of it (`COALESCE`, or a `NULL` in its answer) is left to the model of the
program.

Row numbers are defined by going through an ordering once, with the rows that have been passed. 
What a query does with them is to keep the rows with small numbers, and these are the first rows
of their part (`exists_mem_rowNumbers_iff`), which is a statement without numbers.  A partition
by fewer columns has larger parts, so the first rows of a part of it need not be the first ones
of the finer part, but the converse holds (`mem_firstOfPart_of_refines`).
-/

namespace OroEdge.Lib.Sql

/-! ## Aggregates -/

/-- `COUNT(column)`. -/
def count {α : Type*} (column : List (Option α)) : ℕ := column.reduceOption.length

/-- `SUM(column)`. -/
def sum (column : List (Option ℚ)) : Option ℚ :=
  if column.reduceOption = [] then none else some column.reduceOption.sum

/-- `COALESCE(SUM(column), 0)`. -/
theorem sum_getD (column : List (Option ℚ)) :
    (sum column).getD 0 = (column.map fun value => value.getD 0).sum := by
  have hreduced : column.reduceOption.sum = (column.map fun value => value.getD 0).sum := by
    induction column with
    | nil => rfl
    | cons value rest ih => cases value <;> simp [ih]
  rw [← hreduced, sum]
  split
  · rename_i hnil
    rw [hnil]
    rfl
  · rfl

/-- `AVG(column)`. -/
def avg (column : List (Option ℚ)) : Option ℚ :=
  if column.reduceOption = [] then none
  else some (column.reduceOption.sum / column.reduceOption.length)

/-- `MIN(column)`. -/
def min (column : List (Option ℚ)) : Option ℚ := column.reduceOption.min?

/-- `MAX(column)`. -/
def max (column : List (Option ℚ)) : Option ℚ := column.reduceOption.max?

/-! ## Orderings -/

section Order

variable {Row Key Part : Type*} [LinearOrder Key] [DecidableEq Part]

/-- `ranked` is an order in which `ORDER BY key DESC` may list `rows`. -/
def IsOrdering (key : Row → Key) (ranked rows : List Row) : Prop :=
  ranked.Perm rows ∧ ranked.Pairwise fun first second => key second ≤ key first

instance [DecidableEq Row] (key : Row → Key) (ranked rows : List Row) :
    Decidable (IsOrdering key ranked rows) := by
  unfold IsOrdering
  infer_instance

/-- Each row with its `ROW_NUMBER() OVER (PARTITION BY part)`, given the rows that
come before. -/
def rowNumbers (part : Row → Part) : List Row → List Row → List (Row × ℕ)
  | _, [] => []
  | before, row :: rest =>
      (row, (before.filter fun other => part other = part row).length + 1) ::
        rowNumbers part (before ++ [row]) rest

/-- The first `k` rows of the part of `row`, in a given order. -/
def firstOfPart (part : Row → Part) (k : ℕ) (ordered : List Row) (row : Row) : List Row :=
  (ordered.filter fun other => part other = part row).take k

/-- The first row of the rest has the next number of its part. -/
theorem exists_mem_rowNumbers_cons_iff (part : Row → Part) (k : ℕ) (row head : Row)
    (before rest : List Row) :
    (∃ n ≤ k, (row, n) ∈ rowNumbers part before (head :: rest)) ↔
      (row = head ∧ (before.filter fun other => part other = part head).length + 1 ≤ k) ∨
        ∃ n ≤ k, (row, n) ∈ rowNumbers part (before ++ [head]) rest := by
  simp only [rowNumbers, List.mem_cons, Prod.mk.injEq]
  constructor
  · rintro ⟨n, hn, ⟨hrow, rfl⟩ | hrest⟩
    · exact Or.inl ⟨hrow, hn⟩
    · exact Or.inr ⟨n, hn, hrest⟩
  · rintro (⟨hrow, hb⟩ | ⟨n, hn, hrest⟩)
    · exact ⟨_, hb, Or.inl ⟨hrow, rfl⟩⟩
    · exact ⟨n, hn, Or.inr hrest⟩

/-- The rows that are numbered up to `k` are the first `k` of their parts. -/
theorem exists_mem_rowNumbers_iff (part : Row → Part) (k : ℕ) (row : Row) (before rest : List Row) :
    (∃ n ≤ k, (row, n) ∈ rowNumbers part before rest) ↔
      row ∈ firstOfPart part (k - (before.filter fun other => part other = part row).length)
        rest row := by
  unfold firstOfPart
  induction rest generalizing before with
  | nil => simp [rowNumbers]
  | cons head rest ih =>
      have ih := ih (before ++ [head])
      rw [List.filter_append, List.length_append] at ih
      rw [exists_mem_rowNumbers_cons_iff, ih]
      by_cases hpart : part head = part row
      · rw [List.filter_cons_of_pos (by simpa using hpart),
          List.filter_cons_of_pos (by simpa using hpart), hpart]
        generalize (before.filter fun other => part other = part row).length = b
        simp only [List.filter_nil, List.length_singleton]
        by_cases hfull : k ≤ b
        · have hzero : k - b = 0 := by omega
          have hzero' : k - (b + 1) = 0 := by omega
          rw [hzero, hzero']
          simp
          omega
        · obtain ⟨j, hj⟩ : ∃ j, k - b = j + 1 := ⟨k - b - 1, by omega⟩
          have hj' : k - (b + 1) = j := by omega
          have hb : b + 1 ≤ k := by omega
          rw [hj, hj', List.take_succ_cons, List.mem_cons]
          simp [hb]
      · rw [List.filter_cons_of_neg (by simpa using hpart),
          List.filter_cons_of_neg (by simpa using hpart)]
        have hne : row ≠ head := fun h => hpart (by rw [h])
        simp [hne]

/-- The first `k` rows of a part are among the first `k` of any finer part. -/
theorem mem_firstOfPart_of_refines {Fine : Type*} [DecidableEq Fine] {part : Row → Part}
    {fine : Row → Fine} {row : Row} {ordered : List Row}
    (hfine : ∀ other ∈ ordered, fine other = fine row → part other = part row) {k : ℕ}
    (hrow : row ∈ firstOfPart part k ordered row) : row ∈ firstOfPart fine k ordered row := by
  unfold firstOfPart at hrow ⊢
  induction ordered generalizing k with
  | nil => simp at hrow
  | cons head rest ih =>
      obtain ⟨hhead, hrest⟩ := List.forall_mem_cons.mp hfine
      have ih := fun {k} => ih (k := k) hrest
      cases k with
      | zero => simp at hrow
      | succ k =>
          by_cases hsame : fine head = fine row
          · rw [List.filter_cons_of_pos (by simpa using hhead hsame), List.take_succ_cons,
              List.mem_cons] at hrow
            rw [List.filter_cons_of_pos (by simpa using hsame), List.take_succ_cons, List.mem_cons]
            exact hrow.imp id ih
          · rw [List.filter_cons_of_neg (by simpa using hsame)]
            by_cases hpart : part head = part row
            · rw [List.filter_cons_of_pos (by simpa using hpart), List.take_succ_cons,
                List.mem_cons] at hrow
              have hne : row ≠ head := fun h => hsame (by rw [h])
              exact (List.take_subset_take_left _ (Nat.le_succ k)) (ih (hrow.resolve_left hne))
            · rw [List.filter_cons_of_neg (by simpa using hpart)] at hrow
              exact ih hrow

/-- `row` may be the one that `ORDER BY key DESC LIMIT 1` returns. -/
def IsLatest (key : Row → Key) (rows : List Row) (row : Row) : Prop :=
  row ∈ rows ∧ ∀ other ∈ rows, key other ≤ key row

theorem exists_isLatest (key : Row → Key) {rows : List Row} (hrows : rows ≠ []) :
    ∃ row, IsLatest key rows row := by
  induction rows with
  | nil => exact absurd rfl hrows
  | cons row rest ih =>
      by_cases hrest : rest = []
      · refine ⟨row, by simp, fun other hother => ?_⟩
        rw [hrest, List.mem_singleton] at hother
        rw [hother]
      · obtain ⟨last, hmem, hlast⟩ := ih hrest
        rcases le_total (key last) (key row) with hle | hle
        · exact ⟨row, by simp, List.forall_mem_cons.mpr
            ⟨le_rfl, fun other hother => (hlast other hother).trans hle⟩⟩
        · exact ⟨last, List.mem_cons_of_mem _ hmem, List.forall_mem_cons.mpr ⟨hle, hlast⟩⟩

/-- A row that is newer than all others is the one that comes first. -/
theorem IsLatest.eq_of_newest {key : Row → Key} {rows : List Row} {row newest : Row}
    (hrow : IsLatest key rows row) (hmem : newest ∈ rows)
    (hnewest : ∀ other ∈ rows, other ≠ newest → key other < key newest) : row = newest := by
  by_contra hne
  exact absurd (hrow.2 newest hmem) (not_le.mpr (hnewest row hrow.1 hne))

/-- `picked` may be what `SELECT DISTINCT ON (part)` returns of rows that are ordered by
`part` and `key DESC`: the latest row of each part. -/
structure IsDistinctOn (part : Row → Part) (key : Row → Key) (picked rows : List Row) : Prop where
  nodup : (picked.map part).Nodup
  latest : ∀ row ∈ picked, IsLatest key (rows.filter fun other => part other = part row) row
  all : ∀ row ∈ rows, part row ∈ picked.map part

/-- Rows of different parts are all picked. -/
theorem IsDistinctOn.perm {part : Row → Part} {key : Row → Key} {picked rows : List Row}
    (hpicked : IsDistinctOn part key picked rows) (hrows : (rows.map part).Nodup) :
    picked.Perm rows := by
  have hmem : ∀ row ∈ picked, row ∈ rows := fun row hrow =>
    (List.mem_filter.mp (hpicked.latest row hrow).1).1
  refine (List.perm_ext_iff_of_nodup (List.Nodup.of_map part hpicked.nodup)
    (List.Nodup.of_map part hrows)).mpr fun row => ?_
  constructor
  · exact hmem row
  · intro hrow
    obtain ⟨other, hother, hpart⟩ := List.mem_map.mp (hpicked.all row hrow)
    rwa [← List.inj_on_of_nodup_map hrows (hmem other hother) hrow hpart]

theorem isDistinctOn_self {part : Row → Part} {key : Row → Key} {rows : List Row}
    (hrows : (rows.map part).Nodup) : IsDistinctOn part key rows rows where
  nodup := hrows
  latest row hrow := by
    refine ⟨List.mem_filter.mpr ⟨hrow, by simp⟩, fun other hother => ?_⟩
    obtain ⟨hother, hpart⟩ := List.mem_filter.mp hother
    rw [List.inj_on_of_nodup_map hrows hother hrow (of_decide_eq_true hpart)]
  all row hrow := List.mem_map_of_mem hrow

end Order

/-! ## Joins and inserts -/

section Insert

variable {Row : Type*}

/-- The right sides of a `LEFT JOIN`, given those that match. -/
def leftJoin : List Row → List (Option Row)
  | [] => [none]
  | matching => matching.map some

/-- What an `INSERT … SELECT` adds.  A selected row that a constraint refuses is `none`;
it undoes the whole statement. -/
def insertAll (selected : List (Option Row)) : List Row :=
  if selected.all Option.isSome then selected.reduceOption else []

theorem none_mem_leftJoin_iff {matching : List Row} : none ∈ leftJoin matching ↔ matching = [] := by
  cases matching with
  | nil => simp [leftJoin]
  | cons row rest => simp [leftJoin]

theorem leftJoin_ne_nil (matching : List Row) : leftJoin matching ≠ [] := by
  cases matching with
  | nil => simp [leftJoin]
  | cons row rest => simp [leftJoin]

theorem mem_insertAll_iff {selected : List (Option Row)} {row : Row} :
    row ∈ insertAll selected ↔ none ∉ selected ∧ some row ∈ selected := by
  have hall : selected.all Option.isSome = true ↔ none ∉ selected := by
    simp only [List.all_eq_true]
    constructor
    · intro h hmem
      simpa using h none hmem
    · rintro h (_ | row) hmem
      · exact absurd hmem h
      · rfl
  unfold insertAll
  by_cases hnone : none ∈ selected
  · rw [if_neg (mt hall.mp (not_not.mpr hnone))]
    simp [hnone]
  · rw [if_pos (hall.mpr hnone)]
    simp [hnone, List.reduceOption_mem_iff]

end Insert

end OroEdge.Lib.Sql
