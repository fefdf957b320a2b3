import OroEdge.Lib.Sql
import Mathlib.Data.List.Perm.Subperm

/-!
# Pruning a table

A table is pruned of rows that are disposable, but the first `k` rows of every part are kept,
for some order of the rows by their key (`IsPruned`).

What has been pruned is superseded: the rest of the table has `k` rows of the same part, none of
them older (`KeepsNewest`).  This composes, so it survives any number of prunings and insertions,
and it is enough for a query of the latest row (`KeepsNewest.isLatest`).

If it depends on the part and the key only which rows are disposable, then a second pruning that
disposes of no more than the first finds nothing, whatever its order (`IsPruned.again`).  If no two
rows of a part have the same key, a pruning after others leaves what it would have left without
them: the rows that are not disposable or have fewer than `k` newer ones (`IsPruned.eq_filter`).
-/

namespace OroEdge.Lib.Sql

variable {Row Key Part : Type*} [LinearOrder Key]

/-- There are `k` rows of the part of `row` that are not older. -/
def Superseded (part : Row → Part) (key : Row → Key) (k : ℕ) (rows : List Row) (row : Row) : Prop :=
  ∃ newer : List Row, newer.Nodup ∧ newer.length = k ∧ newer ⊆ rows ∧
    ∀ other ∈ newer, part other = part row ∧ key row ≤ key other

/-- Every row is kept or superseded by rows that are. -/
def KeepsNewest (part : Row → Part) (key : Row → Key) (k : ℕ) (rows kept : List Row) : Prop :=
  ∀ row ∈ rows, row ∈ kept ∨ Superseded part key k kept row

/-! ## Rows that are kept -/

section

variable {part : Row → Part} {key : Row → Key} {k : ℕ} {rows kept : List Row} {row : Row}

theorem Superseded.mono {more : List Row} (hrow : Superseded part key k rows row)
    (hsubset : rows ⊆ more) : Superseded part key k more row := by
  obtain ⟨newer, hnodup, hlength, hnewer, hall⟩ := hrow
  exact ⟨newer, hnodup, hlength, fun _ hother => hsubset (hnewer hother), hall⟩

/-- An older row of the part is superseded as well. -/
theorem Superseded.of_le {older : Row} (hrow : Superseded part key k rows row)
    (hpart : part row = part older) (hkey : key older ≤ key row) :
    Superseded part key k rows older := by
  obtain ⟨newer, hnodup, hlength, hnewer, hall⟩ := hrow
  refine ⟨newer, hnodup, hlength, hnewer, fun other hother => ?_⟩
  exact ⟨(hall other hother).1.trans hpart, hkey.trans (hall other hother).2⟩

theorem KeepsNewest.refl (rows : List Row) : KeepsNewest part key k rows rows :=
  fun _ hrow => Or.inl hrow

theorem KeepsNewest.append (hkept : KeepsNewest part key k rows kept) (new : List Row) :
    KeepsNewest part key k (rows ++ new) (kept ++ new) := by
  intro row hrow
  rcases List.mem_append.mp hrow with hold | hnew
  · rcases hkept row hold with hmem | hsuperseded
    · exact Or.inl (List.mem_append_left _ hmem)
    · exact Or.inr (hsuperseded.mono (List.subset_append_left _ _))
  · exact Or.inl (List.mem_append_right _ hnew)

theorem KeepsNewest.trans {middle : List Row} (hfirst : KeepsNewest part key k rows middle)
    (hsecond : KeepsNewest part key k middle kept) : KeepsNewest part key k rows kept := by
  intro row hrow
  rcases hfirst row hrow with hmem | ⟨newer, hnodup, hlength, hnewer, hall⟩
  · exact hsecond row hmem
  · by_cases hstay : newer ⊆ kept
    · exact Or.inr ⟨newer, hnodup, hlength, hstay, hall⟩
    · -- one of the newer rows has gone, so it is superseded itself
      obtain ⟨other, hother, hgone⟩ : ∃ other ∈ newer, other ∉ kept := by
        simpa [List.subset_def] using hstay
      have hsuperseded := (hsecond other (hnewer hother)).resolve_left hgone
      exact Or.inr (hsuperseded.of_le (hall other hother).1 (hall other hother).2)

end

variable [DecidableEq Part]

/-! ## The order of a part -/

section

variable {part : Row → Part} {key : Row → Key} {k : ℕ} {ranked rows kept : List Row}
  {row other : Row}

/-- The latest row of a part is the latest of all that there ever were. -/
theorem KeepsNewest.isLatest (hkept : KeepsNewest part key k rows kept) (hk : 0 < k)
    (hsubset : kept ⊆ rows) {p : Part}
    (hrow : IsLatest key (kept.filter fun other => part other = p) row) :
    IsLatest key (rows.filter fun other => part other = p) row := by
  obtain ⟨hmem, hlatest⟩ := hrow
  rw [List.mem_filter] at hmem
  refine ⟨List.mem_filter.mpr ⟨hsubset hmem.1, hmem.2⟩, fun other hother => ?_⟩
  rw [List.mem_filter, decide_eq_true_eq] at hother
  rcases hkept other hother.1 with hstays | ⟨newer, -, hlength, hnewer, hall⟩
  · exact hlatest other (List.mem_filter.mpr ⟨hstays, decide_eq_true hother.2⟩)
  · obtain ⟨first, hfirst⟩ := List.exists_mem_of_length_pos (hlength ▸ hk)
    have hpart : part first = p := (hall first hfirst).1.trans hother.2
    exact (hall first hfirst).2.trans
      (hlatest first (List.mem_filter.mpr ⟨hnewer hfirst, decide_eq_true hpart⟩))

theorem nodup_firstOfPart (hnodup : ranked.Nodup) : (firstOfPart part k ranked row).Nodup :=
  (hnodup.filter _).sublist (List.take_sublist _ _)

theorem mem_of_mem_firstOfPart (hother : other ∈ firstOfPart part k ranked row) :
    other ∈ ranked ∧ part other = part row := by
  have hfilter := List.mem_filter.mp (List.mem_of_mem_take hother)
  exact ⟨hfilter.1, of_decide_eq_true hfilter.2⟩

theorem firstOfPart_congr (hpart : part other = part row) :
    firstOfPart part k ranked other = firstOfPart part k ranked row := by
  rw [firstOfPart, firstOfPart, hpart]

/-- A row that is not among the first `k` comes after all of them. -/
theorem le_of_notMem_firstOfPart (hsorted : ranked.Pairwise fun first second =>
    key second ≤ key first) (hrow : row ∈ ranked) (hnot : row ∉ firstOfPart part k ranked row) :
    (firstOfPart part k ranked row).length = k ∧
      ∀ other ∈ firstOfPart part k ranked row, key row ≤ key other := by
  have hmem : row ∈ ranked.filter fun other => part other = part row :=
    List.mem_filter.mpr ⟨hrow, decide_eq_true rfl⟩
  have hsorted := hsorted.filter (fun other => decide (part other = part row))
  unfold firstOfPart at hnot ⊢
  rw [← List.take_append_drop k (ranked.filter fun other => part other = part row)] at hmem hsorted
  have hdrop := (List.mem_append.mp hmem).resolve_left hnot
  constructor
  · rw [List.length_take, Nat.min_eq_left]
    by_contra hshort
    rw [List.drop_of_length_le (not_le.mp hshort).le] at hdrop
    cases hdrop
  · intro other hother
    exact (List.pairwise_append.mp hsorted).2.2 other hother row hdrop

/-- With a row, all newer rows of the part are among the first `k`. -/
theorem mem_firstOfPart_of_lt (hsorted : ranked.Pairwise fun first second =>
    key second ≤ key first) (hrow : row ∈ firstOfPart part k ranked row) (hother : other ∈ ranked)
    (hpart : part other = part row) (hlt : key row < key other) :
    other ∈ firstOfPart part k ranked row := by
  by_contra hnot
  rw [← firstOfPart_congr hpart] at hnot hrow
  exact absurd ((le_of_notMem_firstOfPart hsorted hother hnot).2 row hrow) (not_le.mpr hlt)

end

/-! ## A pruning -/

/-- `kept` is what is left of `rows` when the disposable ones are deleted that are not among
the first `k` of their part. -/
structure IsPruned (part : Row → Part) (k : ℕ) (disposable : Row → Prop)
    (ranked rows kept : List Row) : Prop where
  sublist : kept.Sublist rows
  mem_iff : ∀ row ∈ rows, row ∈ kept ↔ (disposable row → row ∈ firstOfPart part k ranked row)

section

variable {part : Row → Part} {key : Row → Key} {k : ℕ} {disposable : Row → Prop}
  {ranked rows kept : List Row}

theorem IsPruned.keepsNewest (hpruned : IsPruned part k disposable ranked rows kept)
    (hranked : IsOrdering key ranked rows) (hnodup : rows.Nodup) :
    KeepsNewest part key k rows kept := by
  intro row hrow
  by_cases hmem : row ∈ kept
  · exact Or.inl hmem
  · have hnot : row ∉ firstOfPart part k ranked row := fun hfirst =>
      hmem ((hpruned.mem_iff row hrow).mpr fun _ => hfirst)
    obtain ⟨hlength, hkeys⟩ :=
      le_of_notMem_firstOfPart hranked.2 (hranked.1.mem_iff.mpr hrow) hnot
    refine Or.inr ⟨firstOfPart part k ranked row,
      nodup_firstOfPart (hranked.1.nodup_iff.mpr hnodup), hlength, ?_, ?_⟩
    · intro other hother
      obtain ⟨hranks, hpart⟩ := mem_of_mem_firstOfPart hother
      refine (hpruned.mem_iff other (hranked.1.mem_iff.mp hranks)).mpr fun _ => ?_
      rwa [firstOfPart_congr hpart]
    · exact fun other hother => ⟨(mem_of_mem_firstOfPart hother).2, hkeys other hother⟩

/-- The disposable rows that a pruning has kept stay among the first `k`. -/
theorem IsPruned.mem_firstOfPart (hpruned : IsPruned part k disposable ranked rows kept)
    (hranked : IsOrdering key ranked rows) (hnodup : rows.Nodup)
    (hsame : ∀ row other, part row = part other → key row = key other →
      disposable row → disposable other) {again : List Row} (hagain : IsOrdering key again kept)
    {row : Row} (hrow : row ∈ kept) (hdisposable : disposable row) :
    row ∈ firstOfPart part k again row := by
  by_contra hnot
  have hmem : ∀ other ∈ kept, other ∈ rows := fun other hother => hpruned.sublist.subset hother
  have hfirst := (hpruned.mem_iff row (hmem row hrow)).mp hrow hdisposable
  obtain ⟨hlength, hkeys⟩ :=
    le_of_notMem_firstOfPart hagain.2 (hagain.1.mem_iff.mpr hrow) hnot
  -- the first `k` of the second order and the row itself are all among the first `k` of the first
  have hsubset : row :: firstOfPart part k again row ⊆ firstOfPart part k ranked row := by
    refine List.cons_subset.mpr ⟨hfirst, fun other hother => ?_⟩
    obtain ⟨hranks, hpart⟩ := mem_of_mem_firstOfPart hother
    have hkept := hagain.1.mem_iff.mp hranks
    rcases (hkeys other hother).lt_or_eq with hlt | heq
    · exact mem_firstOfPart_of_lt hranked.2 hfirst (hranked.1.mem_iff.mpr (hmem other hkept))
        hpart hlt
    · have hgone := hsame row other hpart.symm heq hdisposable
      have hstays := (hpruned.mem_iff other (hmem other hkept)).mp hkept hgone
      rwa [firstOfPart_congr hpart] at hstays
  have hagainNodup : again.Nodup :=
    hagain.1.nodup_iff.mpr (hnodup.sublist hpruned.sublist)
  have hcons : (row :: firstOfPart part k again row).Nodup :=
    List.nodup_cons.mpr ⟨hnot, nodup_firstOfPart hagainNodup⟩
  have hle := (List.subperm_of_subset hcons hsubset).length_le
  have htake : (firstOfPart part k ranked row).length ≤ k := List.length_take_le _ _
  rw [List.length_cons, hlength] at hle
  omega

/-- **A second pruning finds nothing**, if it disposes of no more than the first. -/
theorem IsPruned.again (hpruned : IsPruned part k disposable ranked rows kept)
    (hranked : IsOrdering key ranked rows) (hnodup : rows.Nodup)
    (hsame : ∀ row other, part row = part other → key row = key other →
      disposable row → disposable other) {fewer : Row → Prop}
    (hfewer : ∀ row ∈ kept, fewer row → disposable row) {again rest : List Row}
    (hagain : IsOrdering key again kept) (hrest : IsPruned part k fewer again kept rest) :
    rest = kept := by
  refine hrest.sublist.eq_of_length_le ?_
  have hall : kept ⊆ rest := fun row hrow => (hrest.mem_iff row hrow).mpr fun hgone =>
    hpruned.mem_firstOfPart hranked hnodup hsame hagain hrow (hfewer row hrow hgone)
  exact (List.subperm_of_subset (hnodup.sublist hpruned.sublist) hall).length_le

end

/-! ## A pruning after others -/

/-- The rows of the part of `row` that are newer. -/
def newerRows (part : Row → Part) (key : Row → Key) (rows : List Row) (row : Row) : List Row :=
  rows.filter fun other => decide (part other = part row) && decide (key row < key other)

section

variable {part : Row → Part} {key : Row → Key} {k : ℕ} {rows kept : List Row} {row : Row}

theorem mem_newerRows_iff {other : Row} : other ∈ newerRows part key rows row ↔
    other ∈ rows ∧ part other = part row ∧ key row < key other := by
  simp [newerRows]

/-- Of rows with different keys, the first `k` of a part are those with fewer than `k` newer. -/
theorem mem_firstOfPart_iff {ranked : List Row} (hranked : IsOrdering key ranked rows)
    (hnodup : rows.Nodup) (hdistinct : ∀ other ∈ rows, part other = part row →
      key other = key row → other = row) (hrow : row ∈ rows) :
    row ∈ firstOfPart part k ranked row ↔ (newerRows part key rows row).length < k := by
  have hranks := hranked.1.mem_iff.mpr hrow
  constructor
  · intro hfirst
    have hnot : row ∉ newerRows part key rows row := fun hmem =>
      lt_irrefl _ (mem_newerRows_iff.mp hmem).2.2
    have hsubset : row :: newerRows part key rows row ⊆ firstOfPart part k ranked row := by
      refine List.cons_subset.mpr ⟨hfirst, fun other hother => ?_⟩
      obtain ⟨hmem, hpart, hlt⟩ := mem_newerRows_iff.mp hother
      exact mem_firstOfPart_of_lt hranked.2 hfirst (hranked.1.mem_iff.mpr hmem) hpart hlt
    have hcons : (row :: newerRows part key rows row).Nodup :=
      List.nodup_cons.mpr ⟨hnot, hnodup.filter _⟩
    have hle := (List.subperm_of_subset hcons hsubset).length_le
    exact hle.trans (List.length_take_le _ _)
  · intro hfew
    by_contra hnot
    obtain ⟨hlength, hkeys⟩ := le_of_notMem_firstOfPart hranked.2 hranks hnot
    have hsubset : firstOfPart part k ranked row ⊆ newerRows part key rows row := by
      intro other hother
      obtain ⟨hmem, hpart⟩ := mem_of_mem_firstOfPart hother
      have hmem := hranked.1.mem_iff.mp hmem
      refine mem_newerRows_iff.mpr ⟨hmem, hpart, (hkeys other hother).lt_of_ne fun heq => ?_⟩
      rw [hdistinct other hmem hpart heq.symm] at hother
      exact hnot hother
    have hle := (List.subperm_of_subset
      (nodup_firstOfPart (hranked.1.nodup_iff.mpr hnodup)) hsubset).length_le
    omega

/-- A superseded row has at least `k` newer ones, if no other has its key. -/
theorem Superseded.le_length_newerRows (hrow : Superseded part key k kept row)
    (hsubset : kept ⊆ rows) (hdistinct : ∀ other ∈ kept, part other = part row →
      key other ≠ key row) : k ≤ (newerRows part key rows row).length := by
  obtain ⟨newer, hnodup, rfl, hnewer, hall⟩ := hrow
  refine (List.subperm_of_subset hnodup fun other hother => ?_).length_le
  obtain ⟨hpart, hle⟩ := hall other hother
  exact mem_newerRows_iff.mpr ⟨hsubset (hnewer hother), hpart,
    hle.lt_of_ne (hdistinct other (hnewer hother) hpart).symm⟩

/-- A row has fewer than `k` newer ones among those that are kept only if it has among all. -/
theorem KeepsNewest.length_newerRows_lt_iff (hkept : KeepsNewest part key k rows kept)
    (hsublist : kept.Sublist rows) (hnodup : rows.Nodup) :
    (newerRows part key kept row).length < k ↔ (newerRows part key rows row).length < k := by
  constructor
  · intro hfew
    by_cases hall : newerRows part key rows row ⊆ newerRows part key kept row
    · exact (List.subperm_of_subset (hnodup.filter _) hall).length_le.trans_lt hfew
    · exfalso
      obtain ⟨other, hother, hgone⟩ : ∃ other ∈ newerRows part key rows row,
          other ∉ newerRows part key kept row := by
        simpa [List.subset_def] using hall
      obtain ⟨hmem, hpart, hlt⟩ := mem_newerRows_iff.mp hother
      have hsuperseded := (hkept other hmem).resolve_left fun hstays =>
        hgone (mem_newerRows_iff.mpr ⟨hstays, hpart, hlt⟩)
      obtain ⟨newer, hnodup, hlength, hnewer, hnewerAll⟩ := hsuperseded
      have hle := (List.subperm_of_subset hnodup fun new hnew =>
        mem_newerRows_iff.mpr ⟨hnewer hnew, (hnewerAll new hnew).1.trans hpart,
          hlt.trans_le (hnewerAll new hnew).2⟩).length_le
      omega
  · intro hfew
    exact (hsublist.filter _).length_le.trans_lt hfew

end

/-- Parts of a list with the same elements are the same. -/
theorem eq_of_sublist {first second all : List Row} (hfirst : first.Sublist all)
    (hsecond : second.Sublist all) (hnodup : all.Nodup)
    (hmem : ∀ row ∈ all, row ∈ first ↔ row ∈ second) : first = second := by
  induction all generalizing first second with
  | nil => rw [List.sublist_nil.mp hfirst, List.sublist_nil.mp hsecond]
  | cons row all ih =>
      obtain ⟨hnot, hnodup⟩ := List.nodup_cons.mp hnodup
      obtain ⟨hrow, hall⟩ := List.forall_mem_cons.mp hmem
      cases hfirst with
      | cons _ hfirst =>
          cases hsecond with
          | cons _ hsecond => exact ih hfirst hsecond hnodup hall
          | cons_cons _ hsecond =>
              exact absurd (hfirst.subset (hrow.mpr List.mem_cons_self)) hnot
      | cons_cons _ hfirst =>
          cases hsecond with
          | cons _ hsecond => exact absurd (hsecond.subset (hrow.mp List.mem_cons_self)) hnot
          | cons_cons _ hsecond =>
              refine congrArg (row :: ·) (ih hfirst hsecond hnodup fun other hother => ?_)
              have hne : other ≠ row := fun h => hnot (h ▸ hother)
              simpa [hne] using hall other hother

section

variable {part : Row → Part} {key : Row → Key} {k : ℕ} {all ranked rows kept : List Row}
  {disposable : Row → Bool}

/-- **Prunings leave no trace**: whatever has been pruned before, what a pruning leaves depends
on the rows that there ever were only. -/
theorem IsPruned.eq_filter
    (hpruned : IsPruned part k (fun row => disposable row = true) ranked rows kept)
    (hranked : IsOrdering key ranked rows) (hnewest : KeepsNewest part key k all rows)
    (hsublist : rows.Sublist all) (hnodup : all.Nodup)
    (hdistinct : ∀ row ∈ all, ∀ other ∈ all, part other = part row → key other = key row →
      other = row) (hgone : ∀ row ∈ all, row ∉ rows → disposable row = true) :
    kept = all.filter fun row =>
      !disposable row || decide ((newerRows part key all row).length < k) := by
  refine eq_of_sublist (hpruned.sublist.trans hsublist) List.filter_sublist hnodup
    fun row hrow => ?_
  have hfilter : row ∈ (all.filter fun row =>
      !disposable row || decide ((newerRows part key all row).length < k)) ↔
        (disposable row = true → (newerRows part key all row).length < k) := by
    simp [List.mem_filter, hrow, imp_iff_not_or]
  rw [hfilter]
  by_cases hmem : row ∈ rows
  · have hdistinctRow : ∀ other ∈ rows, part other = part row → key other = key row →
        other = row := fun other hother => hdistinct row hrow other (hsublist.subset hother)
    rw [hpruned.mem_iff row hmem, mem_firstOfPart_iff hranked (hnodup.sublist hsublist)
      hdistinctRow hmem, hnewest.length_newerRows_lt_iff hsublist hnodup]
  · have hsuperseded := (hnewest row hrow).resolve_left hmem
    have hmany := hsuperseded.le_length_newerRows hsublist.subset fun other hother hpart hkey =>
      hmem (hdistinct row hrow other (hsublist.subset hother) hpart hkey ▸ hother)
    refine iff_of_false (fun hkept => hmem (hpruned.sublist.subset hkept)) fun hfew => ?_
    exact absurd (hfew (hgone row hrow hmem)) (not_lt.mpr hmany)

end

end OroEdge.Lib.Sql
