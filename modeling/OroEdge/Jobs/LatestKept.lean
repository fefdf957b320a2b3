import OroEdge.Jobs.LatestFive
import OroEdge.Jobs.Pipeline
import OroEdge.Lib.Pruning
import Mathlib.Data.List.Induction

/-!
# The latest rows over any number of cleanups

Rows come in while cleanups and summaries happen, in any order and at any times.  Whatever the
cleanups delete, of all rows that were ever inserted each is in the table, or the table has five
rows of its device and number that are not older.  So who asks the table for
the latest row of a number gets what a table without cleanups would give (`latest_after`).

The cleanups before the last one leave no trace: after it the table is a function of the rows that
were ever inserted, of the summaries and of its own cutoff (`cleaned_after`).

`KeptOf` says what the table is to the rows that were ever inserted: a part of them that is
pruned by device and number, so that a row is missing only if five newer ones are still there. 
It is preserved by an insertion, which can only push a row down in the ranking of its number, by
a cleanup, which is a pruning (`isPruned_cleanupSignals`), and by every action that does not
touch the signals.

For the last cleanup the other direction is needed too, that what is missing was disposable at
some time (`spent_after`) and is so now, since its cutoff is not before the others.
-/

namespace OroEdge.Jobs

open OroEdge.Lib

/-- The signal that an action inserts. -/
def Action.signal? : Action → Option Signal
  | .insertSignal _ signal => some signal
  | _ => none

/-- The rows as they were inserted, in a table that is never cleaned. -/
def insertedRows (actions : List Action) : List SignalRow :=
  withIds (actions.filterMap Action.signal?)

theorem filterMap_append_singleton {α β : Type*} (f : α → Option β) (earlier : List α) (last : α) :
    (earlier ++ [last]).filterMap f = earlier.filterMap f ++ (f last).toList := by
  rw [List.filterMap_append]
  cases hlast : f last <;> simp [hlast]

theorem withIds_append_singleton (signals : List Signal) (signal : Signal) :
    withIds (signals ++ [signal]) = withIds signals ++ [⟨signal, signals.length⟩] := by
  simp [withIds, List.zipIdx_append]

theorem nodup_ids_withIds (signals : List Signal) : ((withIds signals).map SignalRow.id).Nodup := by
  have hids : (withIds signals).map SignalRow.id = List.range signals.length := by
    rw [withIds, List.map_map, List.range_eq_range', ← List.zipIdx_map_snd 0 signals]
    rfl
  rw [hids]
  exact List.nodup_range

/-- A cleanup is a pruning by the device and the number. -/
theorem isPruned_cleanupSignals {rows ranked : List SignalRow} (hids : (rows.map SignalRow.id).Nodup)
    (hranked : Sql.IsOrdering (·.observedAt) ranked rows) (summaries : List SummaryRow)
    (now retentionDays : ℤ) :
    Sql.IsPruned numberPart 5
      (fun row => disposable summaries row.deviceId row.observedAt now retentionDays = true)
      ranked rows (cleanupSignals ranked summaries now retentionDays rows) where
  sublist := List.filter_sublist
  mem_iff _ hrow := mem_cleanupSignals_iff hids hranked summaries now retentionDays hrow

/-! ## Runs -/

/-- The table is what is left of the rows, and no number has lost its latest five. -/
structure KeptOf (signals : List Signal) (db : Db) : Prop where
  keeps : Sql.KeepsNewest numberPart (·.observedAt) 5 (withIds signals) db.signals
  sublist : db.signals.Sublist (withIds signals)
  nextId : db.nextId = signals.length

theorem KeptOf.of_eq {signals : List Signal} {db db' : Db} (hdb : KeptOf signals db)
    (hsignals : db'.signals = db.signals) (hnext : db'.nextId = db.nextId) : KeptOf signals db' where
  keeps := hsignals ▸ hdb.keeps
  sublist := hsignals ▸ hdb.sublist
  nextId := hnext ▸ hdb.nextId

theorem KeptOf.insert {signals : List Signal} {db : Db} (hdb : KeptOf signals db) (now : ℤ)
    (signal : Signal) : KeptOf (signals ++ [signal]) (step db (.insertSignal now signal)) where
  keeps := by
    rw [withIds_append_singleton, ← hdb.nextId]
    exact hdb.keeps.append _
  sublist := by
    rw [withIds_append_singleton, ← hdb.nextId]
    exact hdb.sublist.append (List.Sublist.refl _)
  nextId := by
    rw [List.length_append, ← hdb.nextId]
    rfl

theorem KeptOf.cleanup {signals : List Signal} {db : Db} (hdb : KeptOf signals db)
    (ranked : List SignalRow) (now retentionDays : ℤ) :
    KeptOf signals (step db (.cleanupSignals ranked now retentionDays)) := by
  dsimp only [step]
  split
  · rename_i hranked
    have hids : (db.signals.map SignalRow.id).Nodup :=
      (nodup_ids_withIds signals).sublist (hdb.sublist.map _)
    have hpruned := isPruned_cleanupSignals hids hranked db.summaries now retentionDays
    exact ⟨hdb.keeps.trans (hpruned.keepsNewest hranked (List.Nodup.of_map _ hids)),
      hpruned.sublist.trans hdb.sublist, hdb.nextId⟩
  · exact hdb

theorem KeptOf.silent {signals : List Signal} {db : Db} {action : Action} (hdb : KeptOf signals db)
    (hnone : action.signal? = none) : KeptOf (signals ++ action.signal?.toList) db := by
  rwa [hnone, Option.toList_none, List.append_nil]

theorem KeptOf.step {signals : List Signal} {db : Db} (hdb : KeptOf signals db) (action : Action) :
    KeptOf (signals ++ action.signal?.toList) (step db action) := by
  cases action with
  | insertSignal now signal => exact hdb.insert now signal
  | cleanupSignals ranked now retentionDays =>
      exact (hdb.cleanup ranked now retentionDays).silent rfl
  | insertEvent row => exact KeptOf.silent (hdb.of_eq rfl rfl) rfl
  | cleanupEvents now retentionDays => exact KeptOf.silent (hdb.of_eq rfl rfl) rfl
  | startDaily deviceId zone runDate now =>
      refine KeptOf.silent ?_ rfl
      dsimp only [Jobs.step]
      split
      · exact hdb
      · exact hdb.of_eq rfl rfl
  | resume i ok =>
      refine KeptOf.silent ?_ rfl
      dsimp only [Jobs.step]
      split
      · exact hdb
      · exact hdb.of_eq rfl rfl

theorem keptOf_empty : KeptOf [] Db.empty :=
  ⟨Sql.KeepsNewest.refl _, List.Sublist.refl _, rfl⟩

theorem keptOf_after (actions : List Action) :
    KeptOf (actions.filterMap Action.signal?) (run step Db.empty actions) := by
  induction actions using List.reverseRecOn with
  | nil => exact keptOf_empty
  | append_singleton earlier action ih =>
      rw [run_append, filterMap_append_singleton]
      exact ih.step action

/-- **No number loses its latest five rows**, whatever is inserted, summarised and cleaned up, in
whatever order: a row that has gone has five rows of its device and number in the table that are
not older, and the latest row of a number is the latest that was ever inserted. -/
theorem latest_after (actions : List Action) :
    let signals := (run step Db.empty actions).signals
    Sql.KeepsNewest numberPart (·.observedAt) 5 (insertedRows actions) signals ∧
      ∀ number row,
        Sql.IsLatest (·.observedAt) (signals.filter fun other => numberPart other = number) row →
          Sql.IsLatest (·.observedAt)
            ((insertedRows actions).filter fun other => numberPart other = number) row := by
  have hdb := keptOf_after actions
  exact ⟨hdb.keeps, fun number row hrow =>
    hdb.keeps.isLatest (Nat.succ_pos 4) hdb.sublist.subset hrow⟩

/-! ## The last cleanup -/

/-- The cutoff of a cleanup. -/
def Action.cutoff? : Action → Option ℤ
  | .cleanupSignals _ now retentionDays => some (retentionCutoff now retentionDays)
  | _ => none

/-- No two rows of a device and number are of the same time. -/
def DistinctTimes (rows : List SignalRow) : Prop :=
  ∀ row ∈ rows, ∀ other ∈ rows, numberPart other = numberPart row →
    other.observedAt = row.observedAt → other = row

instance (rows : List SignalRow) : Decidable (DistinctTimes rows) :=
  inferInstanceAs (Decidable (∀ row ∈ rows, _))

theorem summaries_subset_step (db : Db) (action : Action) :
    db.summaries ⊆ (step db action).summaries := by
  cases action with
  | resume i ok =>
      dsimp only [Jobs.step]
      split
      · exact List.Subset.refl _
      · rename_i r _
        dsimp only [nextSummaries]
        split
        · split
          · unfold insertSummary
            split
            · exact List.Subset.refl _
            · exact List.subset_append_left _ _
          · exact List.Subset.refl _
        · exact List.Subset.refl _
  | startDaily deviceId zone runDate now =>
      dsimp only [Jobs.step]
      split <;> exact List.Subset.refl _
  | cleanupSignals ranked now retentionDays =>
      dsimp only [Jobs.step]
      split <;> exact List.Subset.refl _
  | insertSignal now signal => exact List.Subset.refl _
  | insertEvent row => exact List.Subset.refl _
  | cleanupEvents now retentionDays => exact List.Subset.refl _

/-- A row is covered by a summary, or before one of the cutoffs. -/
def Spent (summaries : List SummaryRow) (cutoffs : List ℤ) (row : SignalRow) : Prop :=
  (∃ sum ∈ summaries, sum.covers row.deviceId row.observedAt) ∨
    ∃ cutoff ∈ cutoffs, row.observedAt < cutoff

theorem Spent.mono {summaries more : List SummaryRow} {cutoffs later : List ℤ} {row : SignalRow}
    (hspent : Spent summaries cutoffs row) (hsummaries : summaries ⊆ more)
    (hcutoffs : cutoffs ⊆ later) : Spent more later row :=
  hspent.imp (fun ⟨sum, hsum, hcovers⟩ => ⟨sum, hsummaries hsum, hcovers⟩)
    fun ⟨cutoff, hcutoff, hlt⟩ => ⟨cutoff, hcutoffs hcutoff, hlt⟩

theorem mem_signals_step_or_spent {db : Db} {action : Action} {row : SignalRow}
    (hrow : row ∈ db.signals) : row ∈ (step db action).signals ∨
      Spent (step db action).summaries action.cutoff?.toList row := by
  cases action with
  | insertSignal now signal => exact Or.inl (List.mem_append_left _ hrow)
  | insertEvent row => exact Or.inl hrow
  | cleanupEvents now retentionDays => exact Or.inl hrow
  | startDaily deviceId zone runDate now =>
      dsimp only [Jobs.step]
      split <;> exact Or.inl hrow
  | resume i ok =>
      dsimp only [Jobs.step]
      split <;> exact Or.inl hrow
  | cleanupSignals ranked now retentionDays =>
      dsimp only [Jobs.step]
      split
      · by_cases hstays : row ∈ cleanupSignals ranked db.summaries now retentionDays db.signals
        · exact Or.inl hstays
        · exact Or.inr ((disposable_of_deleted hrow hstays).imp_right fun hlt =>
            ⟨_, List.mem_singleton_self _, hlt⟩)
      · exact Or.inl hrow

/-- A row of the history is from before, or has just come into the table. -/
theorem mem_insertedRows_append_singleton {earlier : List Action} {action : Action}
    {row : SignalRow} (hrow : row ∈ insertedRows (earlier ++ [action])) :
    row ∈ insertedRows earlier ∨ row ∈ (step (run step Db.empty earlier) action).signals := by
  rw [insertedRows, filterMap_append_singleton] at hrow
  cases action with
  | insertSignal now signal =>
      rw [Action.signal?, Option.toList_some, withIds_append_singleton,
        ← (keptOf_after earlier).nextId] at hrow
      exact (List.mem_append.mp hrow).imp_right (List.mem_append_right _)
  | _ =>
      rw [Action.signal?, Option.toList_none, List.append_nil] at hrow
      · exact Or.inl hrow
      · simp

/-- What is missing was disposable when it was deleted. -/
theorem spent_after (actions : List Action) {row : SignalRow} (hrow : row ∈ insertedRows actions)
    (hgone : row ∉ (run step Db.empty actions).signals) :
    Spent (run step Db.empty actions).summaries (actions.filterMap Action.cutoff?) row := by
  induction actions using List.reverseRecOn with
  | nil => cases hrow
  | append_singleton earlier action ih =>
      rw [run_append] at hgone ⊢
      rw [filterMap_append_singleton]
      have hearlier := (mem_insertedRows_append_singleton hrow).resolve_right hgone
      by_cases hmem : row ∈ (run step Db.empty earlier).signals
      · have hspent := (mem_signals_step_or_spent hmem).resolve_left hgone
        exact hspent.mono (List.Subset.refl _) (List.subset_append_right _ _)
      · exact (ih hearlier hmem).mono (summaries_subset_step _ action)
          (List.subset_append_left _ _)

/-- **Cleanups leave no trace**: after a cleanup whose cutoff is not before the others, the table
holds the rows that were ever inserted and are not disposable or have fewer than five newer rows of
their device and number, whatever was cleaned up before, when and how often. -/
theorem cleaned_after (earlier : List Action) (ranked : List SignalRow) (now retentionDays : ℤ)
    (hranked : Sql.IsOrdering (·.observedAt) ranked (run step Db.empty earlier).signals)
    (hcutoffs : ∀ cutoff ∈ earlier.filterMap Action.cutoff?,
      cutoff ≤ retentionCutoff now retentionDays)
    (hdistinct : DistinctTimes (insertedRows earlier)) :
    let db := run step Db.empty (earlier ++ [.cleanupSignals ranked now retentionDays])
    db.signals = (insertedRows earlier).filter fun row =>
      !disposable db.summaries row.deviceId row.observedAt now retentionDays ||
        decide ((Sql.newerRows numberPart (·.observedAt) (insertedRows earlier) row).length < 5) := by
  have hkept := keptOf_after earlier
  have hall := nodup_ids_withIds (earlier.filterMap Action.signal?)
  have hids := hall.sublist (hkept.sublist.map SignalRow.id)
  have hstep : run step Db.empty (earlier ++ [.cleanupSignals ranked now retentionDays]) =
      { run step Db.empty earlier with
        signals := cleanupSignals ranked (run step Db.empty earlier).summaries now retentionDays
          (run step Db.empty earlier).signals } := by
    rw [run_append]
    exact if_pos hranked
  rw [hstep]
  refine (isPruned_cleanupSignals hids hranked _ now retentionDays).eq_filter hranked hkept.keeps
    hkept.sublist (List.Nodup.of_map _ hall) hdistinct fun row hrow hgone => ?_
  simp only [disposable, Bool.or_eq_true, List.any_eq_true, decide_eq_true_eq]
  refine (spent_after earlier hrow hgone).imp_right fun hbefore => ?_
  obtain ⟨cutoff, hcutoff, hlt⟩ := hbefore
  exact hlt.trans_le (hcutoffs cutoff hcutoff)

/-- Six readings of a sensor. -/
def sixInserts : List Action :=
  (List.range 6).map fun i : ℕ => .insertSignal i
    ⟨"device", some 46, "environment_temperature", some 21, none, none, i⟩

/-- A month later the first reading is deleted. -/
theorem cleaned_after_sixInserts :
    let db := run step Db.empty (sixInserts ++
      [.cleanupSignals (insertedRows sixInserts).reverse (31 * dayMicros) 30])
    db.signals = (insertedRows sixInserts).filter fun row =>
      !disposable db.summaries row.deviceId row.observedAt (31 * dayMicros) 30 ||
        decide ((Sql.newerRows numberPart (·.observedAt) (insertedRows sixInserts) row).length < 5) :=
  cleaned_after sixInserts _ (31 * dayMicros) 30 (by decide +kernel) (by decide)
    (by decide +kernel)

end OroEdge.Jobs
