import OroEdge.Jobs.Cleanup
import OroEdge.Health.Monitor
import OroEdge.Lib.Run

/-!
# The five latest rows of a signal type

The cleanup of the signals should keep the five latest rows of each device and signal
type (`KeepsLatestFive`).

It keeps the five latest rows of each device and signal number.  That is enough as long
as rows with the same number have the same type (`keepsLatestFive_of_numbers`).  The
health monitor gives the number 71 to two types, and the logger leaves the number unset
for all of its types; in general the property holds exactly if no disposable row is among
the five latest of its type but not of its number (`keepsLatestFive_iff`).

Both partitions are instances of one ranking of the library, by the type and by the number, over
the same order by time, so the theorem is a comparison of two sets of protected rows.  A row
that the cleanup deletes is disposable and not among the five latest of its number
(`mem_cleanupSignals_iff`); it should have been kept if it is among the five latest of its
type.  As the order of equal times is open, either condition asks for some order for which it is
met.
-/

namespace OroEdge.Jobs

open OroEdge.Lib

/-! ## The property -/

/-- The part of a row by its type. -/
def typePart (row : SignalRow) : String × String := (row.deviceId, row.signalType)

/-- The part of a row by its number, as the cleanup makes it. -/
def numberPart (row : SignalRow) : String × Option ℤ := (row.deviceId, row.signalId)

/-- For some order of the rows by time, the first five of each device and type are kept. -/
def KeepsLatestFive (rows kept : List SignalRow) : Prop :=
  ∃ latest, Sql.IsOrdering (·.observedAt) latest rows ∧
    ∀ row ∈ rows, row ∈ Sql.firstOfPart typePart 5 latest row → row ∈ kept

/-- For some order of the rows by time, each disposable row that is among the first five of
its device and type is among those of its device and number, as the engine ranks them. -/
def NumbersProtectTypes (rows ranked : List SignalRow) (summaries : List SummaryRow)
    (now retentionDays : ℤ) : Prop :=
  ∃ latest, Sql.IsOrdering (·.observedAt) latest rows ∧
    ∀ row ∈ rows, disposable summaries row.deviceId row.observedAt now retentionDays = true →
      row ∈ Sql.firstOfPart typePart 5 latest row →
        row ∈ Sql.firstOfPart numberPart 5 ranked row

/-- All rows are kept of a device and type that has at most five. -/
theorem KeepsLatestFive.mem_of_few {rows kept : List SignalRow} (hkeeps : KeepsLatestFive rows kept)
    {row : SignalRow} (hrow : row ∈ rows)
    (hfew : (rows.filter fun other => typePart other = typePart row).length ≤ 5) : row ∈ kept := by
  obtain ⟨latest, hlatest, hkeeps⟩ := hkeeps
  refine hkeeps row hrow ?_
  rw [← (hlatest.1.filter _).length_eq] at hfew
  rw [Sql.firstOfPart, List.take_of_length_le hfew]
  exact List.mem_filter.mpr ⟨hlatest.1.mem_iff.mpr hrow, by simp⟩

/-! ## What is protected -/

section

variable {rows ranked : List SignalRow}

/-- The protected ids are those of the five latest rows of each number. -/
theorem mem_latestFiveIds_iff (hids : (rows.map SignalRow.id).Nodup)
    (hranked : Sql.IsOrdering (·.observedAt) ranked rows) {row : SignalRow} (hrow : row ∈ rows) :
    row.id ∈ latestFiveIds ranked ↔ row ∈ Sql.firstOfPart numberPart 5 ranked row := by
  have hnumbered : row ∈ Sql.firstOfPart numberPart 5 ranked row ↔
      ∃ n ≤ 5, (row, n) ∈ Sql.rowNumbers numberPart [] ranked :=
    (Sql.exists_mem_rowNumbers_iff numberPart 5 row [] ranked).symm
  have hsame : ∀ other n, (other, n) ∈ Sql.rowNumbers numberPart [] ranked → n ≤ 5 →
      other.id = row.id → other = row := by
    intro other n hmem hn hid
    have hfirst := (Sql.exists_mem_rowNumbers_iff numberPart 5 other [] ranked).mp ⟨n, hn, hmem⟩
    have hother : other ∈ ranked := (List.mem_filter.mp (List.mem_of_mem_take hfirst)).1
    exact List.inj_on_of_nodup_map hids (hranked.1.mem_iff.mp hother) hrow hid
  rw [hnumbered]
  constructor
  · intro hid
    obtain ⟨⟨other, n⟩, hnum, hid⟩ := List.mem_map.mp hid
    obtain ⟨hmem, hn⟩ := List.mem_filter.mp hnum
    have hn : n ≤ 5 := of_decide_eq_true hn
    obtain rfl := hsame other n hmem hn hid
    exact ⟨n, hn, hmem⟩
  · rintro ⟨n, hn, hmem⟩
    exact List.mem_map.mpr ⟨(row, n), List.mem_filter.mpr ⟨hmem, by simpa using hn⟩, rfl⟩

theorem mem_cleanupSignals_iff (hids : (rows.map SignalRow.id).Nodup)
    (hranked : Sql.IsOrdering (·.observedAt) ranked rows) (summaries : List SummaryRow)
    (now retentionDays : ℤ) {row : SignalRow} (hrow : row ∈ rows) :
    row ∈ cleanupSignals ranked summaries now retentionDays rows ↔
      (disposable summaries row.deviceId row.observedAt now retentionDays = true →
        row ∈ Sql.firstOfPart numberPart 5 ranked row) := by
  rw [← mem_latestFiveIds_iff hids hranked hrow, cleanupSignals, List.mem_filter, cleanupDeletes]
  simp [hrow, imp_iff_not_or]

end

/-- **What the cleanup keeps, exactly.**  The five latest rows of each device and type are
kept if and only if no disposable row is among them that is not among the five latest of its
device and number. -/
theorem keepsLatestFive_iff {rows ranked : List SignalRow} (hids : (rows.map SignalRow.id).Nodup)
    (hranked : Sql.IsOrdering (·.observedAt) ranked rows) (summaries : List SummaryRow)
    (now retentionDays : ℤ) :
    KeepsLatestFive rows (cleanupSignals ranked summaries now retentionDays rows) ↔
      NumbersProtectTypes rows ranked summaries now retentionDays := by
  have hkept := fun row => @mem_cleanupSignals_iff rows ranked hids hranked summaries now
    retentionDays row
  constructor
  · rintro ⟨latest, hlatest, hkeeps⟩
    exact ⟨latest, hlatest, fun row hrow hdisposable hfirst =>
      (hkept row hrow).mp (hkeeps row hrow hfirst) hdisposable⟩
  · rintro ⟨latest, hlatest, hprotect⟩
    exact ⟨latest, hlatest, fun row hrow hfirst =>
      (hkept row hrow).mpr fun hdisposable => hprotect row hrow hdisposable hfirst⟩

/-- If a number stands for one type, the five latest rows of the types are kept. -/
theorem keepsLatestFive_of_numbers {rows ranked : List SignalRow}
    (hids : (rows.map SignalRow.id).Nodup)
    (hranked : Sql.IsOrdering (·.observedAt) ranked rows)
    (hnumbers : ∀ row ∈ rows, ∀ other ∈ rows,
      numberPart other = numberPart row → typePart other = typePart row)
    (summaries : List SummaryRow) (now retentionDays : ℤ) :
    KeepsLatestFive rows (cleanupSignals ranked summaries now retentionDays rows) := by
  refine ⟨ranked, hranked, fun row hrow hfirst => ?_⟩
  rw [mem_cleanupSignals_iff hids hranked summaries now retentionDays hrow]
  intro _
  refine Sql.mem_firstOfPart_of_refines (fun other hother => ?_) hfirst
  exact hnumbers row hrow other (hranked.1.mem_iff.mp hother)

/-! ## Rows of the health monitor -/

/-- The rows of a table, with ids in the order of insertion. -/
def withIds (signals : List Signal) : List SignalRow :=
  signals.zipIdx.map fun numbered => ⟨numbered.1, numbered.2⟩

/-- A heartbeat of the device that is missed after eight seconds, and `ticks` ticks ten seconds
apart. -/
def missedHeartbeat (ticks : ℕ) : List Health.Call :=
  .deviceHeartbeat 1 5000 :: .tick ⟨"wifi", "-60"⟩ 8000 ::
    (List.range ticks).map fun i => .tick ⟨"wifi", "-60"⟩ (10000 * (i + 1))

/-- The rows of the health monitor that was started at time 0. -/
def monitorRows (calls : List Health.Call) : List SignalRow :=
  withIds ((run Health.step (Health.Node.construct 0) calls).emitted.map Health.emitSignal)

/-- With four heartbeats of the node, all rows are among the five latest of number 71. -/
theorem keepsLatestFive_four :
    KeepsLatestFive (monitorRows (missedHeartbeat 4))
      (cleanupSignals (monitorRows (missedHeartbeat 4)).reverse [] (31 * dayMicros) 30
        (monitorRows (missedHeartbeat 4))) :=
  (keepsLatestFive_iff (by decide +kernel) (by decide +kernel) [] (31 * dayMicros) 30).mpr
    ⟨(monitorRows (missedHeartbeat 4)).reverse, by decide +kernel, by decide +kernel⟩

/-- **Failing input.**  The cleanup of the thirty-second day deletes the only
`device_heartbeat_missed_event`, since five `device_heartbeat` rows with the same number are
newer. -/
theorem not_keepsLatestFive_five :
    ¬ KeepsLatestFive (monitorRows (missedHeartbeat 5))
      (cleanupSignals (monitorRows (missedHeartbeat 5)).reverse [] (31 * dayMicros) 30
        (monitorRows (missedHeartbeat 5))) := by
  intro hkeeps
  have hmissed : ∃ row ∈ monitorRows (missedHeartbeat 5),
      row.signalType = "device_heartbeat_missed_event" ∧
        ((monitorRows (missedHeartbeat 5)).filter fun other => typePart other = typePart row).length
          ≤ 5 ∧
        row ∉ cleanupSignals (monitorRows (missedHeartbeat 5)).reverse [] (31 * dayMicros) 30
          (monitorRows (missedHeartbeat 5)) := by
    decide +kernel
  obtain ⟨row, hrow, -, hfew, hgone⟩ := hmissed
  exact hgone (hkeeps.mem_of_few hrow hfew)

end OroEdge.Jobs
