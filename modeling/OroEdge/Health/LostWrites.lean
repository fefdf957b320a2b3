import OroEdge.Health.Changes

/-!
# Writes that fail

`execute_prepared` returns `false` and inserts nothing when the database is away.  A
record that announces a new state should then be written again by the next call that
reports the same state (`Reannounced`), and the low battery by the next tick that sees
the same low level (`LowReannounced`).

`emit_signal` drops the result, and what has been announced is remembered whether or
not it has been stored.  So the next report of the state is a repetition, unless
something else has been reported in between:

* `record_mem_iff_overtaken`: the record is written again exactly if the last report to
  the same memory is of another value (`Overtaken`);
* `lowRecord_mem_iff_cleared`: the low battery is written again exactly if the last
  tick in between that knew the level saw a high one (`Cleared`).

The monitor never learns what becomes of a write, so a run with failures and the same run
without them hold the same monitor (`monitor_after`), and what a call attempts is known from the
calls before it alone.  The question is therefore one about the memory of the monitor, and is
answered by what `OroEdge.Health.Changes` and `OroEdge.Health.History` say of it.  The table
comes in only at the end: a record that is stored is the last one of its sort
(`lastRow_emitAll`).

The two parts do not meet.  The change-gated reports are treated with `Sharp` memories, and the
low battery with its latch, which only ticks move.
-/

namespace OroEdge.Health

open OroEdge.Lib OroEdge.Storage

/-! ## Calls and their writes -/

/-- A call, and which of its writes the database takes. -/
structure WrittenCall where
  call : ChangeCall
  succeeds : ℕ → Bool

/-- The rows of the signals. -/
abbrev Rows := List ChangeRecord

/-- A write that fails leaves the table as it is. -/
def Rows.executePrepared (succeeds : Bool) (record : ChangeRecord) (database : Rows) :
    Rows × Bool :=
  if succeeds then (database ++ [record], true) else (database, false)

/-- The result is dropped. -/
def Rows.emitSignal (succeeds : Bool) (record : ChangeRecord) (database : Rows) : Rows :=
  (database.executePrepared succeeds record).1

/-- The monitor, and the table that its rows are written to. -/
structure WritingNode where
  monitor : ChangeMonitor
  database : Rows

/-- The writes of one call, in turn. -/
def emitAll (succeeds : ℕ → Bool) : List ChangeRecord → Rows → Rows
  | [], database => database
  | record :: rest, database =>
      emitAll (fun i => succeeds (i + 1)) rest (database.emitSignal (succeeds 0) record)

/-- A call whose rows are written at once; the monitor does not learn whether they were. -/
def writeStep (node : WritingNode) (written : WrittenCall) : WritingNode where
  monitor := (node.monitor.call written.call).1
  database := emitAll written.succeeds (node.monitor.call written.call).2 node.database

/-- The node after the calls, started with an empty database. -/
def WritingNode.after (start : ℕ) (earlier : List WrittenCall) : WritingNode :=
  run writeStep ⟨ChangeMonitor.construct start, []⟩ earlier

/-- The call hands the record to the database. -/
def Attempts (node : WritingNode) (written : WrittenCall) (record : ChangeRecord) : Prop :=
  record ∈ (node.monitor.call written.call).2

/-- The call hands the row over, and it is not written. -/
def Fails (node : WritingNode) (written : WrittenCall) (record : ChangeRecord) : Prop :=
  ∃ i, (node.monitor.call written.call).2[i]? = some record ∧ written.succeeds i = false

/-- The call hands the row over, and it is written. -/
def Stores (node : WritingNode) (written : WrittenCall) (record : ChangeRecord) : Prop :=
  ∃ i, (node.monitor.call written.call).2[i]? = some record ∧ written.succeeds i = true

/-- The last row of its sort. -/
def LastRow (sort : ChangeRecord → Prop) (database : List ChangeRecord) (row : ChangeRecord) :
    Prop :=
  ∃ before after, database = before ++ row :: after ∧ sort row ∧ ∀ other ∈ after, ¬ sort other

/-! ## The property -/

/-- The change-gated records: all but the two configured thresholds. -/
def Kind.announced : Kind → Bool
  | .timeoutConfig | .batteryLowConfig => false
  | _ => true

/-- The reports say the same of the same entity. -/
def SameState (r r' : Report) : Prop :=
  r.kind = r'.kind ∧ r.entity = r'.entity ∧ r.value = r'.value

/-- The record of a report about the entity. -/
def RowOf (kind : Kind) (entity : String) (row : ChangeRecord) : Prop :=
  ∃ call r, report call = some r ∧ r.kind = kind ∧ r.entity = entity ∧ r.record = row

/-- The write that announces a state fails, and `second` is the next call to report it. -/
structure LostReport (start : ℕ) (earlier : List WrittenCall) (first : WrittenCall)
    (between : List WrittenCall) (second : WrittenCall) (r r' : Report) : Prop where
  reports : report first.call = some r
  reportsAgain : report second.call = some r'
  announced : r.kind.announced = true
  same : SameState r r'
  next : ∀ written ∈ between, ∀ other ∈ report written.call, ¬ SameState r other
  fails : Fails (.after start earlier) first r.record

/-- The state is announced again; and if that is stored, it is the last that is. -/
def Reannounced (start : ℕ) (calls : List WrittenCall) : Prop :=
  ∀ earlier first between second later,
    calls = earlier ++ first :: between ++ second :: later →
      ∀ r r', LostReport start earlier first between second r r' →
        Attempts (.after start (earlier ++ first :: between)) second r'.record ∧
          (Stores (.after start (earlier ++ first :: between)) second r'.record →
            LastRow (RowOf r.kind r.entity)
              (WritingNode.after start (earlier ++ first :: between ++ [second])).database
              r'.record)

/-- The call is a tick of the loop. -/
def ChangeCall.isTick : ChangeCall → Bool
  | .base (.tick _ _) => true
  | _ => false

/-- The battery levels that the ticks see. -/
def levelsSeen : WritingNode → List WrittenCall → List ℚ
  | _, [] => []
  | node, written :: rest =>
      (if written.call.isTick then [node.monitor.lastBatteryLevel] else []) ++
        levelsSeen (writeStep node written) rest

/-- The row of the low event at a tick. -/
def lowBatteryRow (node : WritingNode) (now : ℕ) : ChangeRecord :=
  withoutConfidence (node.monitor.lowRecord now)

/-- The write of the low event fails, and `second` is the next tick that sees the same
level. -/
structure LostLow (start : ℕ) (earlier : List WrittenCall) (first : WrittenCall)
    (between : List WrittenCall) (second : WrittenCall) (now now' : ℕ) : Prop where
  ticks : ∃ sysInfo, first.call = .base (.tick sysInfo now)
  ticksAgain : ∃ sysInfo, second.call = .base (.tick sysInfo now')
  same : (WritingNode.after start (earlier ++ first :: between)).monitor.lastBatteryLevel =
    (WritingNode.after start earlier).monitor.lastBatteryLevel
  next : (WritingNode.after start earlier).monitor.lastBatteryLevel ∉
    levelsSeen (.after start (earlier ++ [first])) between
  fails : Fails (.after start earlier) first (lowBatteryRow (.after start earlier) now)

/-- Whenever the write of a low event has failed, the next tick that sees the same level tries it
again, and if the write succeeds then the low event is the last row of its type. -/
def LowReannounced (start : ℕ) (calls : List WrittenCall) : Prop :=
  ∀ earlier first between second later,
    calls = earlier ++ first :: between ++ second :: later →
      ∀ now now', LostLow start earlier first between second now now' →
        let node := WritingNode.after start (earlier ++ first :: between)
        Attempts node second (lowBatteryRow node now') ∧
          (Stores node second (lowBatteryRow node now') →
            LastRow (fun row => row.signalType = "battery_low_threshold")
              (writeStep node second).database (lowBatteryRow node now'))

/-- The last report in between to the memory of the entity is of another value. -/
def Overtaken (r : Report) (between : List WrittenCall) : Prop :=
  ∃ last ∈ (reaching r.kind r.entity (between.map WrittenCall.call)).getLast?, last.value ≠ r.value

/-- The last known level is a high one. -/
def Cleared (levels : List ℚ) : Prop :=
  ∃ level ∈ (levels.filter fun level => decide (0 ≤ level)).getLast?, 10 ≤ level

/-- Whatever is lost has been replaced before it is reported again. -/
def Replaced (start : ℕ) (calls : List WrittenCall) : Prop :=
  ∀ earlier first between second later,
    calls = earlier ++ first :: between ++ second :: later →
      (∀ r r', LostReport start earlier first between second r r' → Overtaken r between) ∧
        ∀ now now', LostLow start earlier first between second now now' →
          Cleared (levelsSeen (.after start (earlier ++ [first])) between)

/-! ## The database does not matter -/

theorem writtenAfter_append (start : ℕ) (first second : List WrittenCall) :
    WritingNode.after start (first ++ second) = run writeStep (.after start first) second :=
  run_append _ first second

theorem monitor_run_writeStep (node : WritingNode) (calls : List WrittenCall) :
    (run writeStep node calls).monitor =
      run changeStep node.monitor (calls.map WrittenCall.call) := by
  induction calls generalizing node with
  | nil => rfl
  | cons written rest ih => exact ih (writeStep node written)

theorem monitor_after (start : ℕ) (calls : List WrittenCall) :
    (WritingNode.after start calls).monitor =
      ChangeMonitor.after start (calls.map WrittenCall.call) :=
  monitor_run_writeStep _ calls

theorem attempts_iff {start : ℕ} {earlier : List WrittenCall} {written : WrittenCall}
    {record : ChangeRecord} : Attempts (.after start earlier) written record ↔
      record ∈ attempted start (earlier.map WrittenCall.call) written.call := by
  rw [Attempts, monitor_after]
  rfl

theorem Fails.attempts {node : WritingNode} {written : WrittenCall} {record : ChangeRecord}
    (hfails : Fails node written record) : Attempts node written record := by
  obtain ⟨i, hrecord, -⟩ := hfails
  exact List.mem_of_getElem? hrecord

/-! ### The rows of one call -/

/-- What a call adds to the database is among its records. -/
theorem exists_emitAll_eq (succeeds : ℕ → Bool) (records : List ChangeRecord)
    (database : Rows) :
    ∃ rows, emitAll succeeds records database = database ++ rows ∧ rows ⊆ records := by
  induction records generalizing succeeds database with
  | nil => exact ⟨[], by simp [emitAll], by simp⟩
  | cons record rest ih =>
      obtain ⟨rows, hrows, hsubset⟩ :=
        ih (fun i => succeeds (i + 1)) (Rows.emitSignal (succeeds 0) record database)
      rw [emitAll, hrows]
      cases hfirst : succeeds 0 with
      | true =>
          refine ⟨record :: rows, ?_, List.cons_subset_cons record hsubset⟩
          simp [Rows.emitSignal, Rows.executePrepared]
      | false =>
          refine ⟨rows, ?_, fun row hrow => List.mem_cons_of_mem record (hsubset hrow)⟩
          simp [Rows.emitSignal, Rows.executePrepared]

/-- The only record of its sort, once it is stored, is the last row of the sort. -/
theorem lastRow_emitAll {sort : ChangeRecord → Prop} {row : ChangeRecord}
    {before after : List ChangeRecord} (hrow : sort row) (hbefore : ∀ other ∈ before, ¬ sort other)
    (hafter : ∀ other ∈ after, ¬ sort other) {succeeds : ℕ → Bool} {i : ℕ}
    (hi : (before ++ row :: after)[i]? = some row) (hsucceeds : succeeds i = true)
    (database : Rows) :
    LastRow sort (emitAll succeeds (before ++ row :: after) database) row := by
  induction before generalizing succeeds i database with
  | nil =>
      obtain ⟨rows, hrows, hsubset⟩ := exists_emitAll_eq (fun j => succeeds (j + 1)) after
        (Rows.emitSignal (succeeds 0) row database)
      cases i with
      | zero =>
          refine ⟨database, rows, ?_, hrow, fun other hother => hafter other (hsubset hother)⟩
          rw [List.nil_append, emitAll, hrows, Rows.emitSignal, Rows.executePrepared,
            if_pos hsucceeds]
          simp
      | succ i => exact absurd hrow (hafter row (List.mem_of_getElem? hi))
  | cons other before ih =>
      have hother : ¬ sort other := hbefore other List.mem_cons_self
      cases i with
      | zero =>
          obtain rfl : other = row := Option.some.inj hi
          exact absurd hrow hother
      | succ i =>
          exact ih (fun other hmem => hbefore other (List.mem_cons_of_mem _ hmem)) hi hsucceeds _

/-! ## A report -/

section

variable {start : ℕ} {earlier between : List WrittenCall} {first second : WrittenCall}

theorem sharp_of_announced {kind : Kind} (hkind : kind.announced = true)
    (calls : List ChangeCall) : Sharp kind calls := by
  apply sharp_of_kind
  all_goals
    rintro rfl
    cases hkind

theorem lastReaching_append (kind : Kind) (entity : String) (calls others : List ChangeCall) :
    lastReaching kind entity (calls ++ others) =
      ((reaching kind entity others).getLast?.map Report.value).or
        (lastReaching kind entity calls) := by
  unfold lastReaching reaching
  rw [List.filterMap_append, List.filter_append, List.getLast?_append]
  cases (List.filter _ (others.filterMap report)).getLast? <;> rfl

/-- **The next report of a lost state.**  It finds what was remembered when the state
was announced, unless another value has been reported since. -/
theorem record_mem_iff_overtaken {r r' : Report}
    (hlost : LostReport start earlier first between second r r') :
    Attempts (.after start (earlier ++ first :: between)) second r'.record ↔
      Overtaken r between := by
  have hannounced : r'.kind.announced = true := by
    rw [← hlost.same.1]
    exact hlost.announced
  have hfirst : lastReaching r.kind r.entity ((earlier ++ [first]).map WrittenCall.call) =
      some r.value := by
    have hreaches : r.Reaches r.kind r.entity := ⟨rfl, Or.inr rfl⟩
    rw [List.map_append, List.map_singleton, lastReaching_append_singleton, hlost.reports]
    simp only [if_pos hreaches]
  rw [attempts_iff, record_mem_attempted_iff hlost.reportsAgain (sharp_of_announced hannounced _),
    ← hlost.same.1, ← hlost.same.2.1, ← hlost.same.2.2, List.append_cons, List.map_append,
    lastReaching_append, hfirst, Overtaken]
  cases (reaching r.kind r.entity (between.map WrittenCall.call)).getLast? <;> simp

/-- Only the verdict on a run of the pump goes with the record of a report. -/
theorem exists_attempted_eq {call : ChangeCall} {r : Report} (hreport : report call = some r)
    {m : ChangeMonitor} (hrecord : r.record ∈ (m.call call).2) :
    ∃ others, (m.call call).2 = r.record :: others ∧
      ∀ other ∈ others, ¬ RowOf r.kind r.entity other := by
  by_cases hkind : r.kind = .pumpState
  · -- the row of a state of the pump has a type of its own
    have htype : ∀ {call : ChangeCall} {r : Report}, report call = some r → r.kind = .pumpState →
        ∃ status now, call = .base (.waterPumpState status now) ∧
          r.record = withoutConfidence (HealthMonitor.fountainRecord status now) := by
      intro call r hreport hkind
      cases call with
      | base call =>
          cases call with
          | waterPumpState status now =>
              obtain rfl := Option.some.inj hreport
              exact ⟨status, now, rfl, rfl⟩
          | timeoutConfig threshold componentName configuredBy now =>
              obtain rfl := Option.some.inj hreport
              cases hkind
          | batteryLowConfig threshold batteryId configuredBy now =>
              obtain rfl := Option.some.inj hreport
              cases hkind
          | _ => cases hreport
      | _ =>
          obtain rfl := Option.some.inj hreport
          cases hkind
    obtain ⟨status, now, rfl, hrow⟩ := htype hreport hkind
    obtain ⟨⟨others, hothers, hrecords⟩, -⟩ := call_of_pump status now m
    rw [hrecords] at hrecord ⊢
    by_cases hsame : m.lastPumpState = status
    · simp [hsame] at hrecord
    · refine ⟨others, by rw [if_neg hsame, hrow], fun other hother hrowOf => ?_⟩
      obtain ⟨call, r', hreport', hkind', -, rfl⟩ := hrowOf
      obtain ⟨status', now', -, hrow'⟩ := htype hreport' (hkind'.trans hkind)
      have hverdict := hothers _ hother
      rw [hrow'] at hverdict
      simp [withoutConfidence, HealthMonitor.fountainRecord, textRecord] at hverdict
  · obtain ⟨m', -, hcall⟩ := call_of_report hreport hkind m
    rw [hcall] at hrecord ⊢
    cases hdiffers : differs (held r.kind r.entity m) r.value with
    | true => exact ⟨[], by simp [ChangeMonitor.gated], by simp⟩
    | false => simp [ChangeMonitor.gated, hdiffers] at hrecord

theorem lastRow_of_stores {r r' : Report}
    (hlost : LostReport start earlier first between second r r')
    (hstores : Stores (.after start (earlier ++ first :: between)) second r'.record) :
    LastRow (RowOf r.kind r.entity)
      (WritingNode.after start (earlier ++ first :: between ++ [second])).database r'.record := by
  obtain ⟨i, hi, hsucceeds⟩ := hstores
  have hsort : RowOf r'.kind r'.entity r'.record :=
    ⟨second.call, r', hlost.reportsAgain, rfl, rfl, rfl⟩
  obtain ⟨others, hrecords, hothers⟩ :=
    exists_attempted_eq hlost.reportsAgain (List.mem_of_getElem? hi)
  rw [writtenAfter_append]
  show LastRow _ (emitAll second.succeeds _ _) _
  rw [hrecords] at hi ⊢
  rw [hlost.same.1, hlost.same.2.1]
  exact lastRow_emitAll hsort (List.forall_mem_nil _) hothers hi hsucceeds _

end

/-! ## The low battery -/

/-- Only ticks move the latch of the low event. -/
theorem logged_base_of_not_tick {call : Call} (htick : (ChangeCall.base call).isTick = false)
    (m : HealthMonitor) : (m.call call).1.batteryLowEventLogged = m.batteryLowEventLogged := by
  rcases call_cases m call with ⟨sysInfo, now, rfl⟩ | ⟨seqNum, now, rfl⟩ | ⟨status, now, rfl⟩ |
    ⟨state, rfl⟩ | ⟨level, batteryId, powerMode, now, rfl⟩ | hunrelated
  · cases htick
  · simp only [HealthMonitor.call, HealthMonitor.updateDeviceHeartbeat]
    split <;> rfl
  · simp only [HealthMonitor.call, HealthMonitor.updateWaterPumpState]
    split
    · split <;> rfl
    · rfl
  · rfl
  · simp only [HealthMonitor.call, HealthMonitor.updateBatteryLevel]
    split <;> rfl
  · exact hunrelated.same.logged

theorem call_base (m : ChangeMonitor) (call : Call) : m.call (.base call) =
    ({ m with toHealthMonitor := (m.toHealthMonitor.call call).1 },
      (m.toHealthMonitor.call call).2.map withoutConfidence) := rfl

/-- A gated operation leaves the base monitor alone. -/
theorem gated_base {remembering m : ChangeMonitor} (hbase : remembering.toHealthMonitor =
    m.toHealthMonitor) (differs : Bool) (record : ChangeRecord) :
    (ChangeMonitor.gated differs record remembering m).1.toHealthMonitor = m.toHealthMonitor := by
  cases differs with
  | true => exact hbase
  | false => rfl

theorem logged_call_of_not_tick {call : ChangeCall} (htick : call.isTick = false)
    (m : ChangeMonitor) : (m.call call).1.batteryLowEventLogged = m.batteryLowEventLogged := by
  cases call with
  | base call =>
      rw [call_base]
      exact logged_base_of_not_tick htick m.toHealthMonitor
  | _ => exact congrArg HealthMonitor.batteryLowEventLogged (gated_base (by rfl) _ _)

/-- The latch after a tick: a level that is known decides. -/
theorem nextLogged_eq (m : HealthMonitor) : m.nextLogged =
    if 0 ≤ m.lastBatteryLevel then decide (m.lastBatteryLevel < 10)
    else m.batteryLowEventLogged := by
  have hthreshold : batteryLowThreshold = 10 := rfl
  unfold HealthMonitor.nextLogged HealthMonitor.heldLow
  rw [hthreshold]
  by_cases hknown : 0 ≤ m.lastBatteryLevel
  · cases m.batteryLowEventLogged <;> simp [hknown]
  · have hlow : m.lastBatteryLevel < 10 := by linarith
    simp [hknown, hlow]

theorem monitor_writeStep_base {node : WritingNode} {written : WrittenCall} {call : Call}
    (hcall : written.call = .base call) : (writeStep node written).monitor.toHealthMonitor =
      (node.monitor.toHealthMonitor.call call).1 := by
  rw [writeStep, hcall, call_base]

/-- The latch after a run is decided by the last known level that a tick of it saw. -/
theorem logged_run (node : WritingNode) (calls : List WrittenCall) :
    (run writeStep node calls).monitor.batteryLowEventLogged =
      (((levelsSeen node calls).filter fun level => decide (0 ≤ level)).getLast?.map
        fun level => decide (level < 10)).getD node.monitor.batteryLowEventLogged := by
  induction calls generalizing node with
  | nil => rfl
  | cons written rest ih =>
      rw [run_cons, ih, levelsSeen, List.filter_append, List.getLast?_append]
      cases ((levelsSeen (writeStep node written) rest).filter _).getLast? with
      | some level => rfl
      | none =>
          show (writeStep node written).monitor.batteryLowEventLogged = _
          cases htick : written.call.isTick with
          | false =>
              rw [writeStep, logged_call_of_not_tick htick]
              rfl
          | true =>
              obtain ⟨sysInfo, now, hcall⟩ : ∃ sysInfo now,
                  written.call = .base (.tick sysInfo now) := by
                unfold ChangeCall.isTick at htick
                split at htick
                · exact ⟨_, _, ‹_›⟩
                · cases htick
              have hticked := HealthMonitor.ticked_tick sysInfo now node.monitor.toHealthMonitor
              have hlogged : (writeStep node written).monitor.batteryLowEventLogged =
                  node.monitor.toHealthMonitor.nextLogged := by
                rw [monitor_writeStep_base hcall, HealthMonitor.call]
                exact hticked.logged
              rw [hlogged, nextLogged_eq]
              by_cases hknown : 0 ≤ node.monitor.lastBatteryLevel <;> simp [hknown]

/-- The low event is the only record of its type that a tick writes. -/
theorem lowBatteryRow_mem_iff {node : WritingNode} {written : WrittenCall}
    {sysInfo : HealthMonitor.NetworkInfo} {now : ℕ}
    (hcall : written.call = .base (.tick sysInfo now)) :
    Attempts node written (lowBatteryRow node now) ↔ node.monitor.raisesLow := by
  have hrecords := HealthMonitor.recordsOf_low_tick sysInfo now node.monitor.toHealthMonitor
  rw [Attempts, lowBatteryRow, hcall, call_base, HealthMonitor.call]
  constructor
  · intro hmem
    obtain ⟨record, hrecord, hsame⟩ := List.mem_map.mp hmem
    obtain rfl : record = node.monitor.lowRecord now := congrArg ChangeRecord.toSignalRecord hsame
    have hlow : node.monitor.lowRecord now ∈ recordsOf "battery_low_threshold"
        (node.monitor.toHealthMonitor.tick sysInfo now).2 :=
      List.mem_filter.mpr ⟨hrecord, rfl⟩
    by_contra hraises
    rw [hrecords, if_neg hraises] at hlow
    cases hlow
  · intro hraises
    rw [if_pos hraises] at hrecords
    have hlow : node.monitor.lowRecord now ∈ recordsOf "battery_low_threshold"
        (node.monitor.toHealthMonitor.tick sysInfo now).2 := by
      rw [hrecords]
      exact List.mem_singleton_self _
    exact List.mem_map_of_mem (List.mem_filter.mp hlow).1

section

variable {start : ℕ} {earlier between : List WrittenCall} {first second : WrittenCall}
  {now now' : ℕ}

/-- **The next tick at the lost level.** -/
theorem lowRecord_mem_iff_cleared (hlost : LostLow start earlier first between second now now') :
    Attempts (.after start (earlier ++ first :: between)) second
        (lowBatteryRow (.after start (earlier ++ first :: between)) now') ↔
      Cleared (levelsSeen (.after start (earlier ++ [first])) between) := by
  obtain ⟨sysInfo, hfirst⟩ := hlost.ticks
  obtain ⟨sysInfo', hsecond⟩ := hlost.ticksAgain
  have hraises := (lowBatteryRow_mem_iff hfirst).mp hlost.fails.attempts
  have hlow : (WritingNode.after start earlier).monitor.heldLow := by
    rw [HealthMonitor.raisesLow, Bool.and_eq_true] at hraises
    exact hraises.1
  -- the first tick has closed the latch
  have hlatched : (WritingNode.after start (earlier ++ [first])).monitor.batteryLowEventLogged := by
    have hticked := HealthMonitor.ticked_tick sysInfo now
      (WritingNode.after start earlier).monitor.toHealthMonitor
    rw [writtenAfter_append, run_cons, run_nil, monitor_writeStep_base hfirst,
      HealthMonitor.call, hticked.logged, HealthMonitor.nextLogged, hlow, Bool.true_or]
  have hlowAgain : (WritingNode.after start (earlier ++ first :: between)).monitor.heldLow := by
    rw [HealthMonitor.heldLow_congr hlost.same]
    exact hlow
  have hlogged := logged_run (.after start (earlier ++ [first])) between
  rw [hlatched, ← writtenAfter_append, ← List.append_cons] at hlogged
  rw [lowBatteryRow_mem_iff hsecond, HealthMonitor.raisesLow, hlowAgain, hlogged, Cleared]
  cases ((levelsSeen (.after start (earlier ++ [first])) between).filter _).getLast? <;> simp

theorem lastRow_of_stores_low {node : WritingNode} {sysInfo : HealthMonitor.NetworkInfo}
    (hcall : second.call = .base (.tick sysInfo now'))
    (hstores : Stores node second (lowBatteryRow node now')) :
    LastRow (fun row => row.signalType = "battery_low_threshold")
      (writeStep node second).database (lowBatteryRow node now') := by
  obtain ⟨i, hi, hsucceeds⟩ := hstores
  have hraises := (lowBatteryRow_mem_iff hcall).mp (List.mem_of_getElem? hi)
  have hrecords := HealthMonitor.recordsOf_low_tick sysInfo now' node.monitor.toHealthMonitor
  rw [if_pos hraises] at hrecords
  obtain ⟨before, after, htick, hbefore, hlow, hafter⟩ := List.filter_eq_cons_iff.mp hrecords
  have hwritten : (node.monitor.call second.call).2 = before.map withoutConfidence ++
      lowBatteryRow node now' :: after.map withoutConfidence := by
    rw [hcall, call_base, HealthMonitor.call]
    dsimp only
    rw [htick, List.map_append, List.map_cons, lowBatteryRow]
  have hother : ∀ records : List SignalRecord,
      (∀ record ∈ records, ¬ record.signalType = "battery_low_threshold") →
        ∀ row ∈ records.map withoutConfidence, ¬ row.signalType = "battery_low_threshold" := by
    intro records htypes row hrow
    obtain ⟨record, hrecord, rfl⟩ := List.mem_map.mp hrow
    exact htypes record hrecord
  have hrow : (lowBatteryRow node now').signalType = "battery_low_threshold" := by
    rw [lowBatteryRow, withoutConfidence, HealthMonitor.lowRecord, numericRecord]
  rw [hwritten] at hi
  rw [writeStep, hwritten]
  apply lastRow_emitAll hrow (hother before ?_) (hother after ?_) hi hsucceeds
  · intro record hrecord
    simpa using hbefore record hrecord
  · intro record hrecord
    have hnone := List.filter_eq_nil_iff.mp hafter record hrecord
    simpa using hnone

end

/-! ## Every run -/

/-- **No state is lost, exactly.**  Every state whose announcement fails is announced
again by the next call that reports it, if and only if it has been replaced by another
in between. -/
theorem reannounced_iff_replaced (start : ℕ) (calls : List WrittenCall) :
    Reannounced start calls ∧ LowReannounced start calls ↔ Replaced start calls := by
  constructor
  · rintro ⟨hreports, hlow⟩ earlier first between second later hsplit
    refine ⟨fun r r' hlost => ?_, fun now now' hlost => ?_⟩
    · have hagain := hreports earlier first between second later hsplit r r' hlost
      exact (record_mem_iff_overtaken hlost).mp hagain.1
    · have hagain := hlow earlier first between second later hsplit now now' hlost
      exact (lowRecord_mem_iff_cleared hlost).mp hagain.1
  · intro hreplaced
    constructor
    · intro earlier first between second later hsplit r r' hlost
      obtain ⟨hovertaken, -⟩ := hreplaced earlier first between second later hsplit
      exact ⟨(record_mem_iff_overtaken hlost).mpr (hovertaken r r' hlost),
        lastRow_of_stores hlost⟩
    · intro earlier first between second later hsplit now now' hlost
      obtain ⟨-, hcleared⟩ := hreplaced earlier first between second later hsplit
      obtain ⟨sysInfo, hsecond⟩ := hlost.ticksAgain
      exact ⟨(lowRecord_mem_iff_cleared hlost).mpr (hcleared now now' hlost),
        lastRow_of_stores_low hsecond⟩

/-! ### The database is away once -/

/-- The first report cannot be written. -/
def sensorReports : List WrittenCall :=
  [⟨.sensorHealth "imu" "failed" "E1" 1, fun _ => false⟩,
    ⟨.sensorHealth "imu" "failed" "E1" 2, fun _ => true⟩]

/-- The second report finds the state remembered, and the sensor is never recorded. -/
theorem not_reannounced_sensor :
    ¬ (Reannounced 0 sensorReports ∧ LowReannounced 0 sensorReports) := by
  rintro ⟨hagain, -⟩
  have hattempts := (hagain [] _ [] _ [] rfl
    ⟨.sensorHealth, "imu", .text "failed", sensorHealthRecord "imu" "failed" "E1" 1⟩
    ⟨.sensorHealth, "imu", .text "failed", sensorHealthRecord "imu" "failed" "E1" 2⟩
    ⟨rfl, rfl, rfl, ⟨rfl, rfl, rfl⟩, by simp, ⟨0, rfl, rfl⟩⟩).1
  have hmem : sensorHealthRecord "imu" "failed" "E1" 2 ∈
      attempted 0 [.sensorHealth "imu" "failed" "E1" 1] (.sensorHealth "imu" "failed" "E1" 2) :=
    hattempts
  exact absurd hmem (by decide +kernel)

end OroEdge.Health
