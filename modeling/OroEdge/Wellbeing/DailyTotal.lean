import Mathlib.Algebra.BigOperators.Group.List.Basic
import Mathlib.Tactic.NormNum
import OroEdge.Lib.Sql
import OroEdge.Wellbeing.History
import OroEdge.Wellbeing.Occurrence

/-!
# Daily food totals

A record `food_intake_per_day` should be the sum of the intakes of the day so far, with
one rule that says to which day a meal belongs (`TotalsBy`).

The total is made of the meal that has just ended and of what a query returns for the
other meals that started since midnight, and it is written for the day of the end.  A
meal that spans midnight is thus in the total of the day on which it ends, and in no
later total of that day.  Where every meal that is eaten ends on the local day on which
it started (`EndsOnStartDay`), the totals add up by the day of the start.

The query counts each meal once by its id, so that the rows of one day must have different ids
(`RowsInOrder.nodup_ids`), and it counts by the time of observation, which is the start of the
meal.  `RowsInOrder` carries both through a run: the rows of the meals come in the order of
their starts and before the active meal.  A tick that ends a meal adds a row at the end, and
every other call leaves the rows alone (`RowsInOrder.tick`).  The daily record is then the
answer of the query and the meal that has just ended (`total_of_answered`).
-/

namespace OroEdge.Wellbeing

open OroEdge.Lib OroEdge.Storage DogWellbeingMonitor

/-! ## The query -/

/-- `metadata->>'meal_id'`. -/
def mealIdOf : Metadata → Option String
  | .dumped json => (json.get? "meal_id").bind Json.asString
  | .text _ => none

/-- The row of a meal that was eaten. -/
def isMealRow (row : SignalRecord) : Bool := decide (row.signalType = "food_intake_per_meal")

/-- The rows that `get_daily_food_intake` selects.  The dog of a row is null if it is
empty. -/
def countedRows (dogId : String) (startOfDay : ℕ) (mealId : String) (rows : List SignalRecord) :
    List SignalRecord :=
  rows.filter fun row => isMealRow row && decide (row.dogId ≠ "" ∧ row.dogId = dogId) &&
    decide (unixMsToMicros startOfDay ≤ unixMsToMicros row.observedAt) &&
      decide (mealIdOf row.metadata ≠ none ∧ mealIdOf row.metadata ≠ some mealId)

/-- What the query may return. -/
def DailyFoodIntake (dogId : String) (startOfDay : ℕ) (mealId : String) (rows : List SignalRecord)
    (answer : ℚ) : Prop :=
  ∃ picked, Sql.IsDistinctOn (fun row => mealIdOf row.metadata)
      (fun row => unixMsToMicros row.observedAt) picked
      (countedRows dogId startOfDay mealId rows) ∧
    answer = (Sql.sum (picked.map SignalRecord.signalValueNumeric)).getD 0

/-- The query of a tick is answered, after its record of the meal has been written. -/
def Answered (settings : Settings) (node : Node) : Call → Prop
  | .tick now previousMealsSum =>
      node.monitor.Ends now → 5 < node.monitor.intake →
        DailyFoodIntake settings.dogId (milliseconds (startOfDay settings now))
          (fullMealId settings node.monitor)
          (node.emitted ++ [perMealRecord settings node.monitor]) previousMealsSum
  | _ => True

/-! ## The property -/

/-- The intakes of the meals that belong to the day. -/
def dayTotal (rule : Option String → ℕ → ℤ) (day : ℤ) (rows : List SignalRecord) : ℚ :=
  ((rows.filter fun row => isMealRow row &&
    decide (rule (mealIdOf row.metadata) row.observedAt = day)).map fun row =>
      row.signalValueNumeric.getD 0).sum

/-- Every daily record is the total so far.  `rule` gives the day of a meal with an id and
a start. -/
def TotalsBy (settings : Settings) (rule : Option String → ℕ → ℤ) (rows : List SignalRecord) :
    Prop :=
  ∀ earlier record later, rows = earlier ++ record :: later →
    record.signalType = "food_intake_per_day" →
      record.signalValueNumeric =
        some (dayTotal rule (settings.clock.day (seconds record.observedAt)) earlier)

/-- The local day of a time. -/
def localDay (offset : ℤ) (ms : ℕ) : ℤ := (seconds ms + offset) / 86400

/-- A meal belongs to the day on which it starts. -/
def byStart (offset : ℤ) : Option String → ℕ → ℤ := fun _ startMs => localDay offset startMs

/-- A tick that ends a meal that was eaten comes on the day on which it started. -/
def EndsOnStartDay (offset : ℤ) (node : Node) : Call → Prop
  | .tick now _ =>
      InRange offset now ∧ now < 9223372036854 ∧
        (node.monitor.Ends now → 5 < node.monitor.intake →
          localDay offset node.monitor.activeMealStartMs = localDay offset now)
  | _ => True

instance (offset : ℤ) (node : Node) : ∀ call, Decidable (EndsOnStartDay offset node call)
  | .tick _ _ => inferInstanceAs (Decidable (_ ∧ _ ∧ (_ → _ → _)))
  | .bowlWeight .. | .waterLevel .. => inferInstanceAs (Decidable True)

/-! ## The rows of the meals -/

def mealRows (rows : List SignalRecord) : List SignalRecord := rows.filter isMealRow

theorem mealRows_append (first second : List SignalRecord) :
    mealRows (first ++ second) = mealRows first ++ mealRows second :=
  List.filter_append ..

theorem mealRows_of_not_mealTypes {records : List SignalRecord}
    (htypes : ∀ record ∈ records, record.signalType ∉ mealTypes) : mealRows records = [] := by
  apply List.filter_eq_nil_iff.mpr
  intro record hrecord
  have htype := htypes record hrecord
  simp only [mealTypes, List.mem_cons, List.not_mem_nil, or_false, not_or] at htype
  simpa [isMealRow] using htype.1

/-- The row of a meal of one of the schedules. -/
structure MealRow (settings : Settings) (offset : ℤ) (row : SignalRecord) : Prop where
  dog : row.dogId = settings.dogId
  meal : ∃ sched ∈ settings.mealSchedules, sched.StartsAt offset row.observedAt ∧
    mealIdOf row.metadata =
      some (sched.mealId ++ (civilDate (localDay offset row.observedAt)).compact)

/-- The rows of the meals are in order, and before the active meal. -/
structure RowsInOrder (settings : Settings) (offset : ℤ) (calls : List Call) (node : Node) :
    Prop where
  rows : ∀ row ∈ mealRows node.emitted, MealRow settings offset row
  before : ∀ row ∈ mealRows node.emitted, row.observedAt < node.monitor.activeMealStartMs
  order : (mealRows node.emitted).Pairwise fun row row' => row.observedAt < row'.observedAt
  active : node.monitor.activeMealStartMs ≠ 0 →
    node.monitor.activeSched ∈ settings.mealSchedules ∧
      node.monitor.activeSched.StartsAt offset node.monitor.activeMealStartMs
  started : node.monitor.monitorState = .recording →
    ∃ last ∈ (ticks calls).getLast?, node.monitor.activeMealStartMs ≤ last

section

variable {settings : Settings} {offset : ℤ}

/-- Two meals of one day with one id are the same. -/
theorem MealRow.observedAt_eq {row row' : SignalRecord} (hrow : MealRow settings offset row)
    (hrow' : MealRow settings offset row')
    (hids : (settings.mealSchedules.map MealSchedule.mealId).Nodup)
    (hday : localDay offset row.observedAt = localDay offset row'.observedAt)
    (hmeal : mealIdOf row.metadata = mealIdOf row'.metadata) :
    row.observedAt = row'.observedAt := by
  obtain ⟨sched, hsched, ⟨hwhole, htime⟩, hid⟩ := hrow.meal
  obtain ⟨sched', hsched', ⟨hwhole', htime'⟩, hid'⟩ := hrow'.meal
  rw [hid, hid', hday] at hmeal
  have hmealId : sched.mealId = sched'.mealId :=
    String.append_left_inj _ |>.mp (Option.some.inj hmeal)
  have hsame := List.inj_on_of_nodup_map hids hsched hsched' hmealId
  subst hsame
  unfold localDay at hday
  unfold seconds at hday htime htime'
  omega

/-! ### The rows keep in order -/

theorem mealRows_verdict (m : DogWellbeingMonitor) (now : ℕ) (previousMealsSum : ℚ) :
    mealRows (verdict settings m now previousMealsSum) =
      if 5 < m.intake then [perMealRecord settings m] else [] := by
  unfold verdict
  split <;> simp [mealRows, isMealRow, perMealRecord, perDayRecord, mealSkippedRecord]

theorem mealRow_perMealRecord (hclock : settings.clock = .fixed offset) {m : DogWellbeingMonitor}
    (hactive : m.activeSched ∈ settings.mealSchedules ∧
      m.activeSched.StartsAt offset m.activeMealStartMs) :
    MealRow settings offset (perMealRecord settings m) := by
  refine ⟨rfl, m.activeSched, hactive.1, hactive.2, ?_⟩
  have hid : mealIdOf (perMealRecord settings m).metadata = some (fullMealId settings m) := rfl
  rw [hid, fullMealId, hclock]
  rfl

/-- The meal that is active after a search starts after `now`; without schedules there is
none. -/
theorem initializeNextMeal_cases (hclock : settings.clock = .fixed offset)
    (hwell : WellFormed settings.mealSchedules) {now : ℕ} (hrange : InRange offset now)
    (m : DogWellbeingMonitor) :
    (settings.mealSchedules = [] ∧ initializeNextMeal settings now m = m) ∨
      ((initializeNextMeal settings now m).activeSched ∈ settings.mealSchedules ∧
        (initializeNextMeal settings now m).activeSched.StartsAt offset
          (initializeNextMeal settings now m).activeMealStartMs ∧
        now < (initializeNextMeal settings now m).activeMealStartMs ∧
        (initializeNextMeal settings now m).monitorState = .waiting) := by
  by_cases hempty : settings.mealSchedules = []
  · refine Or.inl ⟨hempty, ?_⟩
    have hnone : findNextMeal settings now = none := by
      simp [findNextMeal, findToday, findTomorrow, hempty]
    rw [initializeNextMeal, hnone]
  · obtain ⟨meal, hmeal, ⟨hmem, hstarts, -⟩, hafter, -⟩ :=
      findNextMeal_spec hclock hrange hwell hempty
    right
    rw [initializeNextMeal, hmeal]
    exact ⟨hmem, hstarts, hafter, rfl⟩

theorem RowsInOrder.of_sameMeal {calls : List Call} {node : Node}
    (hrows : RowsInOrder settings offset calls node) {m : DogWellbeingMonitor}
    (hsame : SameMeal node.monitor m) {records : List SignalRecord}
    (hrecords : mealRows records = []) {calls' : List Call} (hticks : ticks calls' = ticks calls) :
    RowsInOrder settings offset calls' ⟨m, node.emitted ++ records⟩ := by
  have hemitted : mealRows (node.emitted ++ records) = mealRows node.emitted := by
    rw [mealRows_append, hrecords, List.append_nil]
  constructor
  · rw [hemitted]
    exact hrows.rows
  · rw [hemitted, hsame.startMs]
    exact hrows.before
  · rw [hemitted]
    exact hrows.order
  · rw [hsame.startMs, hsame.sched]
    exact hrows.active
  · rw [hsame.state, hsame.startMs, hticks]
    exact hrows.started

/-- A search for the first meal: no meal has been followed yet, so there are no rows. -/
theorem RowsInOrder.starts (hclock : settings.clock = .fixed offset)
    (hwell : WellFormed settings.mealSchedules) {calls calls' : List Call} {node : Node}
    (hrows : RowsInOrder settings offset calls node) {now : ℕ} (hrange : InRange offset now)
    (hlast : (ticks calls').getLast? = some now) (hunset : node.monitor.activeMealStartMs = 0) :
    RowsInOrder settings offset calls'
      ⟨initializeNextMeal settings now node.monitor, node.emitted⟩ := by
  have hnone : mealRows node.emitted = [] := by
    apply List.eq_nil_iff_forall_not_mem.mpr
    intro row hrow
    have hbefore := hrows.before row hrow
    omega
  rcases initializeNextMeal_cases hclock hwell hrange node.monitor with ⟨-, hsame⟩ |
    ⟨hmem, hstarts, -, hwaiting⟩
  · rw [hsame]
    refine ⟨hrows.rows, hrows.before, hrows.order, hrows.active, fun hstate => ?_⟩
    exact ⟨now, hlast, hunset.le.trans (Nat.zero_le now)⟩
  · refine ⟨by simp [hnone], by simp [hnone], by simp [hnone], fun _ => ⟨hmem, hstarts⟩, ?_⟩
    intro hstate
    rw [hwaiting] at hstate
    cases hstate

/-- The end of a meal: its row, if any, comes after the others and before the next meal. -/
theorem RowsInOrder.ends (hclock : settings.clock = .fixed offset)
    (hwell : WellFormed settings.mealSchedules) {calls calls' : List Call} {node : Node}
    (hrows : RowsInOrder settings offset calls node) {now : ℕ} (hrange : InRange offset now)
    (hset : node.monitor.activeMealStartMs ≠ 0) (hstarted : node.monitor.activeMealStartMs ≤ now)
    (previousMealsSum : ℚ) :
    RowsInOrder settings offset calls' ⟨initializeNextMeal settings now node.monitor,
      node.emitted ++ verdict settings node.monitor now previousMealsSum⟩ := by
  obtain ⟨hmemActive, hstartsActive⟩ := hrows.active hset
  rcases initializeNextMeal_cases hclock hwell hrange node.monitor with ⟨hempty, -⟩ |
    ⟨hmem, hstarts, hafter, hwaiting⟩
  · rw [hempty] at hmemActive
    cases hmemActive
  have hemitted : mealRows (node.emitted ++ verdict settings node.monitor now previousMealsSum) =
      mealRows node.emitted ++
        if 5 < node.monitor.intake then [perMealRecord settings node.monitor] else [] := by
    rw [mealRows_append, mealRows_verdict]
  have hnew : ∀ row ∈ (if 5 < node.monitor.intake then
      [perMealRecord settings node.monitor] else []),
        row = perMealRecord settings node.monitor := by
    intro row hrow
    split at hrow
    · exact List.mem_singleton.mp hrow
    · cases hrow
  refine ⟨?_, ?_, ?_, fun _ => ⟨hmem, hstarts⟩, ?_⟩
  · intro row hrow
    rw [hemitted] at hrow
    rcases List.mem_append.mp hrow with hrow | hrow
    · exact hrows.rows row hrow
    · rw [hnew row hrow]
      exact mealRow_perMealRecord hclock ⟨hmemActive, hstartsActive⟩
  · intro row hrow
    rw [hemitted] at hrow
    rcases List.mem_append.mp hrow with hrow | hrow
    · have hbefore := hrows.before row hrow
      show row.observedAt < (initializeNextMeal settings now node.monitor).activeMealStartMs
      omega
    · rw [hnew row hrow]
      show node.monitor.activeMealStartMs <
        (initializeNextMeal settings now node.monitor).activeMealStartMs
      omega
  · rw [hemitted]
    refine List.pairwise_append.mpr ⟨hrows.order, ?_, ?_⟩
    · split <;> simp
    · intro row hrow row' hrow'
      rw [hnew row' hrow']
      exact hrows.before row hrow
  · intro hrecording
    rw [hwaiting] at hrecording
    cases hrecording

theorem RowsInOrder.tick (hclock : settings.clock = .fixed offset)
    (hwell : WellFormed settings.mealSchedules) {calls : List Call} {node : Node}
    (hrows : RowsInOrder settings offset calls node) {now : ℕ} (hrange : InRange offset now)
    (hclockOrder : ∀ last ∈ (ticks calls).getLast?, last ≤ now) (previousMealsSum : ℚ) :
    RowsInOrder settings offset (calls ++ [.tick now previousMealsSum])
      (step settings node (.tick now previousMealsSum)) := by
  have hlast : (ticks (calls ++ [.tick now previousMealsSum])).getLast? = some now := by
    rw [ticks_append_singleton]
    exact List.getLast?_concat
  rw [step, DogWellbeingMonitor.call]
  rcases tick_cases settings now previousMealsSum node.monitor with ⟨hunset, htick⟩ |
    ⟨⟨hset, -, hstart⟩, htick⟩ | ⟨⟨hset, hstate, -⟩, htick⟩ | ⟨hset, -, -, htick⟩
  · rw [htick, List.append_nil]
    exact hrows.starts hclock hwell hrange hlast hunset
  · rw [htick, List.append_nil]
    exact ⟨hrows.rows, hrows.before, hrows.order, hrows.active, fun _ => ⟨now, hlast, hstart⟩⟩
  · obtain ⟨last, hlastMem, hstarted⟩ := hrows.started hstate
    rw [htick]
    exact hrows.ends hclock hwell hrange hset (hstarted.trans (hclockOrder last hlastMem))
      previousMealsSum
  · rw [htick, List.append_nil]
    refine ⟨hrows.rows, hrows.before, hrows.order, hrows.active, fun hstate => ?_⟩
    obtain ⟨last, hlastMem, hstarted⟩ := hrows.started hstate
    exact ⟨now, hlast, hstarted.trans (hclockOrder last hlastMem)⟩

/-! ### The answer of the query -/

/-- The query selects the rows of the local day of `now`, if all of them are before
`now` and no other row has the id. -/
theorem countedRows_eq {rows : List SignalRecord} (hdog : settings.dogId ≠ "") {startMs now : ℕ}
    (hrows : ∀ row ∈ mealRows rows, MealRow settings offset row ∧ row.observedAt ≤ now)
    (hstart : (startMs : ℤ) = (localDay offset now * 86400 - offset) * 1000)
    (hnow : now < 9223372036854) {mealId : String}
    (hothers : ∀ row ∈ mealRows rows, localDay offset row.observedAt = localDay offset now →
      mealIdOf row.metadata ≠ some mealId) :
    countedRows settings.dogId startMs mealId rows =
      (mealRows rows).filter fun row =>
        decide (localDay offset row.observedAt = localDay offset now) := by
  unfold countedRows mealRows
  rw [List.filter_filter]
  apply List.filter_congr
  intro row hmem
  cases hmeal : isMealRow row with
  | false => simp
  | true =>
      have hrow := List.mem_filter.mpr ⟨hmem, hmeal⟩
      obtain ⟨hmealRow, hle⟩ := hrows row hrow
      obtain ⟨sched, -, -, hid⟩ := hmealRow.meal
      have hsince : unixMsToMicros startMs ≤ unixMsToMicros row.observedAt ↔
          localDay offset row.observedAt = localDay offset now := by
        have hstartLe : startMs ≤ now := by
          unfold localDay seconds at hstart
          omega
        rw [unixMsToMicros_of_lt (by omega), unixMsToMicros_of_lt (by omega)]
        unfold localDay seconds at hstart ⊢
        omega
      have hknown : mealIdOf row.metadata ≠ none := by
        rw [hid]
        exact Option.some_ne_none _
      have hdogs : row.dogId ≠ "" ∧ row.dogId = settings.dogId := by
        rw [hmealRow.dog]
        exact ⟨hdog, rfl⟩
      by_cases hday : localDay offset row.observedAt = localDay offset now
      · have hother := hothers row hrow hday
        simp [hsince.mpr hday, hday, hdog, hdogs, hknown, hother]
      · have hearlier : ¬ unixMsToMicros startMs ≤ unixMsToMicros row.observedAt :=
          mt hsince.mp hday
        simp [hearlier, hday]

theorem dayTotal_byStart (rows : List SignalRecord) (day : ℤ) :
    dayTotal (byStart offset) day rows =
      (((mealRows rows).filter fun row =>
        decide (localDay offset row.observedAt = day)).map fun row =>
          row.signalValueNumeric.getD 0).sum := by
  unfold dayTotal mealRows byStart
  rw [List.filter_filter]
  simp only [Bool.and_comm]

/-- The start of the local day, in milliseconds. -/
theorem milliseconds_startOfDay (hclock : settings.clock = .fixed offset) {now : ℕ}
    (hrange : InRange offset now) (hnow : now < 9223372036854) :
    (milliseconds (startOfDay settings now) : ℤ) =
      (localDay offset now * 86400 - offset) * 1000 := by
  obtain ⟨hepoch, -⟩ := hrange
  have htime : startOfDay settings now = localDay offset now * 86400 - offset := by
    have hseconds : Hms.seconds ⟨0, 0, 0⟩ = 0 := rfl
    rw [startOfDay, hclock, setTime_fixed, hseconds]
    unfold localDay
    omega
  rw [htime]
  apply milliseconds_eq
  · unfold localDay
    omega
  · unfold localDay
    unfold seconds
    omega

/-- The rows of a day have different ids. -/
theorem RowsInOrder.nodup_ids {calls : List Call} {node : Node}
    (hrows : RowsInOrder settings offset calls node)
    (hids : (settings.mealSchedules.map MealSchedule.mealId).Nodup) (day : ℤ) :
    (((mealRows node.emitted).filter fun row =>
      decide (localDay offset row.observedAt = day)).map fun row =>
        mealIdOf row.metadata).Nodup := by
  apply List.pairwise_map.mpr
  refine (hrows.order.filter _).imp_of_mem ?_
  intro row row' hrow hrow' hlt hid
  obtain ⟨hrow, hrowDay⟩ := List.mem_filter.mp hrow
  obtain ⟨hrow', hrowDay'⟩ := List.mem_filter.mp hrow'
  have hsame := (hrows.rows row hrow).observedAt_eq (hrows.rows row' hrow') hids
    ((of_decide_eq_true hrowDay).trans (of_decide_eq_true hrowDay').symm) hid
  exact absurd hsame hlt.ne

/-- **A daily record.**  Its value is the total of the day. -/
theorem total_of_answered (hclock : settings.clock = .fixed offset) (hdog : settings.dogId ≠ "")
    (hids : (settings.mealSchedules.map MealSchedule.mealId).Nodup) {calls : List Call}
    {node : Node}
    (hrows : RowsInOrder settings offset calls node) {now : ℕ}
    (hclockOrder : ∀ last ∈ (ticks calls).getLast?, last ≤ now) {previousMealsSum : ℚ}
    (hends : node.monitor.Ends now) (heaten : 5 < node.monitor.intake)
    (hcall : EndsOnStartDay offset node (.tick now previousMealsSum))
    (hanswered : Answered settings node (.tick now previousMealsSum)) :
    previousMealsSum + node.monitor.intake = dayTotal (byStart offset) (localDay offset now)
      (node.emitted ++ [perMealRecord settings node.monitor]) := by
  obtain ⟨hrange, hnow, hday⟩ := hcall
  obtain ⟨picked, hpicked, hsum⟩ := hanswered hends heaten
  obtain ⟨last, hlastMem, hstarted⟩ := hrows.started hends.2.1
  have hle := hclockOrder last hlastMem
  have hmidnight := milliseconds_startOfDay hclock hrange hnow
  have hcurrent := mealRow_perMealRecord hclock (hrows.active hends.1)
  have hcurrentId : mealIdOf (perMealRecord settings node.monitor).metadata =
      some (fullMealId settings node.monitor) := rfl
  have hsameDay := hday hends heaten
  -- 1. the current row is left out by its id, and no other row has it
  have hcountedAll : countedRows settings.dogId (milliseconds (startOfDay settings now))
      (fullMealId settings node.monitor) (node.emitted ++ [perMealRecord settings node.monitor]) =
        countedRows settings.dogId (milliseconds (startOfDay settings now))
          (fullMealId settings node.monitor) node.emitted := by
    unfold countedRows
    rw [List.filter_append, List.filter_singleton]
    simp [hcurrentId]
  have hothers : ∀ row ∈ mealRows node.emitted,
      localDay offset row.observedAt = localDay offset now →
        mealIdOf row.metadata ≠ some (fullMealId settings node.monitor) := by
    intro row hrow hrowDay hid
    have hsame := (hrows.rows row hrow).observedAt_eq hcurrent hids (hrowDay.trans hsameDay.symm)
      (hid.trans hcurrentId.symm)
    exact absurd hsame (hrows.before row hrow).ne
  have hcounted := countedRows_eq hdog
    (fun row hrow => ⟨hrows.rows row hrow, by have := hrows.before row hrow; omega⟩)
    hmidnight hnow hothers
  -- 2. the ids of the rows of the day are distinct, so all of them are picked
  rw [hcountedAll, hcounted] at hpicked
  have hperm := hpicked.perm (hrows.nodup_ids hids (localDay offset now))
  have hprevious : previousMealsSum = (((mealRows node.emitted).filter fun row =>
      decide (localDay offset row.observedAt = localDay offset now)).map fun row =>
        row.signalValueNumeric.getD 0).sum := by
    rw [hsum, Sql.sum_getD, List.map_map]
    exact (hperm.map _).sum_eq
  have hlastRow : ((mealRows [perMealRecord settings node.monitor]).filter fun row =>
      decide (localDay offset row.observedAt = localDay offset now)) =
        [perMealRecord settings node.monitor] := by
    have hobserved : (perMealRecord settings node.monitor).observedAt =
        node.monitor.activeMealStartMs := rfl
    have hmeal : isMealRow (perMealRecord settings node.monitor) = true := rfl
    simp [mealRows, hmeal, hobserved, hsameDay]
  rw [dayTotal_byStart, mealRows_append, List.filter_append, hlastRow, List.map_append,
    List.sum_append, ← hprevious, List.map_singleton, List.sum_singleton]
  rfl

/-! ## Every run -/

theorem TotalsBy.append_singleton {rule : Option String → ℕ → ℤ} {rows : List SignalRecord}
    (htotals : TotalsBy settings rule rows) {record : SignalRecord}
    (hrecord : record.signalType = "food_intake_per_day" → record.signalValueNumeric =
      some (dayTotal rule (settings.clock.day (seconds record.observedAt)) rows)) :
    TotalsBy settings rule (rows ++ [record]) := by
  intro earlier other later hsplit hother
  rcases append_singleton_eq_split hsplit with ⟨rfl, -, rfl⟩ | ⟨before, -, hrows⟩
  · exact hrecord hother
  · exact htotals earlier other before hrows hother

theorem TotalsBy.append {rule : Option String → ℕ → ℤ} {rows records : List SignalRecord}
    (htotals : TotalsBy settings rule rows)
    (hrecords : ∀ record ∈ records, record.signalType ≠ "food_intake_per_day") :
    TotalsBy settings rule (rows ++ records) := by
  induction records using List.reverseRecOn with
  | nil => simpa using htotals
  | append_singleton records record ih =>
      rw [← List.append_assoc]
      apply TotalsBy.append_singleton
        (ih fun record hrecord => hrecords record (List.mem_append_left _ hrecord))
      intro hdaily
      exact absurd hdaily (hrecords record (by simp))

/-- One tick. -/
theorem TotalsBy.tick (hclock : settings.clock = .fixed offset) (hdog : settings.dogId ≠ "")
    (hids : (settings.mealSchedules.map MealSchedule.mealId).Nodup) {calls : List Call}
    {node : Node}
    (hrows : RowsInOrder settings offset calls node)
    (htotals : TotalsBy settings (byStart offset) node.emitted) {now : ℕ}
    (hclockOrder : ∀ last ∈ (ticks calls).getLast?, last ≤ now) {previousMealsSum : ℚ}
    (hcall : EndsOnStartDay offset node (.tick now previousMealsSum))
    (hanswered : Answered settings node (.tick now previousMealsSum)) :
    TotalsBy settings (byStart offset)
      (step settings node (.tick now previousMealsSum)).emitted := by
  rw [step, DogWellbeingMonitor.call]
  rcases tick_cases settings now previousMealsSum node.monitor with ⟨-, htick⟩ | ⟨-, htick⟩ |
    ⟨hends, htick⟩ | ⟨-, -, -, htick⟩ <;> rw [htick]
  · exact htotals.append (by simp)
  · exact htotals.append (by simp)
  · dsimp only
    rw [verdict]
    by_cases heaten : 5 < node.monitor.intake
    · have htotal :=
        total_of_answered hclock hdog hids hrows hclockOrder hends heaten hcall hanswered
      rw [if_pos heaten, List.append_cons]
      refine (htotals.append ?_).append_singleton fun _ => ?_
      · simp [perMealRecord]
      · rw [hclock]
        exact congrArg some htotal
    · rw [if_neg heaten]
      exact htotals.append (by simp [mealSkippedRecord])
  · exact htotals.append (by simp)

/-- **Daily totals add up by the start of the meals.**  In every run with answered
queries in which the clock does not go back and every meal that is eaten ends on the
local day on which it started, each daily record is the total so far. -/
theorem totalsBy_of_endsOnStartDay (hclock : settings.clock = .fixed offset)
    (hwell : WellFormed settings.mealSchedules) (hdog : settings.dogId ≠ "")
    (hids : (settings.mealSchedules.map MealSchedule.mealId).Nodup) {calls : List Call}
    (hforward : (ticks calls).IsChain (· ≤ ·))
    (hanswered : AllSteps (step settings) (Answered settings) Node.construct calls)
    (hends : AllSteps (step settings) (EndsOnStartDay offset) Node.construct calls) :
    TotalsBy settings (byStart offset) (Node.after settings calls).emitted := by
  suffices hrun : RowsInOrder settings offset calls (Node.after settings calls) ∧
      TotalsBy settings (byStart offset) (Node.after settings calls).emitted from hrun.2
  induction calls using List.reverseRecOn with
  | nil =>
      refine ⟨⟨nofun, nofun, List.Pairwise.nil, fun hset => absurd rfl hset, nofun⟩, ?_⟩
      intro earlier record later hsplit
      exact absurd hsplit (by simp [Node.after, Node.construct])
  | append_singleton calls call ih =>
      obtain ⟨hansweredBefore, hansweredCall, -⟩ := AllSteps.append_iff.mp hanswered
      obtain ⟨hendsBefore, hendsCall, -⟩ := AllSteps.append_iff.mp hends
      rw [ticks_append_singleton] at hforward
      obtain ⟨hforwardBefore, -, hlast⟩ := List.isChain_append.mp hforward
      obtain ⟨hrows, htotals⟩ := ih hforwardBefore hansweredBefore hendsBefore
      rw [after_append_singleton]
      have hother : call.tickTime? = none →
          RowsInOrder settings offset (calls ++ [call])
            (step settings (Node.after settings calls) call) ∧
          TotalsBy settings (byStart offset)
            (step settings (Node.after settings calls) call).emitted := by
        intro htick
        obtain ⟨hsame, htypes⟩ :=
          sameMeal_of_not_tick settings (Node.after settings calls).monitor htick
        have hticks : ticks (calls ++ [call]) = ticks calls := by
          rw [ticks_append_singleton, htick, Option.toList_none, List.append_nil]
        refine ⟨hrows.of_sameMeal hsame (mealRows_of_not_mealTypes htypes) hticks,
          htotals.append fun record hrecord hdaily => htypes record hrecord ?_⟩
        rw [hdaily]
        decide
      cases call with
      | tick now previousMealsSum =>
          have hclockOrder : ∀ last ∈ (ticks calls).getLast?, last ≤ now :=
            fun last hmem => hlast last hmem now rfl
          exact ⟨hrows.tick hclock hwell hendsCall.1 hclockOrder previousMealsSum,
            htotals.tick hclock hdog hids hrows hclockOrder hendsCall hansweredCall⟩
      | bowlWeight bowlId weight now => exact hother rfl
      | waterLevel level now => exact hother rfl

end

/-! ## A run of each kind -/

/-- Two meals, the first from `start` to `finish`, the second from 02:00 to 03:00. -/
def nightMeals (start finish : ℕ) : Settings where
  deviceId := "dev"
  dogId := "dog"
  mealSchedules :=
    [⟨clockText start, clockText finish, "first", "bowl_1"⟩,
      ⟨clockText (7200 : ℕ), clockText (10800 : ℕ), "second", "bowl_1"⟩]
  aggregationWindow := "24h"
  clock := .fixed 0
  startLocals := ⟨0, 0, 0⟩
  endLocals := ⟨0, 0, 0⟩

/-- 20 g of the first meal are eaten, from `start` to `finish`, and 30 g of the second,
which starts at `start'`; the query finds `previousMealsSum`. -/
def twoMealsEaten (start finish start' : ℕ) (previousMealsSum : ℚ) : List Call :=
  [.tick (start - 1000) 0, .bowlWeight "bowl_1" 100 (start - 500), .tick start 0,
    .bowlWeight "bowl_1" 80 (start + 500), .tick finish 0, .tick start' 0,
    .bowlWeight "bowl_1" 50 (start' + 500), .tick (start' + 3600000) previousMealsSum]

/-- A query that selects rows with distinct ids returns their sum. -/
theorem dailyFoodIntake_of_nodup {dogId mealId : String} {startOfDay : ℕ} {rows : List SignalRecord}
    {answer : ℚ} (hnodup : ((countedRows dogId startOfDay mealId rows).map fun row =>
      mealIdOf row.metadata).Nodup ∧ answer = (Sql.sum ((countedRows dogId startOfDay mealId rows).map
        SignalRecord.signalValueNumeric)).getD 0) :
    DailyFoodIntake dogId startOfDay mealId rows answer :=
  ⟨_, Sql.isDistinctOn_self hnodup.1, hnodup.2⟩

/-- Meals at 00:30 and at 02:00 of one day. -/
theorem totalsBy_one_day : TotalsBy (nightMeals 1800 3600) (byStart 0)
    (Node.after (nightMeals 1800 3600) (twoMealsEaten 1800000 3600000 7200000 20)).emitted := by
  refine totalsBy_of_endsOnStartDay rfl ?_ (by decide) (by decide) (by decide +kernel) ?_
    (by decide +kernel)
  · intro sched hsched
    rcases List.mem_pair.mp hsched with rfl | rfl
    · exact ⟨⟨1800, by decide, rfl⟩, ⟨3600, by decide, rfl⟩⟩
    · exact ⟨⟨7200, by decide, rfl⟩, ⟨10800, by decide, rfl⟩⟩
  · refine ⟨?_, trivial, ?_, trivial, ?_, ?_, trivial, ?_, trivial⟩
    · exact fun hends => absurd hends (by decide +kernel)
    · exact fun hends => absurd hends (by decide +kernel)
    · exact fun _ _ => dailyFoodIntake_of_nodup (by decide +kernel)
    · exact fun hends => absurd hends (by decide +kernel)
    · exact fun _ _ => dailyFoodIntake_of_nodup (by decide +kernel)

/-- The meals of some rows, with their intakes. -/
def intakes (rows : List SignalRecord) : List (Option String × ℕ × ℚ) :=
  (mealRows rows).map fun row =>
    (mealIdOf row.metadata, row.observedAt, row.signalValueNumeric.getD 0)

theorem dayTotal_eq (rule : Option String → ℕ → ℤ) (day : ℤ) (rows : List SignalRecord) :
    dayTotal rule day rows =
      (((intakes rows).filter fun meal => decide (rule meal.1 meal.2.1 = day)).map fun meal =>
        meal.2.2).sum := by
  unfold dayTotal intakes mealRows
  rw [List.filter_map, List.map_map, List.filter_filter]
  simp only [Bool.and_comm]
  rfl

/-- The daily record at a place of the list. -/
theorem TotalsBy.total_eq {settings : Settings} {rule : Option String → ℕ → ℤ}
    {rows : List SignalRecord} (htotals : TotalsBy settings rule rows) (i : ℕ) {value : ℚ} {day : ℤ}
    (hdaily : (rows[i]?.map fun row => (row.signalType, row.signalValueNumeric,
      settings.clock.day (seconds row.observedAt))) = some ("food_intake_per_day", some value, day)) :
    value = dayTotal rule day (rows.take i) := by
  obtain ⟨row, hrow, hfields⟩ := Option.map_eq_some_iff.mp hdaily
  obtain ⟨htype, hvalue, hday⟩ : row.signalType = "food_intake_per_day" ∧
      row.signalValueNumeric = some value ∧ settings.clock.day (seconds row.observedAt) = day := by
    simpa using hfields
  obtain ⟨hi, rfl⟩ := List.getElem?_eq_some_iff.mp hrow
  have hsplit : rows = rows.take i ++ rows[i] :: rows.drop (i + 1) := by
    rw [← List.drop_eq_getElem_cons hi, List.take_append_drop]
  have htotal := htotals (rows.take i) rows[i] (rows.drop (i + 1)) hsplit htype
  rw [hvalue, hday] at htotal
  exact Option.some.inj htotal

/-- The first meal is eaten from 23:00 to 01:00, and no rule adds it to both totals of
the day on which it ends. -/
theorem not_totalsBy_midnight : Orderly 0 (nightMeals 82800 3600).mealSchedules ∧
    AllSteps (step (nightMeals 82800 3600)) (Answered (nightMeals 82800 3600)) Node.construct
        (twoMealsEaten 82800000 90000000 93600000 0) ∧
      ∀ rule, ¬ TotalsBy (nightMeals 82800 3600) rule (Node.after (nightMeals 82800 3600)
        (twoMealsEaten 82800000 90000000 93600000 0)).emitted := by
  refine ⟨⟨?_, by decide +kernel, ?_⟩, ?_, ?_⟩
  · intro sched hsched
    rcases List.mem_pair.mp hsched with rfl | rfl
    · exact ⟨⟨82800, by decide, rfl⟩, ⟨3600, by decide, rfl⟩⟩
    · exact ⟨⟨7200, by decide, rfl⟩, ⟨10800, by decide, rfl⟩⟩
  · refine List.pairwise_pair.mpr fun startMs startMs' hfirst hsecond => ?_
    obtain ⟨hwhole, htime⟩ := hfirst
    obtain ⟨hwhole', htime'⟩ := hsecond
    unfold MealSchedule.lengthMs
    rw [secondsOf_clockText (by decide)] at htime htime' ⊢
    rw [secondsOf_clockText (by decide), secondsOf_clockText (by decide),
      secondsOf_clockText (by decide)]
    unfold seconds at htime htime'
    omega
  · refine ⟨?_, trivial, ?_, trivial, ?_, ?_, trivial, ?_, trivial⟩
    · exact fun hends => absurd hends (by decide +kernel)
    · exact fun hends => absurd hends (by decide +kernel)
    · exact fun _ _ => dailyFoodIntake_of_nodup (by decide +kernel)
    · exact fun hends => absurd hends (by decide +kernel)
    · exact fun _ _ => dailyFoodIntake_of_nodup (by decide +kernel)
  · intro rule htotals
    have hfirst : 20 = dayTotal rule 1 _ := htotals.total_eq 1 (by decide +kernel)
    have hsecond : 30 = dayTotal rule 1 _ := htotals.total_eq 3 (by decide +kernel)
    have hintakes : intakes ((Node.after (nightMeals 82800 3600)
        (twoMealsEaten 82800000 90000000 93600000 0)).emitted.take 1) =
          [(some "first19700101", 82800000, 20)] := by
      decide +kernel
    have hintakes' : intakes ((Node.after (nightMeals 82800 3600)
        (twoMealsEaten 82800000 90000000 93600000 0)).emitted.take 3) =
          [(some "first19700101", 82800000, 20), (some "second19700102", 93600000, 30)] := by
      decide +kernel
    rw [dayTotal_eq, hintakes] at hfirst
    rw [dayTotal_eq, hintakes'] at hsecond
    by_cases hmeal : rule (some "first19700101") 82800000 = 1
    · -- the second record leaves the first meal out
      by_cases hmeal' : rule (some "second19700102") 93600000 = 1 <;>
        norm_num [hmeal, hmeal'] at hsecond
    · simp [hmeal] at hfirst

end OroEdge.Wellbeing
