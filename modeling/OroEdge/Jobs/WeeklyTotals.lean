import OroEdge.Jobs.Weekly
import OroEdge.Lib.Slices

/-!
# The totals of a week

The weekly generator adds up seven payloads, each of which was written out as JSON from the
rows of one day.  In a zone with a fixed offset the days cut the week into slices
(`sum_slices`), so that the totals are those of the rows of the week themselves
(`weeklyTotals_run`).  The existence checks turn every further run of either generator into a
run that does nothing.

The figures of a list of rows are sums over the rows (`direct_eq_sum`), and a sum over the rows
of a week is the sum of the sums over its days; the remaining work is to show that the code
computes just these.  A daily payload, read back, has the figures of its rows
(`totals_dailySummary`): it may lack a key, and then the figure is zero, or has the number that
was written.  The loop adds the figures of seven payloads, one for each date
(`dates_fetchWeek_perm`), and no figure can throw, since what is in a payload is a number
(`exists_presentDouble`).

The rows of a date do not change once it is generated (`Extended`), and further runs find what
they would write (`summaries_run_of_again`).
-/

namespace OroEdge.Jobs

open OroEdge.Lib

/-! ## The figures -/

/-- The figures that are added up: of a day, of a week, or of a single row. -/
@[ext]
structure Totals where
  foodG : ℚ
  treatsG : ℚ
  meals : ℤ
  treats : ℤ
  highSeverity : ℤ
  overdue : ℤ
  offline : ℤ
  deriving DecidableEq, Repr

namespace Totals

instance : Zero Totals := ⟨⟨0, 0, 0, 0, 0, 0, 0⟩⟩

instance : Add Totals :=
  ⟨fun a b => ⟨a.foodG + b.foodG, a.treatsG + b.treatsG, a.meals + b.meals, a.treats + b.treats,
    a.highSeverity + b.highSeverity, a.overdue + b.overdue, a.offline + b.offline⟩⟩

instance : AddCommMonoid Totals where
  add_assoc a b c := by ext <;> exact add_assoc _ _ _
  zero_add a := by ext <;> exact zero_add _
  add_zero a := by ext <;> exact add_zero _
  add_comm a b := by ext <;> exact add_comm _ _
  nsmul := nsmulRec

/-- What a signal counts for. -/
def ofSignal (row : SignalRow) : Totals where
  foodG := if row.signalId = some 117 then row.valueNumeric.getD 0 else 0
  treatsG := if row.signalId = some 125 then row.valueNumeric.getD 0 else 0
  meals := if row.signalId = some 117 then 1 else 0
  treats := if row.signalId = some 125 then 1 else 0
  highSeverity := 0
  overdue := 0
  offline := 0

/-- What an event counts for. -/
def ofEvent (row : EventRow) : Totals where
  foodG := 0
  treatsG := 0
  meals := 0
  treats := 0
  highSeverity := if row.severity.getD "" = "high" ∨ row.severity.getD "" = "critical" then 1 else 0
  overdue := if row.eventType = "feeding_overdue" then 1 else 0
  offline := if row.eventType = "device_offline" then 1 else 0

/-- The sums and counts over signals and events. -/
def direct (signals : List SignalRow) (events : List EventRow) : Totals where
  foodG := (Sql.sum (numericOf 117 signals)).getD 0
  treatsG := (Sql.sum (numericOf 125 signals)).getD 0
  meals := countOf 117 signals
  treats := countOf 125 signals
  highSeverity := events.countP fun row =>
    row.severity.getD "" = "high" || row.severity.getD "" = "critical"
  overdue := events.countP fun row => row.eventType = "feeding_overdue"
  offline := events.countP fun row => row.eventType = "device_offline"

theorem sum_numericOf_cons (n : ℤ) (row : SignalRow) (rest : List SignalRow) :
    (Sql.sum (numericOf n (row :: rest))).getD 0 =
      (if row.signalId = some n then row.valueNumeric.getD 0 else 0) +
        (Sql.sum (numericOf n rest)).getD 0 := by
  rw [Sql.sum_getD, Sql.sum_getD, numericOf, numericOf, List.map_cons, List.map_cons,
    List.sum_cons, apply_ite (fun value : Option ℚ => value.getD 0)]
  rfl

theorem countOf_cons (n : ℤ) (row : SignalRow) (rest : List SignalRow) :
    countOf n (row :: rest) = (if row.signalId = some n then 1 else 0) + countOf n rest := by
  unfold countOf Sql.count
  rw [List.map_cons]
  split
  · rw [List.reduceOption_cons_of_some, List.length_cons, add_comm]
  · rw [List.reduceOption_cons_of_none, zero_add]

theorem direct_signal_cons (row : SignalRow) (signals : List SignalRow) (events : List EventRow) :
    direct (row :: signals) events = ofSignal row + direct signals events := by
  ext
  · exact sum_numericOf_cons 117 row signals
  · exact sum_numericOf_cons 125 row signals
  · show (countOf 117 (row :: signals) : ℤ) = _
    rw [countOf_cons]
    push_cast
    rfl
  · show (countOf 125 (row :: signals) : ℤ) = _
    rw [countOf_cons]
    push_cast
    rfl
  · exact (zero_add _).symm
  · exact (zero_add _).symm
  · exact (zero_add _).symm

theorem countP_cons_cast (p : EventRow → Bool) (row : EventRow) (rest : List EventRow) :
    ((row :: rest).countP p : ℤ) = (if p row = true then 1 else 0) + rest.countP p := by
  rw [List.countP_cons, add_comm]
  push_cast
  rfl

theorem direct_event_cons (row : EventRow) (events : List EventRow) :
    direct [] (row :: events) = ofEvent row + direct [] events := by
  ext
  · exact (zero_add _).symm
  · exact (zero_add _).symm
  · exact (zero_add _).symm
  · exact (zero_add _).symm
  · refine (countP_cons_cast _ row events).trans (congrArg (· + _) ?_)
    simp only [ofEvent, Bool.or_eq_true, decide_eq_true_eq]
  · refine (countP_cons_cast _ row events).trans (congrArg (· + _) ?_)
    simp only [ofEvent, decide_eq_true_eq]
  · refine (countP_cons_cast _ row events).trans (congrArg (· + _) ?_)
    simp only [ofEvent, decide_eq_true_eq]

/-- The sums and counts, row by row. -/
theorem direct_eq_sum (signals : List SignalRow) (events : List EventRow) :
    direct signals events = (signals.map ofSignal).sum + (events.map ofEvent).sum := by
  induction signals with
  | nil =>
      induction events with
      | nil => exact (add_zero (0 : Totals)).symm
      | cons row rest ih =>
          rw [direct_event_cons, ih, List.map_cons, List.sum_cons, List.map_nil, List.sum_nil,
            zero_add, zero_add]
  | cons row rest ih => rw [direct_signal_cons, ih, List.map_cons, List.sum_cons, add_assoc]

end Totals

/-! ## A daily payload, read back -/

/-- The figures of a daily summary. -/
def DailyPayload.totals (payload : DailyPayload) : Totals where
  foodG := (payload.signals.map SignalAggregates.foodServedG).getD 0
  treatsG := (payload.signals.map SignalAggregates.treatsG).getD 0
  meals := (payload.signals.map fun row => (row.mealCount : ℤ)).getD 0
  treats := (payload.signals.map fun row => (row.treatCount : ℤ)).getD 0
  highSeverity := payload.events.highSeverityEventCount
  overdue := payload.events.feedingOverdueCount
  offline := payload.events.deviceOfflineCount

/-- The keys of a daily payload, in the order of the assignments. -/
def signalKeys : List String :=
  ["temperature_avg_c", "temperature_min_c", "temperature_max_c", "humidity_avg_pct",
    "light_avg_lux", "light_min_lux", "light_max_lux", "battery_min_pct", "food_served_g",
    "meal_count", "treats_dispensed_g", "treat_count", "heartbeat_count"]

def eventKeys : List String :=
  ["high_severity_event_count", "feeding_overdue_count", "device_offline_count",
    "stale_sensor_count", "supply_alert_count"]

theorem keys_nullable_sublist (key : String) (value : Option ℚ) :
    ((nullable key value).map Prod.fst).Sublist [key] := by
  cases value with
  | none => exact List.nil_sublist _
  | some q => exact List.Sublist.refl _

theorem keys_signal_updates_sublist (row : SignalAggregates) :
    (row.updates.map Prod.fst).Sublist signalKeys := by
  simp only [SignalAggregates.updates, List.map_append]
  exact (((((((((keys_nullable_sublist _ _).append (keys_nullable_sublist _ _)).append
    (keys_nullable_sublist _ _)).append (keys_nullable_sublist _ _)).append
    (keys_nullable_sublist _ _)).append (keys_nullable_sublist _ _)).append
    (keys_nullable_sublist _ _)).append (keys_nullable_sublist _ _)).append
    (List.Sublist.refl _))

theorem keys_updates_sublist (payload : DailyPayload) :
    (payload.updates.map Prod.fst).Sublist (signalKeys ++ eventKeys) := by
  rw [DailyPayload.updates, List.map_append]
  refine List.Sublist.append ?_ (List.Sublist.refl _)
  cases payload.signals with
  | none => exact List.nil_sublist _
  | some row => exact keys_signal_updates_sublist row

theorem nodup_keys_updates (payload : DailyPayload) : (payload.updates.map Prod.fst).Nodup := by
  have hnodup : (signalKeys ++ eventKeys).Nodup := by decide
  exact (keys_updates_sublist payload).nodup hnodup

theorem value_json {α : Type} (payload : DailyPayload) (read : Json → Option α) (key : String)
    (fallback : α) : payload.json.value read key fallback =
      match payload.json.get? key with
      | some inner => read inner
      | none => some fallback :=
  if_pos rfl

variable {key : String} {payload : DailyPayload}

theorem get?_event {inner : Json} (hmem : (key, inner) ∈ payload.events.updates) :
    payload.json.get? key = some inner :=
  Json.get?_ofFields_of_mem (nodup_keys_updates payload) (List.mem_append_right _ hmem)

theorem get?_signal {row : SignalAggregates} (hrow : payload.signals = some row) {inner : Json}
    (hmem : (key, inner) ∈ row.updates) : payload.json.get? key = some inner := by
  refine Json.get?_ofFields_of_mem (nodup_keys_updates payload) (List.mem_append_left _ ?_)
  rw [hrow]
  exact hmem

/-- The keys of the signals are missing when the aggregate query failed. -/
theorem get?_eq_none (hnone : payload.signals = none) (hkey : key ∉ eventKeys) :
    payload.json.get? key = none := by
  refine Json.get?_ofFields_of_notMem ?_
  rw [DailyPayload.updates, hnone]
  exact hkey

/-- An aggregate reads as it was written, and as the fallback when the query failed. -/
theorem value_signal {α : Type} {read : Json → Option α} (figure : SignalAggregates → Json)
    (amount : SignalAggregates → α) (hkey : key ∉ eventKeys)
    (hmem : ∀ row : SignalAggregates, (key, figure row) ∈ row.updates)
    (hread : ∀ row, read (figure row) = some (amount row)) (fallback : α) :
    payload.json.value read key fallback =
      some ((payload.signals.map amount).getD fallback) := by
  rw [value_json]
  cases hsignals : payload.signals with
  | none =>
      rw [get?_eq_none hsignals hkey]
      rfl
  | some row =>
      rw [get?_signal hsignals (hmem row)]
      exact hread row

theorem value_event {n : ℕ} (hmem : (key, Json.int n) ∈ payload.events.updates) (fallback : ℤ) :
    payload.json.value asCount key fallback = some (n : ℤ) := by
  rw [value_json, get?_event hmem]
  rfl

theorem asDouble_of_mem_nullable {value : Option ℚ} {update : String × Json}
    (hmem : update ∈ nullable key value) : ∃ q, update.2.asDouble = some q := by
  obtain ⟨q, -, rfl⟩ := List.mem_map.mp hmem
  exact ⟨q, rfl⟩

theorem asDouble_signal_updates (row : SignalAggregates) :
    ∀ update ∈ row.updates, ∃ q, update.2.asDouble = some q := by
  unfold SignalAggregates.updates
  simp only [List.forall_mem_append, List.forall_mem_cons, and_assoc]
  exact ⟨fun _ => asDouble_of_mem_nullable, fun _ => asDouble_of_mem_nullable,
    fun _ => asDouble_of_mem_nullable, fun _ => asDouble_of_mem_nullable,
    fun _ => asDouble_of_mem_nullable, fun _ => asDouble_of_mem_nullable,
    fun _ => asDouble_of_mem_nullable, fun _ => asDouble_of_mem_nullable,
    ⟨_, rfl⟩, ⟨_, rfl⟩, ⟨_, rfl⟩, ⟨_, rfl⟩, ⟨_, rfl⟩, List.forall_mem_nil _⟩

theorem asDouble_updates (payload : DailyPayload) :
    ∀ update ∈ payload.updates, ∃ q, update.2.asDouble = some q := by
  refine List.forall_mem_append.mpr ⟨?_, ?_⟩
  · cases payload.signals with
    | none => exact List.forall_mem_nil _
    | some row => exact asDouble_signal_updates row
  · unfold EventCounts.updates
    simp only [List.forall_mem_cons]
    exact ⟨⟨_, rfl⟩, ⟨_, rfl⟩, ⟨_, rfl⟩, ⟨_, rfl⟩, ⟨_, rfl⟩, List.forall_mem_nil _⟩

theorem presentDouble_of_get? {p inner : Json} {q : ℚ} (hget : p.get? key = some inner)
    (hq : inner.asDouble = some q) : presentDouble p key = some q := by
  unfold presentDouble
  rw [hget]
  cases inner with
  | null => cases hq
  | _ => exact hq

/-- What is in the payload is a number. -/
theorem exists_presentDouble (payload : DailyPayload) (key : String) :
    ∃ q, presentDouble payload.json key = some q := by
  by_cases hkey : key ∈ payload.updates.map Prod.fst
  · obtain ⟨update, hmem, rfl⟩ := List.mem_map.mp hkey
    have hget : payload.json.get? update.1 = some update.2 :=
      Json.get?_ofFields_of_mem (nodup_keys_updates payload) hmem
    obtain ⟨q, hq⟩ := asDouble_updates payload update hmem
    exact ⟨q, presentDouble_of_get? hget hq⟩
  · have hget : payload.json.get? key = none := Json.get?_ofFields_of_notMem hkey
    unfold presentDouble
    rw [hget]
    exact ⟨0, rfl⟩

def WeeklySums.totals (sums : WeeklySums) : Totals where
  foodG := sums.totalFoodG
  treatsG := sums.totalTreatsG
  meals := sums.totalMeals
  treats := sums.totalTreats
  highSeverity := sums.totalHighEv
  overdue := sums.totalOverdue
  offline := sums.totalOffline

/-- A turn of the loop over a payload of the daily generator does not throw. -/
theorem exists_addDay (sums : WeeklySums) (payload : DailyPayload) :
    ∃ sums', addDay sums (some payload.json) = some sums' ∧
      sums'.totals = sums.totals + payload.totals := by
  obtain ⟨temp, htemp⟩ := exists_presentDouble payload "temperature_avg_c"
  obtain ⟨battery, hbattery⟩ := exists_presentDouble payload "battery_min_pct"
  have hfood : payload.json.value Json.asDouble "food_served_g" 0 = some payload.totals.foodG :=
    value_signal (fun row => .float row.foodServedG) (fun row => row.foodServedG) (by decide)
      (fun row => by simp [SignalAggregates.updates]) (fun row => rfl) 0
  have htreats : payload.json.value Json.asDouble "treats_dispensed_g" 0 =
      some payload.totals.treatsG :=
    value_signal (fun row => .float row.treatsG) (fun row => row.treatsG) (by decide)
      (fun row => by simp [SignalAggregates.updates]) (fun row => rfl) 0
  have hmeals : payload.json.value asCount "meal_count" 0 = some payload.totals.meals :=
    value_signal (fun row => .int row.mealCount) (fun row => (row.mealCount : ℤ)) (by decide)
      (fun row => by simp [SignalAggregates.updates]) (fun row => rfl) 0
  have htreatCount : payload.json.value asCount "treat_count" 0 = some payload.totals.treats :=
    value_signal (fun row => .int row.treatCount) (fun row => (row.treatCount : ℤ)) (by decide)
      (fun row => by simp [SignalAggregates.updates]) (fun row => rfl) 0
  have hhigh : payload.json.value asCount "high_severity_event_count" 0 =
      some payload.totals.highSeverity := value_event (by simp [EventCounts.updates]) 0
  have hoverdue : payload.json.value asCount "feeding_overdue_count" 0 =
      some payload.totals.overdue := value_event (by simp [EventCounts.updates]) 0
  have hoffline : payload.json.value asCount "device_offline_count" 0 =
      some payload.totals.offline := value_event (by simp [EventCounts.updates]) 0
  have hadded : addDay sums (some payload.json) = some
      { daysWithData := sums.daysWithData + 1
        totalFoodG := sums.totalFoodG + payload.totals.foodG
        totalTreatsG := sums.totalTreatsG + payload.totals.treatsG
        totalMeals := sums.totalMeals + payload.totals.meals
        totalTreats := sums.totalTreats + payload.totals.treats
        totalHighEv := sums.totalHighEv + payload.totals.highSeverity
        totalOverdue := sums.totalOverdue + payload.totals.overdue
        totalOffline := sums.totalOffline + payload.totals.offline
        sumTemp := sums.sumTemp + temp
        sumBattery := sums.sumBattery + battery } := by
    simp only [addDay, hfood, htreats, hmeals, htreatCount, hhigh, hoverdue, hoffline, htemp,
      hbattery, Option.bind_eq_bind, Option.bind_some]
    rfl
  exact ⟨_, hadded, rfl⟩

/-- The loop over payloads of the daily generator. -/
theorem exists_addDays (sums : WeeklySums) (payloads : List DailyPayload) :
    ∃ total, addDays sums (payloads.map fun payload => some payload.json) = some total ∧
      total.totals = sums.totals + (payloads.map DailyPayload.totals).sum := by
  induction payloads generalizing sums with
  | nil => exact ⟨sums, rfl, (add_zero _).symm⟩
  | cons payload rest ih =>
      obtain ⟨sums', hday, hsums⟩ := exists_addDay sums payload
      obtain ⟨total, hrest, htotal⟩ := ih sums'
      refine ⟨total, ?_, ?_⟩
      · rw [List.map_cons, addDays, hday]
        exact hrest
      · rw [htotal, hsums, List.map_cons, List.sum_cons, add_assoc]

/-- The totals that a weekly payload reports. -/
structure Reports (payload : Json) (totals : Totals) : Prop where
  foodG : payload.get? "food_served_g_weekly_total" = some (.float totals.foodG)
  treatsG : payload.get? "treats_dispensed_g_weekly_total" = some (.float totals.treatsG)
  meals : payload.get? "total_meal_count" = some (.int totals.meals)
  treats : payload.get? "total_treat_count" = some (.int totals.treats)
  highSeverity : payload.get? "total_high_severity_events" = some (.int totals.highSeverity)
  overdue : payload.get? "total_feeding_overdue_count" = some (.int totals.overdue)
  offline : payload.get? "total_device_offline_count" = some (.int totals.offline)

theorem nodup_keys_weekly (dailyCount : ℕ) (sums : WeeklySums) :
    ((weeklyUpdates dailyCount sums).map Prod.fst).Nodup := by
  unfold weeklyUpdates
  split <;> simp

theorem reports_weeklyPayload (dailyCount : ℕ) (sums : WeeklySums) :
    Reports (weeklyPayload dailyCount sums) sums.totals := by
  constructor <;>
    exact Json.get?_ofFields_of_mem (nodup_keys_weekly dailyCount sums)
      (List.mem_append_left _ (by simp [WeeklySums.totals]))

/-! ## The summary table over a run -/

namespace SummaryTable

/-- All rows are still there, unchanged and in their places. -/
structure Extended (t t' : SummaryTable) : Prop where
  daily : t.daily <+: t'.daily
  weekly : t.weekly <+: t'.weekly

theorem Extended.refl (t : SummaryTable) : t.Extended t :=
  ⟨List.prefix_refl _, List.prefix_refl _⟩

theorem Extended.trans {t t' t'' : SummaryTable} (hfirst : t.Extended t')
    (hsecond : t'.Extended t'') : t.Extended t'' :=
  ⟨hfirst.daily.trans hsecond.daily, hfirst.weekly.trans hsecond.weekly⟩

theorem Extended.hasDaily {t t' : SummaryTable} (hextended : t.Extended t') {deviceId : String}
    {date : ℤ} (hfound : t.hasDaily deviceId date = true) : t'.hasDaily deviceId date = true := by
  obtain ⟨row, hrow, hkey⟩ := hasDaily_iff.mp hfound
  exact hasDaily_iff.mpr ⟨row, hextended.daily.subset hrow, hkey⟩

theorem extended_insertDaily (t : SummaryTable) {row : SummaryRow}
    (htype : row.summaryType = "daily") : t.Extended (t.insertDaily row htype) := by
  unfold insertDaily
  split
  · exact Extended.refl t
  · exact ⟨List.prefix_append _ _, List.prefix_refl _⟩

theorem extended_insertWeekly (t : SummaryTable) (row : WeeklyRow) :
    t.Extended (t.insertWeekly row) := by
  unfold insertWeekly
  split
  · exact Extended.refl t
  · exact ⟨List.prefix_refl _, List.prefix_append _ _⟩

end SummaryTable

section Generators

variable {deviceId : String} {db : SummaryDb}

theorem daily_of_hasDaily {w : Window} (hfound : db.summaries.hasDaily deviceId w.periodDate) :
    dailyPetSummaryGenerator deviceId w db = db := by
  unfold dailyPetSummaryGenerator
  rw [if_pos hfound, ite_self]

theorem weekly_of_hasWeekly {w : WeeklyWindow}
    (hfound : db.summaries.hasWeekly deviceId w.weekStartDate) :
    weeklyPetSummaryGenerator deviceId w db = db := by
  unfold weeklyPetSummaryGenerator
  rw [if_pos hfound, ite_self]

/-- A run for a date that has no summary yet writes it. -/
theorem mem_dailyPetSummaryGenerator {w : Window} (hdevice : deviceId ≠ "")
    (hnew : db.summaries.hasDaily deviceId w.periodDate = false) :
    dailySummary deviceId w (some (fetchDailySignals deviceId w db.signals))
      (fetchDailyEvents deviceId w db.events) ∈
        (dailyPetSummaryGenerator deviceId w db).summaries.daily := by
  unfold dailyPetSummaryGenerator
  rw [if_neg hdevice, if_neg (by rw [hnew]; exact Bool.false_ne_true)]
  rw [SummaryTable.daily_insertDaily _ hnew]
  exact List.mem_append_right _ (List.mem_singleton_self _)

/-- A run for a week that has no summary yet writes it, if there are daily summaries. -/
theorem weekly_weeklyPetSummaryGenerator {w : WeeklyWindow} {sums : WeeklySums}
    (hdevice : deviceId ≠ "") (hnew : db.summaries.hasWeekly deviceId w.weekStartDate = false)
    (hsome : (db.summaries.fetchWeek deviceId w.weekStartDate w.weekEndDate).length ≠ 0)
    (hsums : weekSums deviceId w db.summaries = some sums) :
    (weeklyPetSummaryGenerator deviceId w db).summaries.weekly =
      db.summaries.weekly ++ [⟨deviceId, w.weekStartUtc, w.weekEndUtc, w.weekStartDate,
        weeklyPayload (db.summaries.fetchWeek deviceId w.weekStartDate w.weekEndDate).length
          sums⟩] := by
  unfold weeklyPetSummaryGenerator
  rw [if_neg hdevice, if_neg (by rw [hnew]; exact Bool.false_ne_true), if_neg hsome, hsums]
  exact SummaryTable.weekly_insertWeekly hnew

theorem rows_daily (w : Window) : (dailyPetSummaryGenerator deviceId w db).signals = db.signals ∧
    (dailyPetSummaryGenerator deviceId w db).events = db.events := by
  unfold dailyPetSummaryGenerator
  split_ifs <;> exact ⟨rfl, rfl⟩

theorem rows_weekly (w : WeeklyWindow) :
    (weeklyPetSummaryGenerator deviceId w db).signals = db.signals ∧
      (weeklyPetSummaryGenerator deviceId w db).events = db.events := by
  unfold weeklyPetSummaryGenerator
  split_ifs
  · exact ⟨rfl, rfl⟩
  · exact ⟨rfl, rfl⟩
  · exact ⟨rfl, rfl⟩
  · split <;> exact ⟨rfl, rfl⟩

theorem extended_daily (w : Window) :
    db.summaries.Extended (dailyPetSummaryGenerator deviceId w db).summaries := by
  unfold dailyPetSummaryGenerator
  split
  · exact .refl _
  · split
    · exact .refl _
    · exact SummaryTable.extended_insertDaily _ (summaryType_dailySummary _ _ _ _)

theorem extended_weekly (w : WeeklyWindow) :
    db.summaries.Extended (weeklyPetSummaryGenerator deviceId w db).summaries := by
  unfold weeklyPetSummaryGenerator
  split
  · exact .refl _
  · split
    · exact .refl _
    · split
      · exact .refl _
      · split
        · exact .refl _
        · exact SummaryTable.extended_insertWeekly _ _

end Generators

namespace SummaryDb

/-- No action changes a summary row or deletes one. -/
theorem extended_step (db : SummaryDb) (action : Action) :
    db.summaries.Extended (step db action).summaries := by
  cases action with
  | insertSignal row => exact .refl _
  | insertEvent row => exact .refl _
  | deleteSignals keep => exact .refl _
  | deleteEvents keep => exact .refl _
  | daily deviceId zone runDate now => exact extended_daily _
  | weekly deviceId zone now => exact extended_weekly _

theorem extended_run (db : SummaryDb) (actions : List Action) :
    db.summaries.Extended (run step db actions).summaries := by
  have hstep : ∀ (db' : SummaryDb) (action : Action), db.summaries.Extended db'.summaries →
      db.summaries.Extended (step db' action).summaries :=
    fun db' action hextended => hextended.trans (extended_step db' action)
  exact run_induction hstep (.refl _) actions

/-- A run of one of the generators: no row is added or deleted. -/
def IsRun : Action → Prop
  | .daily .. => True
  | .weekly .. => True
  | _ => False

theorem rows_step_of_isRun {db : SummaryDb} {action : Action} (hrun : IsRun action) :
    (step db action).signals = db.signals ∧ (step db action).events = db.events := by
  cases action with
  | daily deviceId zone runDate now => exact rows_daily _
  | weekly deviceId zone now => exact rows_weekly _
  | _ => exact absurd hrun id

theorem rows_run_of_isRun {db : SummaryDb} {actions : List Action}
    (hruns : ∀ action ∈ actions, IsRun action) :
    (run step db actions).signals = db.signals ∧ (run step db actions).events = db.events := by
  have hstep : ∀ (db' : SummaryDb) (action : Action), IsRun action →
      db'.signals = db.signals ∧ db'.events = db.events →
      (step db' action).signals = db.signals ∧ (step db' action).events = db.events := by
    rintro db' action hrun ⟨hsignals, hevents⟩
    obtain ⟨hsignals', hevents'⟩ := rows_step_of_isRun hrun
    exact ⟨hsignals'.trans hsignals, hevents'.trans hevents⟩
  exact AllSteps.run_induction hstep ⟨rfl, rfl⟩ (AllSteps.of_forall hruns)

/-- A further run of a generator, for a date of the week or for the week; rows come and go. -/
def Again (deviceId : String) (w : WeeklyWindow) : Action → Prop
  | .daily device zone runDate now => device = deviceId ∧
      w.weekStartDate ≤ (runWindow zone runDate now).periodDate ∧
      (runWindow zone runDate now).periodDate < w.weekEndDate
  | .weekly device zone now => device = deviceId ∧
      (computeWeeklyWindow zone now).weekStartDate = w.weekStartDate
  | _ => True

/-- The week and all its dates have their summaries. -/
structure Summarised (deviceId : String) (w : WeeklyWindow) (t : SummaryTable) : Prop where
  daily : ∀ date, w.weekStartDate ≤ date → date < w.weekEndDate → t.hasDaily deviceId date = true
  weekly : t.hasWeekly deviceId w.weekStartDate = true

theorem summaries_step_of_again {deviceId : String} {w : WeeklyWindow} {db : SummaryDb}
    {action : Action} (hagain : Again deviceId w action)
    (hdone : Summarised deviceId w db.summaries) : (step db action).summaries = db.summaries := by
  cases action with
  | insertSignal row => rfl
  | insertEvent row => rfl
  | deleteSignals keep => rfl
  | deleteEvents keep => rfl
  | daily device zone runDate now =>
      obtain ⟨rfl, hlow, hhigh⟩ := hagain
      exact congrArg SummaryDb.summaries (daily_of_hasDaily (hdone.daily _ hlow hhigh))
  | weekly device zone now =>
      obtain ⟨rfl, hweek⟩ := hagain
      refine congrArg SummaryDb.summaries (weekly_of_hasWeekly ?_)
      rw [hweek]
      exact hdone.weekly

/-- Further runs do nothing. -/
theorem summaries_run_of_again {deviceId : String} {w : WeeklyWindow} {db : SummaryDb}
    {actions : List Action} (hagain : ∀ action ∈ actions, Again deviceId w action)
    (hdone : Summarised deviceId w db.summaries) :
    (run step db actions).summaries = db.summaries := by
  have hstep : ∀ (db' : SummaryDb) (action : Action), Again deviceId w action →
      db'.summaries = db.summaries → (step db' action).summaries = db.summaries := by
    intro db' action hagain hsame
    rw [← hsame] at hdone ⊢
    exact summaries_step_of_again hagain hdone
  exact AllSteps.run_induction hstep rfl (AllSteps.of_forall hagain)

end SummaryDb

/-! ## The days of the week -/

/-- The rows of a device in a time window, added up and counted. -/
def directTotals (deviceId : String) (low high : ℤ) (db : SummaryDb) : Totals :=
  .direct
    (db.signals.filter fun row => decide (row.deviceId = deviceId) &&
      (decide (low ≤ row.observedAt) && decide (row.observedAt < high)))
    (db.events.filter fun row => decide (row.deviceId = deviceId) &&
      (decide (low ≤ row.detectedAt) && decide (row.detectedAt < high)))

theorem directTotals_eq_sliceSum (deviceId : String) (low high : ℤ) (db : SummaryDb) :
    directTotals deviceId low high db =
      sliceSum (fun row : SignalRow => row.observedAt) Totals.ofSignal low high
          (db.signals.filter fun row => row.deviceId = deviceId) +
        sliceSum EventRow.detectedAt Totals.ofEvent low high
          (db.events.filter fun row => row.deviceId = deviceId) := by
  unfold directTotals sliceSum slice
  rw [Totals.direct_eq_sum, List.filter_filter, List.filter_filter]
  simp only [Bool.and_comm]

/-- The first moment of a day, in a zone with a fixed offset. -/
def dayStart (offset date : ℤ) : ℤ := date * dayMicros - offset

theorem dayStart_le (offset start : ℤ) (i : ℕ) :
    dayStart offset (start + i) ≤ dayStart offset (start + (i + 1 : ℕ)) := by
  unfold dayStart dayMicros
  push_cast
  omega

/-- The totals of the rows of one day. -/
def dayTotals (deviceId : String) (offset : ℤ) (db : SummaryDb) (date : ℤ) : Totals :=
  directTotals deviceId (dayStart offset date) (dayStart offset (date + 1)) db

/-- The totals of days that follow on each other. -/
theorem sum_dayTotals (deviceId : String) (offset start : ℤ) (db : SummaryDb) (n : ℕ) :
    ((List.range n).map fun i : ℕ => dayTotals deviceId offset db (start + i)).sum =
      directTotals deviceId (dayStart offset start) (dayStart offset (start + n)) db := by
  have hsignals := sum_slices (fun row : SignalRow => row.observedAt) Totals.ofSignal
    (dayStart_le offset start) (db.signals.filter fun row => row.deviceId = deviceId) n
  have hevents := sum_slices EventRow.detectedAt Totals.ofEvent (dayStart_le offset start)
    (db.events.filter fun row => row.deviceId = deviceId) n
  simp only [Nat.cast_add, Nat.cast_one, Nat.cast_zero, add_zero, ← add_assoc] at hsignals hevents
  simp only [dayTotals, directTotals_eq_sliceSum]
  rw [List.sum_map_add, hsignals, hevents]

/-- The totals of a daily summary are those of its day. -/
theorem totals_dailySummary (deviceId : String) (offset date : ℤ) (db : SummaryDb) :
    (dailySummary deviceId (computeWindowForDate (.fixed offset) date)
        (some (fetchDailySignals deviceId (computeWindowForDate (.fixed offset) date) db.signals))
        (fetchDailyEvents deviceId (computeWindowForDate (.fixed offset) date)
          db.events)).payload.totals = dayTotals deviceId offset db date := rfl

namespace SummaryTable

theorem mem_fetchWeek_iff {t : SummaryTable} {deviceId : String} {low high : ℤ}
    {row : SummaryRow} : row ∈ t.fetchWeek deviceId low high ↔
      row ∈ t.daily ∧ row.deviceId = deviceId ∧ low ≤ row.summaryDate ∧ row.summaryDate < high := by
  simp only [fetchWeek, List.mem_insertionSort, List.mem_filter, Bool.and_eq_true,
    decide_eq_true_eq]
  constructor
  · rintro ⟨hrow, ⟨hdevice, -⟩, hdates⟩
    exact ⟨hrow, hdevice, hdates⟩
  · rintro ⟨hrow, hdevice, hdates⟩
    exact ⟨hrow, ⟨hdevice, t.daily_type row hrow⟩, hdates⟩

/-- The dates of the rows are different. -/
theorem nodup_dates_fetchWeek (t : SummaryTable) (deviceId : String) (low high : ℤ) :
    ((t.fetchWeek deviceId low high).map SummaryRow.summaryDate).Nodup := by
  unfold fetchWeek
  refine ((List.perm_insertionSort _ _).map _).nodup_iff.mpr ?_
  refine List.Nodup.of_map (fun date => (deviceId, date)) ?_
  rw [List.map_map]
  have hkeys : ∀ row ∈ t.daily.filter fun row => decide (row.deviceId = deviceId) &&
      decide (row.summaryType = "daily") && (decide (low ≤ row.summaryDate) &&
        decide (row.summaryDate < high)),
      ((fun date => (deviceId, date)) ∘ SummaryRow.summaryDate) row =
        (row.deviceId, row.summaryDate) := by
    intro row hrow
    have hdevice := (List.mem_filter.mp hrow).2
    simp only [Bool.and_eq_true, decide_eq_true_eq] at hdevice
    rw [hdevice.1.1]
    rfl
  rw [List.map_congr_left hkeys]
  exact t.daily_unique.sublist (List.filter_sublist.map _)

/-- A week of which every date has its summary. -/
theorem dates_fetchWeek_perm {t : SummaryTable} {deviceId : String} {low : ℤ} {n : ℕ}
    (hall : ∀ date, low ≤ date → date < low + n → t.hasDaily deviceId date = true) :
    ((t.fetchWeek deviceId low (low + n)).map SummaryRow.summaryDate).Perm
      ((List.range n).map fun i : ℕ => low + i) := by
  have hrange : ((List.range n).map fun i : ℕ => low + (i : ℤ)).Nodup :=
    List.nodup_range.map fun i j hsame => by simpa using hsame
  refine (List.perm_ext_iff_of_nodup (nodup_dates_fetchWeek t deviceId low _) hrange).mpr
    fun date => ?_
  rw [List.mem_map, List.mem_map]
  constructor
  · rintro ⟨row, hrow, rfl⟩
    obtain ⟨-, -, hlow, hhigh⟩ := mem_fetchWeek_iff.mp hrow
    exact ⟨(row.summaryDate - low).toNat, List.mem_range.mpr (by omega), by omega⟩
  · rintro ⟨i, hi, rfl⟩
    have hi' := List.mem_range.mp hi
    obtain ⟨row, hrow, hdevice, hdate⟩ :=
      hasDaily_iff.mp (hall (low + i) (by omega) (by omega))
    exact ⟨row, mem_fetchWeek_iff.mpr ⟨hrow, hdevice, by omega, by omega⟩, hdate⟩

end SummaryTable

/-- A run for the date wrote its summary, and at the end the rows of the date are those
that it read. -/
def SummaryDb.Generated (deviceId : String) (zone : Zone) (start : SummaryDb)
    (actions : List Action) (date : ℤ) : Prop :=
  ∃ earlier later now, actions = earlier ++ .daily deviceId zone (some date) now :: later ∧
    (run step start earlier).summaries.hasDaily deviceId date = false ∧
    fetchDailySignals deviceId (computeWindowForDate zone date) (run step start actions).signals =
      fetchDailySignals deviceId (computeWindowForDate zone date)
        (run step start earlier).signals ∧
    fetchDailyEvents deviceId (computeWindowForDate zone date) (run step start actions).events =
      fetchDailyEvents deviceId (computeWindowForDate zone date) (run step start earlier).events

namespace SummaryDb

variable {deviceId : String} {offset : ℤ} {start : SummaryDb} {actions : List Action}

/-- It is so if no row is added or deleted after the run. -/
theorem generated_of_isRun {zone : Zone} {earlier later : List Action} {date now : ℤ}
    (hactions : actions = earlier ++ .daily deviceId zone (some date) now :: later)
    (hnew : (run step start earlier).summaries.hasDaily deviceId date = false)
    (hruns : ∀ action ∈ later, IsRun action) : Generated deviceId zone start actions date := by
  subst hactions
  have hall : ∀ action ∈ Action.daily deviceId zone (some date) now :: later, IsRun action :=
    List.forall_mem_cons.mpr ⟨trivial, hruns⟩
  obtain ⟨hsignals, hevents⟩ := rows_run_of_isRun hall
  rw [← run_append] at hsignals hevents
  exact ⟨earlier, later, now, rfl, hnew, by rw [hsignals], by rw [hevents]⟩

/-- The totals of the date's summary at the end are those of the rows at the end. -/
theorem Generated.exists_row {date : ℤ} (hdevice : deviceId ≠ "")
    (hgenerated : Generated deviceId (.fixed offset) start actions date) :
    ∃ row ∈ (run step start actions).summaries.daily, row.deviceId = deviceId ∧
      row.summaryDate = date ∧
      row.payload.totals = dayTotals deviceId offset (run step start actions) date := by
  obtain ⟨earlier, later, now, rfl, hnew, hsignals, hevents⟩ := hgenerated
  have hwritten := mem_dailyPetSummaryGenerator
    (w := computeWindowForDate (.fixed offset) date) hdevice hnew
  rw [run_append, run_cons] at hsignals hevents ⊢
  have hextended := extended_run
    (step (run step start earlier) (.daily deviceId (.fixed offset) (some date) now)) later
  refine ⟨_, hextended.daily.subset hwritten, rfl, rfl, ?_⟩
  rw [← hsignals, ← hevents]
  exact totals_dailySummary deviceId offset date _

theorem Generated.hasDaily {date : ℤ} (hdevice : deviceId ≠ "")
    (hgenerated : Generated deviceId (.fixed offset) start actions date) :
    (run step start actions).summaries.hasDaily deviceId date = true := by
  obtain ⟨row, hrow, hrowDevice, hdate, -⟩ := hgenerated.exists_row hdevice
  exact SummaryTable.hasDaily_iff.mpr ⟨row, hrow, hrowDevice, hdate⟩

section Week

variable {low high : ℤ} (hdevice : deviceId ≠ "")
  (hdays : ∀ date, low ≤ date → date < high →
    Generated deviceId (.fixed offset) start actions date)

include hdevice hdays

/-- There is one row for a date, the one that was generated. -/
theorem totals_of_mem_fetchWeek {row : SummaryRow}
    (hrow : row ∈ (run step start actions).summaries.fetchWeek deviceId low high) :
    row.payload.totals = dayTotals deviceId offset (run step start actions) row.summaryDate := by
  obtain ⟨hmem, hrowDevice, hlow, hhigh⟩ := SummaryTable.mem_fetchWeek_iff.mp hrow
  obtain ⟨row', hmem', hdevice', hdate', htotals⟩ :=
    (hdays row.summaryDate hlow hhigh).exists_row hdevice
  have hsame : row' = row := List.inj_on_of_nodup_map
    (run step start actions).summaries.daily_unique hmem' hmem
    (by rw [hdevice', hdate', hrowDevice])
  rw [← hsame, htotals, hdate']

theorem dates_week_perm {n : ℕ} (hhigh : high = low + n) :
    (((run step start actions).summaries.fetchWeek deviceId low high).map
      SummaryRow.summaryDate).Perm ((List.range n).map fun i : ℕ => low + i) := by
  subst hhigh
  exact SummaryTable.dates_fetchWeek_perm fun date hlow hhigh =>
    (hdays date hlow hhigh).hasDaily hdevice

/-- The sums that the weekly run makes of the daily payloads. -/
theorem exists_addDays_week {n : ℕ} (hhigh : high = low + n) :
    ∃ sums, addDays .zero (((run step start actions).summaries.fetchWeek deviceId low high).map
        fun row => some row.payload.json) = some sums ∧
      sums.totals = directTotals deviceId (dayStart offset low) (dayStart offset high)
        (run step start actions) := by
  have hdates := dates_week_perm hdevice hdays hhigh
  have htotals : ∀ row ∈ (run step start actions).summaries.fetchWeek deviceId low high,
      row.payload.totals = dayTotals deviceId offset (run step start actions) row.summaryDate :=
    fun row hrow => totals_of_mem_fetchWeek hdevice hdays hrow
  generalize (run step start actions).summaries.fetchWeek deviceId low high = rows at *
  obtain ⟨sums, hsums, hadded⟩ := exists_addDays .zero (rows.map SummaryRow.payload)
  rw [List.map_map] at hsums
  refine ⟨sums, hsums, ?_⟩
  calc sums.totals = ((rows.map SummaryRow.payload).map DailyPayload.totals).sum := by
        rw [hadded]
        exact zero_add _
    _ = ((rows.map SummaryRow.summaryDate).map
          (dayTotals deviceId offset (run step start actions))).sum := by
        rw [List.map_map, List.map_map]
        exact congrArg List.sum (List.map_congr_left htotals)
    _ = (((List.range n).map fun i : ℕ => low + (i : ℤ)).map
          (dayTotals deviceId offset (run step start actions))).sum := (hdates.map _).sum_eq
    _ = directTotals deviceId (dayStart offset low) (dayStart offset high)
          (run step start actions) := by
        rw [List.map_map, hhigh]
        exact sum_dayTotals deviceId offset low _ n

end Week

/-- The weekly run adds one row, with the totals of the rows of the week. -/
def WeeklyExact (deviceId : String) (w : WeeklyWindow) (db db' : SummaryDb) : Prop :=
  ∃ payload, db'.summaries.weekly =
      db.summaries.weekly ++ [⟨deviceId, w.weekStartUtc, w.weekEndUtc, w.weekStartDate, payload⟩] ∧
    Reports payload (directTotals deviceId w.weekStartUtc w.weekEndUtc db)

theorem weeklyExact_step (hdevice : deviceId ≠ "") (now : ℤ)
    (hdays : ∀ date, (computeWeeklyWindow (.fixed offset) now).weekStartDate ≤ date →
      date < (computeWeeklyWindow (.fixed offset) now).weekEndDate →
      Generated deviceId (.fixed offset) start actions date)
    (hnew : (run step start actions).summaries.hasWeekly deviceId
      (computeWeeklyWindow (.fixed offset) now).weekStartDate = false) :
    WeeklyExact deviceId (computeWeeklyWindow (.fixed offset) now) (run step start actions)
      (step (run step start actions) (.weekly deviceId (.fixed offset) now)) := by
  have hhigh : (computeWeeklyWindow (.fixed offset) now).weekEndDate =
      (computeWeeklyWindow (.fixed offset) now).weekStartDate + (7 : ℕ) := (sub_add_cancel _ _).symm
  obtain ⟨sums, hsums, htotals⟩ := exists_addDays_week hdevice hdays hhigh
  have hlength := (dates_week_perm hdevice hdays hhigh).length_eq
  rw [List.length_map, List.length_map, List.length_range] at hlength
  have hsome : ((run step start actions).summaries.fetchWeek deviceId
      (computeWeeklyWindow (.fixed offset) now).weekStartDate
      (computeWeeklyWindow (.fixed offset) now).weekEndDate).length ≠ 0 := by
    rw [hlength]
    decide
  refine ⟨_, weekly_weeklyPetSummaryGenerator hdevice hnew hsome hsums, ?_⟩
  have hreports := reports_weeklyPayload ((run step start actions).summaries.fetchWeek deviceId
      (computeWeeklyWindow (.fixed offset) now).weekStartDate
      (computeWeeklyWindow (.fixed offset) now).weekEndDate).length sums
  rw [htotals] at hreports
  exact hreports

theorem WeeklyExact.hasWeekly {w : WeeklyWindow} {db db' : SummaryDb}
    (hexact : WeeklyExact deviceId w db db') :
    db'.summaries.hasWeekly deviceId w.weekStartDate = true := by
  obtain ⟨payload, hweekly, -⟩ := hexact
  refine SummaryTable.hasWeekly_iff.mpr
    ⟨⟨deviceId, w.weekStartUtc, w.weekEndUtc, w.weekStartDate, payload⟩, ?_, rfl, rfl⟩
  rw [hweekly]
  exact List.mem_append_right _ (List.mem_singleton_self _)

/-- **Weekly totals are direct totals.**  If every date of the week has been generated, the
weekly run writes the totals of the rows of the week.  From then on further runs of either
generator, for a date of the week or for the week, change nothing; and no run of any kind
changes a summary row. -/
theorem weeklyTotals_run (offset : ℤ) {deviceId : String} (hdevice : deviceId ≠ "") (now : ℤ)
    (start : SummaryDb) (actions : List Action)
    (hdays : ∀ date, (computeWeeklyWindow (.fixed offset) now).weekStartDate ≤ date →
      date < (computeWeeklyWindow (.fixed offset) now).weekEndDate →
      Generated deviceId (.fixed offset) start actions date)
    (hnew : (run step start actions).summaries.hasWeekly deviceId
      (computeWeeklyWindow (.fixed offset) now).weekStartDate = false) :
    WeeklyExact deviceId (computeWeeklyWindow (.fixed offset) now) (run step start actions)
        (step (run step start actions) (.weekly deviceId (.fixed offset) now)) ∧
      (∀ again : List Action,
        (∀ action ∈ again, Again deviceId (computeWeeklyWindow (.fixed offset) now) action) →
        (run step (step (run step start actions) (.weekly deviceId (.fixed offset) now))
            again).summaries =
          (step (run step start actions) (.weekly deviceId (.fixed offset) now)).summaries) ∧
      ∀ later : List Action,
        (step (run step start actions) (.weekly deviceId (.fixed offset) now)).summaries.Extended
          (run step (step (run step start actions) (.weekly deviceId (.fixed offset) now))
            later).summaries := by
  have hexact := weeklyExact_step hdevice now hdays hnew
  have hdone : Summarised deviceId (computeWeeklyWindow (.fixed offset) now)
      (step (run step start actions) (.weekly deviceId (.fixed offset) now)).summaries :=
    ⟨fun date hlow hhigh => (extended_step _ _).hasDaily ((hdays date hlow hhigh).hasDaily hdevice),
      hexact.hasWeekly⟩
  exact ⟨hexact, fun again hagain => summaries_run_of_again hagain hdone,
    fun later => extended_run _ later⟩

/-- Meals and treats at both ends of the week and outside of it, and a treat without a value. -/
def fedWeek : SummaryDb where
  signals :=
    [⟨⟨"dev", some 117, "food_dispensed", some 30, none, none, 239399999999⟩, 0⟩,
      ⟨⟨"dev", some 117, "food_dispensed", some (61 / 2), none, none, 239400000000⟩, 1⟩,
      ⟨⟨"dev", some 125, "treat_dispensed", none, none, none, 300000000000⟩, 2⟩,
      ⟨⟨"dev", some 125, "treat_dispensed", some 4, none, none, 500000000000⟩, 3⟩,
      ⟨⟨"other", some 117, "food_dispensed", some 70, none, none, 500000000000⟩, 4⟩,
      ⟨⟨"dev", some 117, "food_dispensed", some 20, none, none, 844199999999⟩, 5⟩,
      ⟨⟨"dev", some 117, "food_dispensed", some 50, none, none, 844200000000⟩, 6⟩]
  events :=
    [⟨"dev", "feeding_overdue", some "high", 400000000000, "a"⟩,
      ⟨"dev", "device_offline", none, 600000000000, "b"⟩]
  summaries := .empty

/-- The runs for the days 3 to 9, in a zone five and a half hours east of UTC. -/
def sevenRuns : List Action :=
  (List.range 7).map fun i : ℕ => .daily "dev" (.fixed 19800000000) (some (3 + i)) 0

theorem sevenRuns_split (i : Fin 7) : sevenRuns = sevenRuns.take i ++
    .daily "dev" (.fixed 19800000000) (some (3 + (i : ℕ))) 0 :: sevenRuns.drop (i + 1) := by
  have hlength : (i : ℕ) < sevenRuns.length := i.isLt
  have hrun : sevenRuns[(i : ℕ)] = .daily "dev" (.fixed 19800000000) (some (3 + (i : ℕ))) 0 := by
    simp [sevenRuns]
  rw [← hrun, ← List.drop_eq_getElem_cons hlength, List.take_append_drop]

theorem weeklyTotals_fedWeek :
    WeeklyExact "dev" (computeWeeklyWindow (.fixed 19800000000) 850000000000)
        (run step fedWeek sevenRuns)
        (step (run step fedWeek sevenRuns) (.weekly "dev" (.fixed 19800000000) 850000000000)) ∧
      directTotals "dev" 239400000000 844200000000 fedWeek = ⟨101 / 2, 4, 2, 2, 1, 1, 1⟩ := by
  have hnew : ∀ i : Fin 7, (run step fedWeek (sevenRuns.take i)).summaries.hasDaily "dev"
      (3 + (i : ℕ)) = false := by decide +kernel
  have hruns : ∀ action ∈ sevenRuns, IsRun action := by
    intro action haction
    obtain ⟨i, -, rfl⟩ := List.mem_map.mp haction
    trivial
  have hdays : ∀ date,
      (computeWeeklyWindow (.fixed 19800000000) 850000000000).weekStartDate ≤ date →
      date < (computeWeeklyWindow (.fixed 19800000000) 850000000000).weekEndDate →
      Generated "dev" (.fixed 19800000000) fedWeek sevenRuns date := by
    intro date hlow hhigh
    have hlow' : 3 ≤ date := hlow
    have hhigh' : date < 10 := hhigh
    obtain ⟨i, rfl⟩ : ∃ i : Fin 7, date = 3 + (i : ℕ) :=
      ⟨⟨(date - 3).toNat, by omega⟩, by simp; omega⟩
    exact generated_of_isRun (sevenRuns_split i) (hnew i) fun action haction =>
      hruns action (List.mem_of_mem_drop haction)
  exact ⟨(weeklyTotals_run 19800000000 (by decide) 850000000000 fedWeek sevenRuns hdays
    (by decide +kernel)).1, by decide +kernel⟩

end SummaryDb

end OroEdge.Jobs
