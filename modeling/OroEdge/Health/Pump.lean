import OroEdge.Health.History

/-!
# One verdict for each run of the pump

The verdict on a run of the pump comes from two places: a `tick` reports a dry run,
and the report that ends the run says `healthy` unless a dry run has been reported.
`OneVerdict` says that each run has exactly one verdict and which, and that there is
none between the runs, except for a pump that is first reported idle.

* `FoundDry`: a tick of the run came late and found the bowl not full.
* `Running`: what the monitor holds, and what it has written, while a run lasts.
* `verdicts_outside`: between the runs the last report, if any, says `idle`, so that
  another such report gives no verdict.

The history of the pump is cut at its reports.  Inside a run the invariant `Running` counts the
verdicts since its start and says what decides the next one; its cases are a `tick`, which may
find the run dry, and any other call (`Running.tick`, `Running.frame`).  The report that ends
the run reads the flag, and gives the verdict that is missing if one is.

A second report `running` inside a run is a repetition and starts nothing, which is why a run
begins with the first of the last reports that all say so (`pumpRunStart`).
-/

namespace OroEdge.Health

open OroEdge.Lib

/-! ## The property -/

/-- A tick came `WATER_PUMP_HEALTH_TIMEOUT_MS` after the start of the run or later, and
the bowl was not full. -/
def FoundDry (before : List Call) (runStart : ℕ) (during : List Call) : Prop :=
  ∃ first sysInfo now rest, during = first ++ .tick sysInfo now :: rest ∧
    waterPumpHealthTimeoutMs ≤ sub64 now runStart ∧
      lastBowl (before ++ .waterPumpState "running" runStart :: first) ≠ 1

/-- What the rows say of the health of the pump. -/
def pumpVerdicts (records : List SignalRecord) : List (Option String) :=
  (recordsOf "fountain_pump_health_status" records).map SignalRecord.signalValueText

/-- A run of the pump has one verdict, "failed" if a tick found it dry for too long and "healthy"
otherwise; outside of the runs there is none, except for an "idle" that comes first of all. -/
structure OneVerdict (start : ℕ) (calls : List Call) : Prop where
  period : ∀ before runStart during runEnd later,
    calls = before ++ (.waterPumpState "running" runStart :: during ++
        [.waterPumpState "idle" runEnd]) ++ later →
      pumpRunStart before = none → (∀ report ∈ pumpReports during, report.1 = "running") →
        (FoundDry before runStart during →
          pumpVerdicts (sent start before (.waterPumpState "running" runStart :: during ++
            [.waterPumpState "idle" runEnd])) = [some "failed"]) ∧
        (¬ FoundDry before runStart during →
          pumpVerdicts (sent start before (.waterPumpState "running" runStart :: during ++
            [.waterPumpState "idle" runEnd])) = [some "healthy"])
  outside : ∀ earlier call later, calls = earlier ++ call :: later →
    pumpRunStart earlier = none →
      ((∃ t, call = .waterPumpState "idle" t) ∧ pumpReports earlier = [] →
        pumpVerdicts (handedOver start earlier call) = [some "healthy"]) ∧
      (¬ ((∃ t, call = .waterPumpState "idle" t) ∧ pumpReports earlier = []) →
        pumpVerdicts (handedOver start earlier call) = [])

theorem pumpVerdicts_append (first second : List SignalRecord) :
    pumpVerdicts (first ++ second) = pumpVerdicts first ++ pumpVerdicts second := by
  simp [pumpVerdicts, recordsOf_append]

/-! ## What one call writes and holds -/

section Call

variable (m : HealthMonitor)

theorem pumpVerdicts_tick (sysInfo : HealthMonitor.NetworkInfo) (now : ℕ) :
    pumpVerdicts (m.tick sysInfo now).2 = if m.raisesFailed now then [some "failed"] else [] := by
  unfold pumpVerdicts
  rw [HealthMonitor.recordsOf_pump_tick]
  split <;> rfl

theorem pumpVerdicts_running (now : ℕ) :
    pumpVerdicts (m.updateWaterPumpState "running" now).2 = [] := by
  unfold HealthMonitor.updateWaterPumpState
  split
  · rw [if_pos rfl]
    simp [pumpVerdicts, recordsOf, HealthMonitor.fountainRecord, textRecord]
  · rfl

theorem pumpVerdicts_idle (now : ℕ) :
    pumpVerdicts (m.updateWaterPumpState "idle" now).2 =
      if m.lastPumpState ≠ "idle" ∧ m.pumpDamageReported = false then [some "healthy"] else [] := by
  unfold HealthMonitor.updateWaterPumpState
  by_cases hsame : "idle" = m.lastPumpState
  · rw [if_neg (not_not.mpr hsame), if_neg (fun hcond => hcond.1 hsame.symm)]
    rfl
  · have hne : m.lastPumpState ≠ "idle" := fun heq => hsame heq.symm
    rw [if_pos hsame, if_neg (by decide)]
    cases hreported : m.pumpDamageReported <;>
      simp [pumpVerdicts, recordsOf, HealthMonitor.fountainRecord,
        HealthMonitor.pumpHealthyRecord, textRecord, hne]

/-- A call that is no tick, no report of the pump and no level of the bowl. -/
theorem pump_call {call : Call} (htick : ∀ sysInfo now, call ≠ .tick sysInfo now)
    (hreport : pumpReport call = none) :
    pumpVerdicts (m.call call).2 = [] ∧
      (m.call call).1.lastPumpState = m.lastPumpState ∧
      (m.call call).1.isPumpRunning = m.isPumpRunning ∧
      (m.call call).1.pumpOnStartTimeMs = m.pumpOnStartTimeMs ∧
      (m.call call).1.pumpDamageReported = m.pumpDamageReported := by
  rcases call_cases m call with ⟨sysInfo, now, rfl⟩ | ⟨seqNum, now, rfl⟩ | ⟨status, now, rfl⟩ |
    ⟨state, rfl⟩ | ⟨level, batteryId, powerMode, now, rfl⟩ | hunrelated
  · exact absurd rfl (htick sysInfo now)
  · simp only [HealthMonitor.call, HealthMonitor.updateDeviceHeartbeat]
    split <;> exact ⟨rfl, rfl, rfl, rfl, rfl⟩
  · cases hreport
  · exact ⟨rfl, rfl, rfl, rfl, rfl⟩
  · simp only [HealthMonitor.call, HealthMonitor.updateBatteryLevel]
    split
    · exact ⟨by simp [pumpVerdicts, recordsOf, numericRecord], rfl, rfl, rfl, rfl⟩
    · exact ⟨rfl, rfl, rfl, rfl, rfl⟩
  · refine ⟨?_, hunrelated.same.pumpState, hunrelated.same.running, hunrelated.same.pumpStart,
      hunrelated.same.reported⟩
    unfold pumpVerdicts
    rw [hunrelated.recordsOf_eq_nil (by decide)]
    rfl

end Call

/-! ## During a run -/

theorem foundDry_append_singleton {before : List Call} {runStart : ℕ} {during : List Call}
    {call : Call} : FoundDry before runStart (during ++ [call]) ↔
      FoundDry before runStart during ∨ ∃ sysInfo now, call = .tick sysInfo now ∧
        waterPumpHealthTimeoutMs ≤ sub64 now runStart ∧
          lastBowl (before ++ .waterPumpState "running" runStart :: during) ≠ 1 := by
  constructor
  · rintro ⟨first, sysInfo, now, rest, hsplit, hlate, hbowl⟩
    rcases append_singleton_eq_split hsplit with ⟨hcall, -, rfl⟩ | ⟨before, -, rfl⟩
    · exact Or.inr ⟨sysInfo, now, hcall, hlate, hbowl⟩
    · exact Or.inl ⟨first, sysInfo, now, before, rfl, hlate, hbowl⟩
  · rintro (⟨first, sysInfo, now, rest, rfl, hlate, hbowl⟩ | ⟨sysInfo, now, rfl, hlate, hbowl⟩)
    · exact ⟨first, sysInfo, now, rest ++ [call], by simp, hlate, hbowl⟩
    · exact ⟨during, sysInfo, now, [], rfl, hlate, hbowl⟩

/-- The monitor during a run, and the verdicts since its start. -/
structure Running (before : List Call) (runStart : ℕ) (during : List Call) (m : HealthMonitor)
    (verdicts : List (Option String)) : Prop where
  state : m.lastPumpState = "running"
  running : m.isPumpRunning = true
  pumpStart : m.pumpOnStartTimeMs = runStart
  reported : m.pumpDamageReported = true ↔ FoundDry before runStart during
  verdicts : verdicts = if m.pumpDamageReported then [some "failed"] else []

theorem Running.tick {before : List Call} {runStart : ℕ} {during : List Call} {m : HealthMonitor}
    {verdicts : List (Option String)} (hrunning : Running before runStart during m verdicts)
    (hbowl : m.lastBowlLevel = lastBowl (before ++ .waterPumpState "running" runStart :: during))
    (sysInfo : HealthMonitor.NetworkInfo) (now : ℕ) :
    Running before runStart (during ++ [.tick sysInfo now]) (m.tick sysInfo now).1
      (verdicts ++ pumpVerdicts (m.tick sysInfo now).2) := by
  have hticked := HealthMonitor.ticked_tick sysInfo now m
  have hdry : (∃ sysInfo' now', Call.tick sysInfo now = .tick sysInfo' now' ∧
      waterPumpHealthTimeoutMs ≤ sub64 now' runStart ∧
        lastBowl (before ++ .waterPumpState "running" runStart :: during) ≠ 1) ↔
      waterPumpHealthTimeoutMs ≤ sub64 now runStart ∧ m.lastBowlLevel ≠ 1 := by
    rw [hbowl]
    constructor
    · rintro ⟨_, _, hcall, hlate, hlevel⟩
      cases hcall
      exact ⟨hlate, hlevel⟩
    · rintro ⟨hlate, hlevel⟩
      exact ⟨sysInfo, now, rfl, hlate, hlevel⟩
  refine ⟨hticked.pumpState.trans hrunning.state, hticked.running.trans hrunning.running,
    hticked.pumpStart.trans hrunning.pumpStart, ?_, ?_⟩
  · rw [foundDry_append_singleton, hdry, hticked.reported, ← hrunning.reported]
    cases hreported : m.pumpDamageReported with
    | true => simp
    | false =>
        simp [HealthMonitor.raisesFailed, hrunning.running, hreported, hrunning.pumpStart]
  · rw [pumpVerdicts_tick, hrunning.verdicts, hticked.reported]
    cases hreported : m.pumpDamageReported with
    | true => simp [HealthMonitor.raisesFailed, hreported]
    | false => simp

/-- The report that starts a run. -/
theorem running_start {before : List Call} {m : HealthMonitor}
    (hstate : m.lastPumpState ≠ "running") (runStart : ℕ) :
    Running before runStart [] (m.updateWaterPumpState "running" runStart).1
      (pumpVerdicts (m.updateWaterPumpState "running" runStart).2) := by
  have hdry : ¬ FoundDry before runStart [] := by
    rintro ⟨first, sysInfo, now, rest, hsplit, -⟩
    simp at hsplit
  rw [pumpVerdicts_running]
  unfold HealthMonitor.updateWaterPumpState
  rw [if_pos hstate.symm, if_pos rfl]
  exact ⟨rfl, rfl, rfl, iff_of_false (by simp) hdry, rfl⟩

/-- Any other call of a run that does not end it. -/
theorem Running.frame {before : List Call} {runStart : ℕ} {during : List Call} {m : HealthMonitor}
    {verdicts : List (Option String)} (hrunning : Running before runStart during m verdicts)
    {call : Call} (htick : ∀ sysInfo now, call ≠ .tick sysInfo now)
    (hreport : ∀ report ∈ pumpReport call, report.1 = "running") :
    Running before runStart (during ++ [call]) (m.call call).1
      (verdicts ++ pumpVerdicts (m.call call).2) := by
  have hdry : FoundDry before runStart (during ++ [call]) ↔ FoundDry before runStart during := by
    rw [foundDry_append_singleton, or_iff_left]
    rintro ⟨sysInfo, now, hcall, -⟩
    exact htick sysInfo now hcall
  have hsame : pumpVerdicts (m.call call).2 = [] ∧
      (m.call call).1.lastPumpState = m.lastPumpState ∧
      (m.call call).1.isPumpRunning = m.isPumpRunning ∧
      (m.call call).1.pumpOnStartTimeMs = m.pumpOnStartTimeMs ∧
      (m.call call).1.pumpDamageReported = m.pumpDamageReported := by
    cases hcall : pumpReport call with
    | none => exact pump_call m htick hcall
    | some report =>
        -- the state is reported again
        cases call with
        | waterPumpState status now =>
            have hstatus : status = "running" := hreport (status, now) rfl
            have hkept : m.updateWaterPumpState status now = (m, []) := by
              rw [HealthMonitor.updateWaterPumpState,
                if_neg (not_not.mpr (hstatus.trans hrunning.state.symm))]
            rw [HealthMonitor.call, hkept]
            exact ⟨rfl, rfl, rfl, rfl, rfl⟩
        | _ => cases hcall
  obtain ⟨hverdicts, hstate, hpump, hstart, hreported⟩ := hsame
  refine ⟨hstate.trans hrunning.state, hpump.trans hrunning.running,
    hstart.trans hrunning.pumpStart, ?_, ?_⟩
  · rw [hreported, hdry]
    exact hrunning.reported
  · rw [hverdicts, hreported, List.append_nil]
    exact hrunning.verdicts

/-- Before a run the last report is another one. -/
theorem lastPumpState_ne_of_pumpRunStart {calls : List Call} {m : HealthMonitor}
    (hfollows : Follows calls m) (hnone : pumpRunStart calls = none) :
    m.lastPumpState ≠ "running" := by
  intro heq
  have hstart := hfollows.pumpStart (by rw [hfollows.running, heq]; rfl)
  rw [hnone] at hstart
  cases hstart

theorem running_during (start : ℕ) {before : List Call} (runStart : ℕ) {during : List Call}
    (hbefore : pumpRunStart before = none)
    (hduring : ∀ report ∈ pumpReports during, report.1 = "running") :
    Running before runStart during
      (HealthMonitor.after start (before ++ .waterPumpState "running" runStart :: during))
      (pumpVerdicts (sent start before (.waterPumpState "running" runStart :: during))) := by
  induction during using List.reverseRecOn with
  | nil =>
      have hstate := lastPumpState_ne_of_pumpRunStart (follows_after start before) hbefore
      have hsent : sent start before [.waterPumpState "running" runStart] =
          handedOver start before (.waterPumpState "running" runStart) := by
        rw [← List.nil_append [_], sent_append_singleton, sent_nil, List.append_nil,
          List.nil_append]
      rw [after_append_singleton, hsent]
      exact running_start hstate runStart
  | append_singleton during call ih =>
      have hreports : ∀ report ∈ pumpReports during, report.1 = "running" := by
        intro report hmem
        apply hduring report
        rw [pumpReports, List.filterMap_append]
        exact List.mem_append_left _ hmem
      have hcall : ∀ report ∈ pumpReport call, report.1 = "running" := by
        intro report hreport
        apply hduring report
        rw [pumpReports, List.filterMap_append]
        exact List.mem_append_right _ (List.mem_filterMap.mpr ⟨call, by simp, hreport⟩)
      have hrunning := ih hreports
      have hfollows := follows_after start
        (before ++ .waterPumpState "running" runStart :: during)
      rw [← List.cons_append, ← List.append_assoc, after_append_singleton, sent_append_singleton,
        pumpVerdicts_append, handedOver]
      by_cases htick : ∃ sysInfo now, call = .tick sysInfo now
      · obtain ⟨sysInfo, now, rfl⟩ := htick
        exact hrunning.tick hfollows.bowl sysInfo now
      · exact hrunning.frame (fun sysInfo now heq => htick ⟨sysInfo, now, heq⟩) hcall

/-! ## Between the runs -/

/-- A dry run is reported only after a run has started. -/
theorem pumpDamageReported_eq_false {start : ℕ} {calls : List Call}
    (hnone : pumpReports calls = []) :
    (HealthMonitor.after start calls).pumpDamageReported = false := by
  induction calls using List.reverseRecOn with
  | nil => rfl
  | append_singleton calls call ih =>
      rw [pumpReports, List.filterMap_append, List.append_eq_nil_iff] at hnone
      have hbefore := ih hnone.1
      have hfollows := follows_after start calls
      rw [after_append_singleton]
      by_cases htick : ∃ sysInfo now, call = .tick sysInfo now
      · obtain ⟨sysInfo, now, rfl⟩ := htick
        have hticked := HealthMonitor.ticked_tick sysInfo now (HealthMonitor.after start calls)
        have hidle : (HealthMonitor.after start calls).isPumpRunning = false := by
          rw [hfollows.running, hfollows.pumpState, pumpReports, hnone.1]
          rfl
        rw [HealthMonitor.call, hticked.reported, hbefore]
        simp [HealthMonitor.raisesFailed, hidle]
      · have hreport : pumpReport call = none := by
          cases hcall : pumpReport call with
          | none => rfl
          | some report => simp [hcall] at hnone
        rw [(pump_call _ (fun sysInfo now heq => htick ⟨sysInfo, now, heq⟩) hreport).2.2.2.2]
        exact hbefore

theorem lastPumpState_eq_idle {calls : List Call} {m : HealthMonitor} (hfollows : Follows calls m)
    (hstate : m.lastPumpState ≠ "running")
    (hreports : ∀ report ∈ pumpReports calls, report.1 = "running" ∨ report.1 = "idle")
    (hsome : pumpReports calls ≠ []) : m.lastPumpState = "idle" := by
  obtain ⟨last, hlast⟩ : ∃ last, (pumpReports calls).getLast? = some last :=
    Option.ne_none_iff_exists'.mp fun hnone => hsome (List.getLast?_eq_none_iff.mp hnone)
  have hheld : m.lastPumpState = last.1 := by
    rw [hfollows.pumpState, hlast]
    rfl
  rcases hreports last (List.mem_of_mem_getLast? hlast) with hrunning | hidle
  · exact absurd (hheld.trans hrunning) hstate
  · exact hheld.trans hidle

/-- Between the runs a call gives no verdict, but for a first report `idle`. -/
theorem verdicts_outside {start : ℕ} {earlier : List Call} {call : Call}
    (hreports : ∀ report ∈ pumpReports (earlier ++ [call]),
      report.1 = "running" ∨ report.1 = "idle")
    (hnone : pumpRunStart earlier = none) :
    ((∃ t, call = .waterPumpState "idle" t) ∧ pumpReports earlier = [] →
      pumpVerdicts (handedOver start earlier call) = [some "healthy"]) ∧
    (¬ ((∃ t, call = .waterPumpState "idle" t) ∧ pumpReports earlier = []) →
      pumpVerdicts (handedOver start earlier call) = []) := by
  have hfollows := follows_after start earlier
  have hstate := lastPumpState_ne_of_pumpRunStart hfollows hnone
  constructor
  · rintro ⟨⟨t, rfl⟩, hfirst⟩
    have hunknown : (HealthMonitor.after start earlier).lastPumpState = "unknown" := by
      rw [hfollows.pumpState, hfirst]
      rfl
    rw [handedOver, HealthMonitor.call, pumpVerdicts_idle, if_pos]
    rw [hunknown]
    exact ⟨by decide, pumpDamageReported_eq_false hfirst⟩
  · intro hnot
    by_cases htick : ∃ sysInfo now, call = .tick sysInfo now
    · obtain ⟨sysInfo, now, rfl⟩ := htick
      have hidle : (HealthMonitor.after start earlier).isPumpRunning = false := by
        rw [hfollows.running]
        exact decide_eq_false hstate
      rw [handedOver, HealthMonitor.call, pumpVerdicts_tick, if_neg]
      simp [HealthMonitor.raisesFailed, hidle]
    · cases hcall : pumpReport call with
      | none => exact (pump_call _ (fun sysInfo now heq => htick ⟨sysInfo, now, heq⟩) hcall).1
      | some report =>
          cases call with
          | waterPumpState status now =>
              rcases hreports (status, now) (by simp [pumpReports, pumpReport]) with
                hstatus | hstatus
              · obtain rfl : status = "running" := hstatus
                exact pumpVerdicts_running _ now
              · obtain rfl : status = "idle" := hstatus
                have hidle := lastPumpState_eq_idle hfollows hstate (fun report hmem =>
                  hreports report (by
                    rw [pumpReports, List.filterMap_append]
                    exact List.mem_append_left _ hmem)) fun hempty => hnot ⟨⟨now, rfl⟩, hempty⟩
                rw [handedOver, HealthMonitor.call, pumpVerdicts_idle,
                  if_neg fun hcond => hcond.1 hidle]
          | _ => cases hcall

/-- **One verdict for each run.**  Nothing is assumed of the times. -/
theorem oneVerdict (start : ℕ) (calls : List Call)
    (hreports : ∀ report ∈ pumpReports calls, report.1 = "running" ∨ report.1 = "idle") :
    OneVerdict start calls := by
  constructor
  · rintro before runStart during runEnd later - hbefore hduring
    have hrunning := running_during start runStart hbefore hduring
    have hsent : pumpVerdicts (sent start before (.waterPumpState "running" runStart :: during ++
        [.waterPumpState "idle" runEnd])) =
        (if (HealthMonitor.after start (before ++ .waterPumpState "running" runStart ::
            during)).pumpDamageReported then [some "failed"] else []) ++
          if (HealthMonitor.after start (before ++ .waterPumpState "running" runStart ::
            during)).pumpDamageReported = false then [some "healthy"] else [] := by
      rw [sent_append_singleton, pumpVerdicts_append, hrunning.verdicts, handedOver,
        HealthMonitor.call, pumpVerdicts_idle, hrunning.state]
      simp
    rw [hsent, ← hrunning.reported]
    generalize (HealthMonitor.after start (before ++ .waterPumpState "running" runStart ::
      during)).pumpDamageReported = reported
    cases reported <;> simp
  · rintro earlier call later rfl hnone
    apply verdicts_outside _ hnone
    intro report hmem
    apply hreports report
    rw [List.append_cons, pumpReports, List.filterMap_append]
    exact List.mem_append_left _ hmem

/-! ## A run -/

/-- The pump runs dry for 10 s, then runs for 1 s. -/
def twoPumpRuns : List Call :=
  [.waterPumpState "running" 1000, .tick ⟨"unknown", "N/A"⟩ 11000, .waterPumpState "idle" 12000,
    .waterPumpState "running" 20000, .waterPumpState "idle" 21000]

theorem oneVerdict_two_runs : OneVerdict 0 twoPumpRuns := oneVerdict 0 twoPumpRuns (by decide)

end OroEdge.Health
