import Mathlib.Tactic.NormNum
import OroEdge.Jobs.Device

/-!
# Failed queries

A query that fails returns `0`, or the empty string.  The events that a run of
`device_health_check` emits when some of its queries fail should be among those it emits
when none does (`NoFalseAlarms`).

A measurement that reads as `0` raises nothing, and neither does a battery threshold.  But
a timeout of `0` is exceeded by the age of every heartbeat: the property holds exactly if
the timeout and the age fail together, or fail where it does not matter
(`noFalseAlarms_iff`).

The run with failures is compared section by section with the run without them.  In three of the
four sections a failed query can only take the issue away, since `0` and the empty text are no
findings there (`batteryIssues_failing`, `supplyIssues_failing`, `statusIssues_failing`,
`staleIssues_failing`).  In the first, the age and the timeout are compared with each other, and
the comparison can go the wrong way if only one of them has failed; `TimeoutKnown` lists these
cases, and `mem_offlineIssues_of_eventType` shows that no other section could make up for them.
-/

namespace OroEdge.Jobs

open OroEdge.Lib

/-! ## The property -/

/-- The queries of a run. -/
inductive Query
  | timeoutThreshold
  | freshness (signalType : String)
  | batteryLowThreshold
  | battery
  | waterRefill
  | status
  deriving DecidableEq, Repr

/-- What the queries return when the `failed` ones fail. -/
def DeviceAnswers.failing (q : DeviceAnswers) (failed : Query → Bool) : DeviceAnswers where
  timeoutThreshold := if failed .timeoutThreshold then 0 else q.timeoutThreshold
  freshnessMinutes signalType :=
    if failed (.freshness signalType) then 0 else q.freshnessMinutes signalType
  batteryLowThreshold := if failed .batteryLowThreshold then 0 else q.batteryLowThreshold
  battery := if failed .battery then 0 else q.battery
  waterRefill := if failed .waterRefill then 0 else q.waterRefill
  status := if failed .status then "" else q.status

/-- The events of a run of `device_health_check`. -/
def emittedEvents (deviceId : String) (q : DeviceAnswers) : List DeviceEvent :=
  (deviceHealthCheck deviceId q).issues.map Issue.event

/-- Failures only take events away. -/
def NoFalseAlarms (deviceId : String) (q : DeviceAnswers) (failed : Query → Bool) : Prop :=
  emittedEvents deviceId (q.failing failed) ⊆ emittedEvents deviceId q

/-- If only the query of the timeout fails, the last heartbeat is not in the past or the
timeout is `0`; if only that of the heartbeat fails, the timeout is not negative or the
heartbeat is just now. -/
structure TimeoutKnown (q : DeviceAnswers) (failed : Query → Bool) : Prop where
  timeout : failed .timeoutThreshold = true → failed (.freshness "device_heartbeat") = false →
    q.freshnessMinutes "device_heartbeat" ≤ 0 ∨ q.timeoutThreshold = 0
  heartbeat : failed (.freshness "device_heartbeat") = true → failed .timeoutThreshold = false →
    0 ≤ q.timeoutThreshold ∨ q.freshnessMinutes "device_heartbeat" = 0

/-! ## Each section -/

section

variable {deviceId : String} {q : DeviceAnswers} {failed : Query → Bool}

theorem batteryIssues_failing {issue : Issue}
    (hissue : issue ∈ batteryIssues deviceId (q.failing failed)) :
    issue ∈ batteryIssues deviceId q := by
  have hcondition : 0 < (q.failing failed).battery ∧
      (q.failing failed).battery < (q.failing failed).batteryLowThreshold := by
    simp only [batteryIssues, List.mem_ite_nil_right] at hissue
    exact hissue.1
  obtain ⟨hpos, hlow⟩ := hcondition
  have hbattery : failed .battery = false := by
    by_contra hfailed
    simp only [DeviceAnswers.failing, Bool.of_not_eq_false hfailed, if_true] at hpos
    exact absurd hpos (lt_irrefl 0)
  have hthreshold : failed .batteryLowThreshold = false := by
    by_contra hfailed
    simp only [DeviceAnswers.failing, Bool.of_not_eq_false hfailed, if_true] at hlow
    exact absurd hlow (not_lt.mpr hpos.le)
  simpa [batteryIssues, DeviceAnswers.failing, hbattery, hthreshold] using hissue

theorem supplyIssues_failing {issue : Issue}
    (hissue : issue ∈ supplyIssues deviceId (q.failing failed)) :
    issue ∈ supplyIssues deviceId q := by
  cases hfailed : failed .waterRefill with
  | false => simpa [supplyIssues, DeviceAnswers.failing, hfailed] using hissue
  | true => simp [supplyIssues, DeviceAnswers.failing, hfailed] at hissue

theorem statusIssues_failing {issue : Issue}
    (hissue : issue ∈ statusIssues deviceId (q.failing failed)) :
    issue ∈ statusIssues deviceId q := by
  cases hfailed : failed .status with
  | false => simpa [statusIssues, DeviceAnswers.failing, hfailed] using hissue
  | true => simp [statusIssues, DeviceAnswers.failing, hfailed] at hissue

theorem staleIssues_failing {check : SensorCheck} (hcheck : check ∈ sensorChecks) {issue : Issue}
    (hissue : issue ∈ staleIssues deviceId (q.failing failed) check) :
    issue ∈ staleIssues deviceId q check := by
  cases hfailed : failed (.freshness check.signalType) with
  | false => simpa [staleIssues, DeviceAnswers.failing, hfailed] using hissue
  | true =>
      -- an age of `0` is below every limit
      have hlimits : ∀ check ∈ sensorChecks, ¬ check.maxAgeMinutes < 0 := by decide +kernel
      simp only [staleIssues, DeviceAnswers.failing, hfailed, if_true,
        if_neg (hlimits check hcheck)] at hissue
      cases hissue

/-- A heartbeat that is found late is read right, and so is the timeout. -/
theorem timeoutKnown_iff : TimeoutKnown q failed ↔
    ((q.failing failed).timeoutThreshold < (q.failing failed).freshnessMinutes "device_heartbeat" →
      (q.failing failed).timeoutThreshold = q.timeoutThreshold ∧
        (q.failing failed).freshnessMinutes "device_heartbeat" =
          q.freshnessMinutes "device_heartbeat") := by
  unfold DeviceAnswers.failing
  constructor
  · rintro ⟨htimeout, hheartbeat⟩
    cases hfailed : failed .timeoutThreshold <;>
      cases hfailed' : failed (.freshness "device_heartbeat") <;>
      simp only [hfailed, hfailed', Bool.false_eq_true, if_false, if_true] at *
    · exact fun _ => ⟨trivial, trivial⟩
    · intro hlate
      have hzero := (hheartbeat trivial trivial).resolve_left (not_le.mpr hlate)
      exact ⟨trivial, hzero.symm⟩
    · intro hlate
      have hzero := (htimeout trivial trivial).resolve_left (not_le.mpr hlate)
      exact ⟨hzero.symm, trivial⟩
    · exact fun hlate => absurd hlate (lt_irrefl 0)
  · intro hright
    constructor
    · intro hfailed hfailed'
      simp only [hfailed, hfailed', Bool.false_eq_true, if_false, if_true] at hright
      by_cases hlate : q.freshnessMinutes "device_heartbeat" ≤ 0
      · exact Or.inl hlate
      · exact Or.inr (hright (not_le.mp hlate)).1.symm
    · intro hfailed hfailed'
      simp only [hfailed, hfailed', Bool.false_eq_true, if_false, if_true] at hright
      by_cases hpos : 0 ≤ q.timeoutThreshold
      · exact Or.inl hpos
      · exact Or.inr (hright (not_le.mp hpos)).2.symm

theorem payload_of_mem_offlineIssues {issue : Issue} (hissue : issue ∈ offlineIssues deviceId q) :
    issue.event.eventType = "device_offline" ∧
      issue.event.payload = .obj [("minutes_since_seen",
        .float (q.freshnessMinutes "device_heartbeat")),
        ("timeout_threshold", .float q.timeoutThreshold)] := by
  simp only [offlineIssues, List.mem_ite_nil_right, List.mem_singleton] at hissue
  rw [hissue.2]
  exact ⟨rfl, rfl⟩

/-- An event of the type comes from the first section. -/
theorem mem_offlineIssues_of_eventType {issue : Issue} (hissue : issue ∈ deviceIssues deviceId q)
    (htype : issue.event.eventType = "device_offline") : issue ∈ offlineIssues deviceId q := by
  simp only [deviceIssues, List.mem_append, List.mem_flatMap] at hissue
  rcases hissue with (((hissue | hissue) | hissue) | hissue) | ⟨check, -, hissue⟩
  · exact hissue
  all_goals
    simp only [batteryIssues, supplyIssues, statusIssues, staleIssues, List.mem_ite_nil_right,
      List.mem_singleton] at hissue
    rw [hissue.2] at htype
  · by_cases hcritical : q.battery < 5 <;> simp [hcritical] at htype
  all_goals simp at htype

/-- **False alarms, exactly.**  Failures only take events away, if and only if the timeout is
known when the age of the heartbeat is, or it does not matter. -/
theorem noFalseAlarms_iff (q : DeviceAnswers) (failed : Query → Bool) (hdevice : deviceId ≠ "") :
    NoFalseAlarms deviceId q failed ↔ TimeoutKnown q failed := by
  unfold NoFalseAlarms emittedEvents
  rw [issues_deviceHealthCheck hdevice, issues_deviceHealthCheck hdevice, timeoutKnown_iff]
  constructor
  · intro hsubset hlate
    have hraised : ∃ issue ∈ offlineIssues deviceId (q.failing failed), True := by
      simp [offlineIssues, hlate]
    obtain ⟨issue, hissue, -⟩ := hraised
    have hmem : issue ∈ deviceIssues deviceId (q.failing failed) := by simp [deviceIssues, hissue]
    obtain ⟨issue', hissue', hevent⟩ := List.mem_map.mp (hsubset (List.mem_map_of_mem hmem))
    obtain ⟨htype, hpayload⟩ := payload_of_mem_offlineIssues hissue
    obtain ⟨-, hpayload'⟩ := payload_of_mem_offlineIssues
      (mem_offlineIssues_of_eventType hissue' (hevent ▸ htype))
    rw [hevent, hpayload] at hpayload'
    simp only [Json.obj.injEq, List.cons.injEq, Prod.mk.injEq, Json.float.injEq, true_and,
      and_true] at hpayload'
    exact ⟨hpayload'.2, hpayload'.1⟩
  · intro hright event hevent
    obtain ⟨issue, hissue, rfl⟩ := List.mem_map.mp hevent
    apply List.mem_map_of_mem
    simp only [deviceIssues, List.mem_append, List.mem_flatMap] at hissue ⊢
    rcases hissue with (((hissue | hissue) | hissue) | hissue) | ⟨check, hcheck, hissue⟩
    · -- both values are right, so the section does the same
      have hlate := hissue
      simp only [offlineIssues, List.mem_ite_nil_right] at hlate
      obtain ⟨htimeout, hheartbeat⟩ := hright hlate.1
      rw [offlineIssues, htimeout, hheartbeat] at hissue
      exact Or.inl (Or.inl (Or.inl (Or.inl hissue)))
    · exact Or.inl (Or.inl (Or.inl (Or.inr (batteryIssues_failing hissue))))
    · exact Or.inl (Or.inl (Or.inr (supplyIssues_failing hissue)))
    · exact Or.inl (Or.inr (statusIssues_failing hissue))
    · exact Or.inr ⟨check, hcheck, staleIssues_failing hcheck hissue⟩

end

/-! ### A device that is online -/

/-- A heartbeat of a minute ago, with a timeout of 15. -/
def online : DeviceAnswers where
  timeoutThreshold := 15
  freshnessMinutes _ := 1
  batteryLowThreshold := 20
  battery := 50
  waterRefill := 0
  status := "active"

/-- Failures of the battery queries raise nothing. -/
theorem noFalseAlarms_battery : NoFalseAlarms "dev" online fun query =>
    decide (query = .battery ∨ query = .batteryLowThreshold) :=
  (noFalseAlarms_iff online _ (by decide)).mpr ⟨by decide, by decide⟩

/-- If only the query of the timeout fails, the device is reported offline. -/
theorem not_noFalseAlarms_timeout : ¬ NoFalseAlarms "dev" online fun query =>
    decide (query = .timeoutThreshold) := by
  intro hsubset
  have hlength := List.eq_nil_of_subset_nil (hsubset : emittedEvents _ _ ⊆ [])
  exact absurd (congrArg List.length hlength) (by decide +kernel)

end OroEdge.Jobs
