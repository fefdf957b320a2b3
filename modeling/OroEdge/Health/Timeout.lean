import Mathlib.Tactic.Linarith
import Mathlib.Tactic.NormNum
import OroEdge.Health.Monitor
import OroEdge.Jobs.Device

/-!
# The communication timeout, from producer to checker

`update_timeout_config` takes a threshold in seconds and writes it, with the unit
"seconds", as a `communication_timeout_threshold` row.  `device_health_check` should report
a device as offline if its last heartbeat is older than the threshold, and with severity
"high" if it is older than twice the threshold (`KeepsUnit`).

The checker compares the number with an age in minutes.  The two readings of a threshold
agree on ages up to the threshold in seconds, and beyond twice the threshold in minutes,
and on no others (`keepsUnit_iff`).

The theorem compares two verdicts about one age.  On the side of the producer, a call that
changes the threshold adds a row with its number (`timeoutRows_of_changes`), and `Configured`
makes it the newest of its type; on the side of the checker the query for the threshold returns
just that row (`Configured.threshold_eq`), whatever it may do with equal times, and the verdict
is given by a comparison of minutes (`verdicts`).

What is left is arithmetic of an age against `t` and `2 t`, in seconds and in minutes
(`outsideBand_iff`).  The two intervals on which the readings agree are what `OutsideBand` says.
-/

namespace OroEdge.Health

open OroEdge.Lib OroEdge.Storage OroEdge.Jobs

/-! ## The property -/

/-- The rows that a call of `update_timeout_config` adds. -/
def timeoutRows (m : HealthMonitor) (threshold : ℚ) (componentName configuredBy : String)
    (set : ℕ) : List Signal :=
  (m.updateTimeoutConfig threshold componentName configuredBy set).2.map emitSignal

/-- The table after a call that changes the stored threshold, at the time `set`: its row is
the newest of its type, and other rows may have been stored before and since. -/
structure Configured (m : HealthMonitor) (threshold : ℚ) (componentName configuredBy : String)
    (set : ℕ) (rows : List Signal) : Prop where
  changes : (m.updateTimeoutConfig threshold componentName configuredBy set).1.timeoutConfig ≠
    m.timeoutConfig
  stored : ∃ earlier later,
    rows = earlier ++ timeoutRows m threshold componentName configuredBy set ++ later ∧
      ∀ row ∈ signalsOf deviceId "communication_timeout_threshold" (earlier ++ later),
        row.observedAt < unixMsToMicros set

/-- The time of the latest heartbeat. -/
def lastHeartbeat (rows : List Signal) : Option ℤ :=
  ((signalsOf deviceId "device_heartbeat" rows).map Signal.observedAt).max?

/-- The seconds from `last` to `now`. -/
def ageSeconds (last now : ℤ) : ℚ := ((now - last : ℤ) : ℚ) / 1000000

/-- A check at the time `now` takes the threshold for seconds, whatever the queries may
return. -/
def KeepsUnit (threshold : ℚ) (rows : List Signal) (now : String → ℤ) : Prop :=
  ∀ last ∈ lastHeartbeat rows, ∀ status q, Answers ⟨rows, status⟩ deviceId now q →
    ((deviceHealthCheck deviceId q).Emits "device_offline" ↔
        threshold < ageSeconds last (now "device_heartbeat")) ∧
      ((deviceHealthCheck deviceId q).EmitsAs "device_offline" "high" ↔
        2 * threshold < ageSeconds last (now "device_heartbeat"))

/-! ## The condition -/

/-- No age between the threshold in seconds and twice the threshold in minutes; for a
negative threshold, none between the threshold in minutes and in seconds. -/
def OutsideBand (threshold age : ℚ) : Prop :=
  if 0 ≤ threshold then age ≤ threshold ∨ 120 * threshold < age
  else age ≤ 60 * threshold ∨ threshold < age

instance (threshold age : ℚ) : Decidable (OutsideBand threshold age) :=
  inferInstanceAs (Decidable (ite _ _ _))

/-- Seconds and minutes give the same verdicts. -/
theorem outsideBand_iff (threshold age : ℚ) : OutsideBand threshold age ↔
    (threshold < age / 60 ↔ threshold < age) ∧
      ((threshold < age / 60 ∧ threshold * 2 < age / 60) ↔ 2 * threshold < age) := by
  have hminutes : ∀ t : ℚ, t < age / 60 ↔ t * 60 < age := fun t => lt_div_iff₀ (by norm_num)
  rw [hminutes, hminutes, OutsideBand]
  split
  · rename_i hpos
    constructor
    · rintro (hyoung | hold)
      · exact ⟨iff_of_false (by linarith) (by linarith),
          iff_of_false (fun h => by linarith [h.1]) (by linarith)⟩
      · exact ⟨iff_of_true (by linarith) (by linarith),
          iff_of_true ⟨by linarith, by linarith⟩ (by linarith)⟩
    · rintro ⟨hoffline, hhigh⟩
      by_contra hband
      obtain ⟨hyoung, hold⟩ := not_or.mp hband
      have hlate := hoffline.mpr (not_le.mp hyoung)
      have htwice := (hhigh.mpr (by linarith)).2
      linarith
  · rename_i hneg
    constructor
    · rintro (hyoung | hold)
      · exact ⟨iff_of_false (by linarith) (by linarith),
          iff_of_false (fun h => by linarith [h.1]) (by linarith)⟩
      · exact ⟨iff_of_true (by linarith) (by linarith),
          iff_of_true ⟨by linarith, by linarith⟩ (by linarith)⟩
    · rintro ⟨hoffline, -⟩
      by_contra hband
      obtain ⟨hyoung, hold⟩ := not_or.mp hband
      exact hold (hoffline.mp (by linarith))

/-! ## What the checker compares -/

section

variable {m : HealthMonitor} {threshold : ℚ} {componentName configuredBy : String} {set : ℕ}
  {rows : List Signal}

theorem timeoutRows_of_changes
    (hchanges : (m.updateTimeoutConfig threshold componentName configuredBy set).1.timeoutConfig ≠
      m.timeoutConfig) :
    ∃ row, timeoutRows m threshold componentName configuredBy set = [row] ∧
      row.deviceId = deviceId ∧ row.signalType = "communication_timeout_threshold" ∧
      row.valueNumeric = some threshold ∧ row.observedAt = unixMsToMicros set := by
  unfold timeoutRows HealthMonitor.updateTimeoutConfig at *
  split
  · exact ⟨_, rfl, rfl, rfl, rfl, rfl⟩
  · rename_i hclose
    rw [if_neg hclose] at hchanges
    exact absurd rfl hchanges

/-- The checker is told the threshold that was set. -/
theorem Configured.threshold_eq
    (hconfigured : Configured m threshold componentName configuredBy set rows)
    {status : Option String} {now : String → ℤ} {q : DeviceAnswers}
    (hanswers : Answers ⟨rows, status⟩ deviceId now q) : q.timeoutThreshold = threshold := by
  obtain ⟨earlier, later, hrows, hnewest⟩ := hconfigured.stored
  obtain ⟨row, hwritten, hdevice, htype, hvalue, hset⟩ :=
    timeoutRows_of_changes hconfigured.changes
  have hsplit : signalsOf deviceId "communication_timeout_threshold" rows =
      signalsOf deviceId "communication_timeout_threshold" earlier ++
        row :: signalsOf deviceId "communication_timeout_threshold" later := by
    rw [hrows, hwritten]
    simp [signalsOf, hdevice, htype]
  have hothers : ∀ other ∈ signalsOf deviceId "communication_timeout_threshold" rows,
      other ≠ row → other.observedAt < row.observedAt := by
    intro other hother hne
    rw [hset]
    apply hnewest
    rw [hsplit] at hother
    rw [signalsOf, List.filter_append, List.mem_append]
    rcases List.mem_append.mp hother with hearlier | hlater
    · exact Or.inl hearlier
    · exact Or.inr ((List.mem_cons.mp hlater).resolve_left hne)
  have hmem : row ∈ signalsOf deviceId "communication_timeout_threshold" rows := by
    rw [hsplit]
    simp
  obtain ⟨answer, hlatest, hanswer⟩ := hanswers.timeoutThreshold
  rcases hlatest with ⟨hnone, -⟩ | ⟨latest, hlatest, rfl⟩
  · dsimp only at hnone
    rw [hnone] at hmem
    cases hmem
  · rw [hanswer, hlatest.eq_of_newest hmem hothers, hvalue]
    rfl

theorem freshness_heartbeat {last : ℤ} (hlast : last ∈ lastHeartbeat rows) (now : ℤ) :
    freshness now (signalsOf deviceId "device_heartbeat" rows) = ageSeconds last now / 60 := by
  have hmax : ((signalsOf deviceId "device_heartbeat" rows).map Signal.observedAt).max? =
      some last := hlast
  rw [freshness, hmax, ageSeconds, div_div]
  norm_num

/-- A check takes the threshold for minutes. -/
theorem verdicts (hconfigured : Configured m threshold componentName configuredBy set rows)
    {last : ℤ} (hlast : last ∈ lastHeartbeat rows) {status : Option String} {now : String → ℤ}
    {q : DeviceAnswers} (hanswers : Answers ⟨rows, status⟩ deviceId now q) :
    ((deviceHealthCheck deviceId q).Emits "device_offline" ↔
        threshold < ageSeconds last (now "device_heartbeat") / 60) ∧
      ((deviceHealthCheck deviceId q).EmitsAs "device_offline" "high" ↔
        threshold < ageSeconds last (now "device_heartbeat") / 60 ∧
          threshold * 2 < ageSeconds last (now "device_heartbeat") / 60) := by
  have hdevice : deviceId ≠ "" := by decide
  have hage := (hanswers.freshnessMinutes "device_heartbeat").trans
    (freshness_heartbeat hlast (now "device_heartbeat"))
  rw [emits_offline_iff hdevice, emitsAs_offline_high_iff hdevice, hage,
    hconfigured.threshold_eq hanswers]
  exact ⟨Iff.rfl, Iff.rfl⟩

/-- **The unit of the timeout, exactly.**  A check takes the threshold for seconds if and
only if the age of the last heartbeat lies outside the band between the two units. -/
theorem keepsUnit_iff (hconfigured : Configured m threshold componentName configuredBy set rows)
    {last : ℤ} (hlast : last ∈ lastHeartbeat rows) (now : String → ℤ) :
    KeepsUnit threshold rows now ↔
      OutsideBand threshold (ageSeconds last (now "device_heartbeat")) := by
  rw [outsideBand_iff]
  constructor
  · intro hkeeps
    obtain ⟨q, hanswers⟩ := exists_answers ⟨rows, none⟩ deviceId now
    obtain ⟨hoffline, hhigh⟩ := verdicts hconfigured hlast hanswers
    obtain ⟨hseconds, htwice⟩ := hkeeps last hlast none q hanswers
    exact ⟨hoffline.symm.trans hseconds, hhigh.symm.trans htwice⟩
  · rintro ⟨hseconds, htwice⟩ last' hlast' status q hanswers
    obtain rfl : last' = last := Option.mem_unique hlast' hlast
    obtain ⟨hoffline, hhigh⟩ := verdicts hconfigured hlast hanswers
    exact ⟨hoffline.trans hseconds, hhigh.trans htwice⟩

end

/-! ### A threshold of ten seconds -/

/-- A heartbeat at the start, and the threshold that is set a second later. -/
def tenSeconds : List Signal :=
  ⟨deviceId, some 71, "device_heartbeat", some 1, none, none, 0⟩ ::
    timeoutRows (.construct 0) 10 "default" "boot_default" 1000

theorem configured_tenSeconds :
    Configured (.construct 0) 10 "default" "boot_default" 1000 tenSeconds where
  changes := by decide +kernel
  stored := ⟨[⟨deviceId, some 71, "device_heartbeat", some 1, none, none, 0⟩], [],
    by simp [tenSeconds], by decide +kernel⟩

/-- Five seconds are short of either reading. -/
theorem keepsUnit_five_seconds : KeepsUnit 10 tenSeconds fun _ => 5000000 :=
  (keepsUnit_iff configured_tenSeconds (by decide +kernel : (0 : ℤ) ∈ lastHeartbeat tenSeconds)
    fun _ => 5000000).mpr (by decide +kernel)

/-- After a minute without a heartbeat the device is not reported. -/
theorem not_keepsUnit_one_minute : ¬ KeepsUnit 10 tenSeconds fun _ => 60000000 := by
  intro hkeeps
  have hlast : (0 : ℤ) ∈ lastHeartbeat tenSeconds := by decide +kernel
  obtain ⟨q, hanswers⟩ := exists_answers ⟨tenSeconds, none⟩ deviceId fun _ => 60000000
  have hiff := (hkeeps 0 hlast none q hanswers).1
  rw [(verdicts configured_tenSeconds hlast hanswers).1] at hiff
  exact absurd hiff (by decide +kernel)

end OroEdge.Health
