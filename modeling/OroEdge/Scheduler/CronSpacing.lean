import OroEdge.Scheduler.CronConfig

/-!
# The spacing of the cron lines

The line of a job should start it every `intervalSeconds`: the instants that its pattern
matches are this far apart, for an interval of whole minutes that divides a week.

A step of minutes starts anew with every hour.  So the property holds for the intervals
that divide an hour, and for a day and a week, which have patterns of their own
(`linePattern_spaced_iff`).

The instants of a pattern are a set of seconds of local time, and "every so many seconds" is
evenness of that set (`Spaced`).  Cron evaluates patterns in local time, so the statement is
about local time, too.

Each pattern is first turned into a congruence (`matchedInstant_minute_iff` and the others): the
start of each minute, of each hour, of each day, of each Sunday.  An even set of that kind is
read off its congruence.  For a step, the set is that of the minutes of an hour that the step
divides.  Within the hour they are the step apart, and from the last of them to the next full
hour there is what is left of the hour; so the set is even if and only if nothing is left
(`spaced_step_iff`).
-/

namespace OroEdge.Scheduler

open OroEdge.Lib

/-- The pattern in the line of a job, if it has one. -/
def linePattern (job : JobDefinition) : Option Cron.Pattern :=
  if job.enabled then some (cronPattern job.intervalSeconds) else none

/-- The text of a line has the pattern in front of the command. -/
theorem cronEntry_of_linePattern {job : JobDefinition} {p : Cron.Pattern}
    (hline : linePattern job = some p) (binaryPath : String) :
    ∃ comment, cronEntry binaryPath job =
      comment ++ p.render ++ " root " ++ binaryPath ++ " --run " ++ job.name ++ "\n\n" := by
  unfold linePattern at hline
  split_ifs at hline with henabled
  cases hline
  exact ⟨_, if_pos henabled⟩

/-- The second of local time at which a minute starts that the pattern matches. -/
def MatchedInstant (p : Cron.Pattern) (second : ℤ) : Prop :=
  second % 60 = 0 ∧ p.fires (second * secondMicros)

/-- The intervals that the translation assumes to be in whole minutes, up to a week. -/
structure WeekInterval (intervalSeconds : ℤ) : Prop where
  pos : 0 < intervalSeconds
  minutes : 60 ∣ intervalSeconds
  week : intervalSeconds ∣ 604800

/-! ## The instants of each pattern -/

theorem matchedInstant_iff (p : Cron.Pattern) (second : ℤ) :
    MatchedInstant p second ↔ second % 60 = 0 ∧ p.fires (second / 60 * minuteMicros) := by
  unfold MatchedInstant
  refine and_congr_right fun hsecond => ?_
  have hmicros : second * secondMicros = second / 60 * minuteMicros := by
    unfold secondMicros minuteMicros
    omega
  rw [hmicros]

theorem matchedInstant_every_iff (n : ℕ) (second : ℤ) :
    MatchedInstant ⟨.every n, .any, .any, .any, .any⟩ second ↔
      second % 60 = 0 ∧ (n : ℤ) ∣ second / 60 % 60 := by
  rw [matchedInstant_iff, Cron.Pattern.fires_minute, Int.dvd_iff_emod_eq_zero]
  simp [Cron.Field.matches]

theorem matchedInstant_minute_iff (second : ℤ) :
    MatchedInstant (cronPattern 60) second ↔ 60 ∣ second - 0 := by
  rw [matchedInstant_iff, Cron.Pattern.fires_minute, sub_zero, Int.dvd_iff_emod_eq_zero]
  exact and_iff_left (by simp [cronPattern])

theorem matchedInstant_hour_iff (second : ℤ) :
    MatchedInstant (cronPattern 3600) second ↔ 3600 ∣ second - 0 := by
  rw [matchedInstant_iff, Cron.Pattern.fires_minute]
  simp [cronPattern]
  omega

theorem matchedInstant_day_iff (second : ℤ) :
    MatchedInstant (cronPattern 86400) second ↔ 86400 ∣ second - 0 := by
  rw [matchedInstant_iff, Cron.Pattern.fires_minute]
  simp [cronPattern]
  omega

/-- Days are numbered from a Thursday on. -/
theorem matchedInstant_week_iff (second : ℤ) :
    MatchedInstant (cronPattern 604800) second ↔ 604800 ∣ second - 259200 := by
  rw [matchedInstant_iff, Cron.Pattern.fires_minute]
  simp [cronPattern]
  omega

/-- An interval without a pattern of its own. -/
theorem cronPattern_step {minutes : ℕ} (hpos : 0 < minutes) (h1 : minutes ≠ 1)
    (h60 : minutes ≠ 60) (h1440 : minutes ≠ 1440) (h10080 : minutes ≠ 10080) :
    cronPattern (60 * minutes) = ⟨.every minutes, .any, .any, .any, .any⟩ := by
  have hcron : cronMinutes (60 * minutes) = minutes := by
    unfold cronMinutes
    rw [Int.mul_tdiv_cancel_left _ (by decide)]
    exact if_neg (by omega)
  unfold cronPattern
  rw [if_neg (by omega), if_neg (by omega), if_neg (by omega), if_neg (by omega), hcron,
    Int.toNat_natCast]

/-- A step that divides the hour goes on over the hours. -/
theorem matchedInstant_step_iff {minutes : ℕ} (hhour : (minutes : ℤ) ∣ 60) (second : ℤ) :
    MatchedInstant ⟨.every minutes, .any, .any, .any, .any⟩ second ↔
      60 * (minutes : ℤ) ∣ second - 0 := by
  rw [matchedInstant_every_iff, sub_zero, Int.dvd_iff_emod_eq_zero,
    Int.emod_emod_of_dvd _ hhour, ← Int.dvd_iff_emod_eq_zero]
  constructor
  · rintro ⟨hminute, hdvd⟩
    rw [← Int.mul_ediv_cancel' hminute]
    exact mul_dvd_mul_left 60 (Int.dvd_of_emod_eq_zero hdvd)
  · rintro ⟨quotient, rfl⟩
    have hassoc : 60 * (minutes : ℤ) * quotient = 60 * (minutes * quotient) := mul_assoc _ _ _
    rw [hassoc, Int.mul_ediv_cancel_left _ (by decide), Int.mul_emod_right]
    exact ⟨dvd_mul_right _ _, rfl⟩

/-! ## Main theorem -/

/-- A step starts anew with the hour: it is evenly spaced only if it divides the hour. -/
theorem spaced_step_iff {minutes : ℕ} (hpos : 0 < minutes) :
    Spaced (MatchedInstant ⟨.every minutes, .any, .any, .any, .any⟩) (60 * minutes) ↔
      60 * (minutes : ℤ) ∣ 3600 := by
  constructor
  · intro hspaced
    have hstart : MatchedInstant ⟨.every minutes, .any, .any, .any, .any⟩ 0 :=
      (matchedInstant_every_iff minutes 0).mpr ⟨rfl, dvd_zero _⟩
    have hhour : MatchedInstant ⟨.every minutes, .any, .any, .any, .any⟩ 3600 :=
      (matchedInstant_every_iff minutes 3600).mpr ⟨rfl, dvd_zero _⟩
    exact hspaced.dvd_sub (by omega) hstart hhour (by decide)
  · intro hdvd
    have hhour : (minutes : ℤ) ∣ 60 :=
      Int.dvd_of_mul_dvd_mul_left (by decide : (60 : ℤ) ≠ 0) hdvd
    exact spaced_of_iff_dvd (matchedInstant_step_iff hhour)

/-- **The spacing of a cron line, exactly.**  The instants of the line of an enabled job are its
interval apart if and only if the interval divides an hour, or is a day or a week. -/
theorem linePattern_spaced_iff (job : JobDefinition) (p : Cron.Pattern)
    (hline : linePattern job = some p) (hinterval : WeekInterval job.intervalSeconds) :
    Spaced (MatchedInstant p) job.intervalSeconds ↔
      job.intervalSeconds ∣ 3600 ∨ job.intervalSeconds = 86400 ∨
        job.intervalSeconds = 604800 := by
  obtain rfl : cronPattern job.intervalSeconds = p := by
    unfold linePattern at hline
    split_ifs at hline
    exact Option.some.inj hline
  obtain ⟨hpos, ⟨minutes, hminutes⟩, -⟩ := hinterval
  lift minutes to ℕ using by omega
  rw [hminutes] at hpos ⊢
  by_cases h1 : minutes = 1
  · rw [h1]
    exact iff_of_true (spaced_of_iff_dvd matchedInstant_minute_iff) (Or.inl (by decide))
  by_cases h60 : minutes = 60
  · rw [h60]
    exact iff_of_true (spaced_of_iff_dvd matchedInstant_hour_iff) (Or.inl (by decide))
  by_cases h1440 : minutes = 1440
  · rw [h1440]
    exact iff_of_true (spaced_of_iff_dvd matchedInstant_day_iff) (Or.inr (Or.inl rfl))
  by_cases h10080 : minutes = 10080
  · rw [h10080]
    exact iff_of_true (spaced_of_iff_dvd matchedInstant_week_iff) (Or.inr (Or.inr rfl))
  · rw [cronPattern_step (by omega) h1 h60 h1440 h10080, spaced_step_iff (by omega)]
    constructor
    · exact Or.inl
    · rintro (hdvd | hday | hweek)
      · exact hdvd
      · omega
      · omega

/-- `overdue_task_checker`, every fifteen minutes. -/
theorem linePattern_spaced_fifteen :
    Spaced (MatchedInstant ⟨.every 15, .any, .any, .any, .any⟩) 900 :=
  (linePattern_spaced_iff ⟨"overdue_task_checker", "Overdue Task Checker", .high, 900, true⟩ _ rfl
    ⟨by decide, by decide, by decide⟩).mpr (Or.inl (by decide))

/-- **Failing input.**  The line of a job with an interval of two hours starts it every hour. -/
theorem not_linePattern_spaced_twoHours :
    linePattern ⟨"data_cleanup", "Data Cleanup", .low, 7200, true⟩ =
        some ⟨.every 120, .any, .any, .any, .any⟩ ∧
      WeekInterval 7200 ∧ MatchedInstant ⟨.every 120, .any, .any, .any, .any⟩ 0 ∧
      MatchedInstant ⟨.every 120, .any, .any, .any, .any⟩ 3600 ∧
      ¬ Spaced (MatchedInstant ⟨.every 120, .any, .any, .any, .any⟩) 7200 := by
  have hstart : MatchedInstant ⟨.every 120, .any, .any, .any, .any⟩ 0 := ⟨rfl, by decide⟩
  have hhour : MatchedInstant ⟨.every 120, .any, .any, .any, .any⟩ 3600 := ⟨rfl, by decide⟩
  refine ⟨rfl, ⟨by decide, by decide, by decide⟩, hstart, hhour, fun hspaced => ?_⟩
  exact hspaced.between 0 3600 hstart (by decide) (by decide) hhour

end OroEdge.Scheduler
