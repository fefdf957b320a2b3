import OroEdge.Jobs.WeeklyTotals
import Mathlib.Algebra.BigOperators.Group.List.Basic
import Mathlib.Algebra.Order.BigOperators.Group.List
import Mathlib.Algebra.Order.Ring.Rat

/-!
# Weekly averages

An average in the weekly payload should be the mean of the numbers that the daily payloads
have for it, and be left out if they have none (`Averages`).

Only the days that have the number are added up, and the sum is divided by the number of
all payloads that could be read.  So the averages are right exactly if every payload has
the number, or if the numbers add up to zero, where the divisor does not matter
(`weeklyAverages_iff`).

The loop adds numbers and counts payloads, and `Added` says what it has after some of them: the
sum of the numbers that are there, and the number of all that could be read.  The average is the
quotient, and so the theorem is about one sum divided by two numbers (`averages_iff`): it is the
mean with the right divisor, and with another one only if the sum is zero.  That a mean lies
between two of its numbers is `mean_between`, by the least and the greatest of them.
-/

namespace OroEdge.Jobs

open OroEdge.Lib

/-! ## The property -/

/-- The number that a payload has for a key; a missing key and null are none. -/
def numberAt (key : String) (p : Json) : Option ℚ :=
  match p.get? key with
  | none => none
  | some .null => none
  | some inner => inner.asDouble

/-- The numbers that the payloads of a week have. -/
def numbersAt (key : String) (payloads : List (Option Json)) : List ℚ :=
  payloads.filterMap fun payload => payload.bind (numberAt key)

/-- An entry is the mean of some numbers, and lies between two of them; there is none if
there are no numbers. -/
def Averages (numbers : List ℚ) (entry : Option Json) : Prop :=
  ∀ inner, entry = some inner → ∃ mean, inner = .float mean ∧ numbers ≠ [] ∧
    mean = numbers.sum / numbers.length ∧
    (∃ low ∈ numbers, low ≤ mean) ∧ ∃ high ∈ numbers, mean ≤ high

/-- The weekly payload of the rows of the days; `none` is an exception. -/
def weeklyPayloadOf (payloads : List (Option Json)) : Option Json :=
  (addDays .zero payloads).map (weeklyPayload payloads.length)

/-- Every payload that can be read has the number, or those that have it add up to zero. -/
def CountsRight (key : String) (payloads : List (Option Json)) : Prop :=
  (∀ p, some p ∈ payloads → (numberAt key p).isSome) ∨
    (numbersAt key payloads ≠ [] ∧ (numbersAt key payloads).sum = 0)

/-- What the generator stores. -/
theorem weekly_weeklyPayloadOf {deviceId : String} {w : WeeklyWindow} {db : SummaryDb}
    {payload : Json} (hdevice : deviceId ≠ "")
    (hnew : db.summaries.hasWeekly deviceId w.weekStartDate = false)
    (hrows : db.summaries.fetchWeek deviceId w.weekStartDate w.weekEndDate ≠ [])
    (hpayload : weeklyPayloadOf ((db.summaries.fetchWeek deviceId w.weekStartDate
      w.weekEndDate).map fun row => some row.payload.json) = some payload) :
    (weeklyPetSummaryGenerator deviceId w db).summaries.weekly = db.summaries.weekly ++
      [⟨deviceId, w.weekStartUtc, w.weekEndUtc, w.weekStartDate, payload⟩] := by
  obtain ⟨sums, hsums, rfl⟩ := Option.map_eq_some_iff.mp hpayload
  have hsums : weekSums deviceId w db.summaries = some sums := hsums
  unfold weeklyPetSummaryGenerator
  rw [if_neg hdevice, hnew, if_neg Bool.false_ne_true, if_neg (mt List.length_eq_zero_iff.mp hrows),
    hsums]
  rw [SummaryTable.weekly_insertWeekly hnew, List.length_map]

/-! ## What is added up -/

theorem presentDouble_eq {p : Json} {key : String} {q : ℚ} (hq : presentDouble p key = some q) :
    q = (numberAt key p).toList.sum := by
  unfold presentDouble at hq
  unfold numberAt
  cases hget : p.get? key with
  | none =>
      rw [hget] at hq
      cases hq
      rfl
  | some inner =>
      rw [hget] at hq
      cases inner with
      | null =>
          cases hq
          rfl
      | _ => simp_all

/-- The sums after some payloads, as far as the averages go. -/
structure Added (payloads : List (Option Json)) (sums sums' : WeeklySums) : Prop where
  days : sums'.daysWithData = sums.daysWithData + (payloads.filterMap id).length
  temp : sums'.sumTemp = sums.sumTemp + (numbersAt "temperature_avg_c" payloads).sum
  battery : sums'.sumBattery = sums.sumBattery + (numbersAt "battery_min_pct" payloads).sum

theorem added_addDay {sums sums' : WeeklySums} {payload : Option Json}
    (hday : addDay sums payload = some sums') : Added [payload] sums sums' := by
  cases payload with
  | none =>
      cases hday
      exact ⟨rfl, (add_zero _).symm, (add_zero _).symm⟩
  | some p =>
      simp only [addDay, Option.bind_eq_bind, Option.bind_eq_some_iff, Option.pure_def,
        Option.some.injEq] at hday
      obtain ⟨food, -, treats, -, meals, -, treatCount, -, highEv, -, overdue, -, offline, -,
        temp, htemp, battery, hbattery, rfl⟩ := hday
      have hnumbers (key : String) :
          (numbersAt key [some p]).sum = (numberAt key p).toList.sum := by
        unfold numbersAt
        cases hnumber : numberAt key p <;> simp [hnumber]
      refine ⟨rfl, ?_, ?_⟩
      · rw [hnumbers, ← presentDouble_eq htemp]
      · rw [hnumbers, ← presentDouble_eq hbattery]

theorem added_addDays {sums sums' : WeeklySums} {payloads : List (Option Json)}
    (hdays : addDays sums payloads = some sums') : Added payloads sums sums' := by
  induction payloads generalizing sums with
  | nil =>
      cases hdays
      exact ⟨rfl, (add_zero _).symm, (add_zero _).symm⟩
  | cons payload rest ih =>
      obtain ⟨mid, hday, hrest⟩ := Option.bind_eq_some_iff.mp hdays
      have hfirst := added_addDay hday
      have hrest := ih hrest
      have happend (key : String) : numbersAt key (payload :: rest) =
          numbersAt key [payload] ++ numbersAt key rest :=
        List.filterMap_append (l := [payload])
      have hlength : ((payload :: rest).filterMap id).length =
          ([payload].filterMap id).length + (rest.filterMap id).length := by
        rw [← List.length_append, ← List.filterMap_append, List.singleton_append]
      refine ⟨?_, ?_, ?_⟩
      · rw [hrest.days, hfirst.days, hlength, Nat.add_assoc]
      · rw [hrest.temp, hfirst.temp, happend, List.sum_append, add_assoc]
      · rw [hrest.battery, hfirst.battery, happend, List.sum_append, add_assoc]

/-! ## Means -/

theorem mean_between {numbers : List ℚ} (hne : numbers ≠ []) :
    (∃ low ∈ numbers, low ≤ numbers.sum / numbers.length) ∧
      ∃ high ∈ numbers, numbers.sum / numbers.length ≤ high := by
  have hpos : (0 : ℚ) < numbers.length := by
    exact_mod_cast List.length_pos_iff.mpr hne
  have hsame : (numbers.map fun _ => numbers.sum / (numbers.length : ℚ)).sum =
      (numbers.map id).sum := by
    rw [List.map_const', List.sum_replicate, List.map_id, nsmul_eq_mul,
      mul_div_cancel₀ _ hpos.ne']
  exact ⟨List.exists_le_of_sum_le hne _ _ hsame.ge, List.exists_le_of_sum_le hne _ _ hsame.le⟩

/-- A sum divided by a number of days is the mean only with the right divisor. -/
theorem averages_iff {numbers : List ℚ} {days : ℕ} (hle : numbers.length ≤ days) :
    Averages numbers (if 0 < days then some (.float (numbers.sum / days)) else none) ↔
      numbers.length = days ∨ (numbers ≠ [] ∧ numbers.sum = 0) := by
  by_cases hdays : 0 < days
  · rw [if_pos hdays]
    have hdays' : (days : ℚ) ≠ 0 := by exact_mod_cast hdays.ne'
    constructor
    · intro haverages
      obtain ⟨mean, hmean, hne, heq, -⟩ := haverages _ rfl
      cases hmean
      have hlength : (numbers.length : ℚ) ≠ 0 := by
        exact_mod_cast (List.length_pos_iff.mpr hne).ne'
      by_cases hsum : numbers.sum = 0
      · exact Or.inr ⟨hne, hsum⟩
      · left
        rw [div_eq_div_iff hdays' hlength] at heq
        exact_mod_cast mul_left_cancel₀ hsum heq
    · intro hright inner hinner
      cases hinner
      have hne : numbers ≠ [] := by
        rcases hright with hlength | ⟨hne, -⟩
        · exact List.length_pos_iff.mp (hlength ▸ hdays)
        · exact hne
      have heq : numbers.sum / days = numbers.sum / numbers.length := by
        rcases hright with hlength | ⟨-, hsum⟩
        · rw [hlength]
        · rw [hsum, zero_div, zero_div]
      refine ⟨_, rfl, hne, heq, ?_⟩
      rw [heq]
      exact mean_between hne
  · rw [if_neg hdays]
    refine iff_of_true (fun inner hinner => by cases hinner) (Or.inl ?_)
    omega

/-! ## Main theorem -/

/-- Each number comes from a payload that can be read. -/
theorem length_numbersAt (key : String) (payloads : List (Option Json)) :
    (numbersAt key payloads).length ≤ (payloads.filterMap id).length ∧
      ((numbersAt key payloads).length = (payloads.filterMap id).length ↔
        ∀ p, some p ∈ payloads → (numberAt key p).isSome) := by
  have hnumbers : numbersAt key payloads =
      ((payloads.filterMap id).filterMap (numberAt key)) := by
    unfold numbersAt
    rw [List.filterMap_filterMap]
    rfl
  rw [hnumbers]
  refine ⟨List.length_filterMap_le _ _, ?_⟩
  rw [List.length_filterMap_eq_countP, List.countP_eq_length]
  simp

/-- The two averages of the weekly payload, or their places. -/
theorem get?_weeklyPayload (dailyCount : ℕ) (sums : WeeklySums) :
    (weeklyPayload dailyCount sums).get? "avg_temperature_avg_c" =
        (if 0 < sums.daysWithData then some (.float (sums.sumTemp / sums.daysWithData)) else none) ∧
      (weeklyPayload dailyCount sums).get? "avg_battery_min_pct" =
        (if 0 < sums.daysWithData then some (.float (sums.sumBattery / sums.daysWithData))
          else none) := by
  by_cases hdays : 0 < sums.daysWithData
  · rw [if_pos hdays, if_pos hdays]
    have hnodup := nodup_keys_weekly dailyCount sums
    constructor
    · refine Json.get?_ofFields_of_mem hnodup (List.mem_append_right _ ?_)
      rw [if_pos hdays]
      exact List.mem_cons_self
    · refine Json.get?_ofFields_of_mem hnodup (List.mem_append_right _ ?_)
      rw [if_pos hdays]
      exact List.mem_cons_of_mem _ List.mem_cons_self
  · rw [if_neg hdays, if_neg hdays]
    constructor <;> refine Json.get?_ofFields_of_notMem ?_ <;> simp [weeklyUpdates, hdays]

/-- **The averages of a week, exactly.**  Both averages of a weekly payload are the means that they
should be, or left out as they should be, if and only if for each of the two either every
payload that can be read has the number, or the numbers that there are add up to zero. -/
theorem weeklyAverages_iff (payloads : List (Option Json)) (weekly : Json)
    (hweekly : weeklyPayloadOf payloads = some weekly) :
    (Averages (numbersAt "temperature_avg_c" payloads) (weekly.get? "avg_temperature_avg_c") ∧
        Averages (numbersAt "battery_min_pct" payloads) (weekly.get? "avg_battery_min_pct")) ↔
      CountsRight "temperature_avg_c" payloads ∧ CountsRight "battery_min_pct" payloads := by
  obtain ⟨sums, hsums, rfl⟩ := Option.map_eq_some_iff.mp hweekly
  have hadded := added_addDays hsums
  have hdays : sums.daysWithData = (payloads.filterMap id).length := by
    rw [hadded.days]
    exact Nat.zero_add _
  have htemp : sums.sumTemp = (numbersAt "temperature_avg_c" payloads).sum := by
    rw [hadded.temp]
    exact zero_add _
  have hbattery : sums.sumBattery = (numbersAt "battery_min_pct" payloads).sum := by
    rw [hadded.battery]
    exact zero_add _
  obtain ⟨hgetTemp, hgetBattery⟩ := get?_weeklyPayload payloads.length sums
  obtain ⟨hleTemp, heqTemp⟩ := length_numbersAt "temperature_avg_c" payloads
  obtain ⟨hleBattery, heqBattery⟩ := length_numbersAt "battery_min_pct" payloads
  rw [hgetTemp, hgetBattery, htemp, hbattery, hdays, averages_iff hleTemp,
    averages_iff hleBattery, heqTemp, heqBattery]
  rfl

/-- Two days of readings. -/
def twoDays : List (Option Json) :=
  [some (.obj [("temperature_avg_c", .float 20), ("battery_min_pct", .float 80)]),
    some (.obj [("temperature_avg_c", .float 22), ("battery_min_pct", .float 70)])]

/-- A day whose sensors were off among them. -/
def threeDays : List (Option Json) := some (.obj [("meal_count", .int 2)]) :: twoDays

theorem weeklyAverages_twoDays : ∃ weekly, weeklyPayloadOf twoDays = some weekly ∧
    Averages (numbersAt "temperature_avg_c" twoDays) (weekly.get? "avg_temperature_avg_c") ∧
    Averages (numbersAt "battery_min_pct" twoDays) (weekly.get? "avg_battery_min_pct") := by
  have hright (key : String) (hall : twoDays.all fun payload =>
      ((payload.bind (numberAt key)).isSome) = true) : CountsRight key twoDays := by
    left
    intro p hp
    simpa using List.all_eq_true.mp hall (some p) hp
  refine ⟨_, rfl, (weeklyAverages_iff twoDays _ rfl).mpr ⟨hright _ ?_, hright _ ?_⟩⟩
  · decide +kernel
  · decide +kernel

/-- **Failing input.**  Two days of 20 and 22 degrees, and a day without readings: the average of
the week is 14 degrees. -/
theorem not_weeklyAverages : ∃ weekly, weeklyPayloadOf threeDays = some weekly ∧
    weekly.get? "avg_temperature_avg_c" = some (.float 14) ∧
    ¬ Averages (numbersAt "temperature_avg_c" threeDays)
      (weekly.get? "avg_temperature_avg_c") := by
  have hsums : addDays .zero threeDays = some ⟨3, 0, 0, 2, 0, 0, 0, 0, 42, 150⟩ := by
    decide +kernel
  have hnumbers : numbersAt "temperature_avg_c" threeDays = [20, 22] := by decide +kernel
  have hget : (weeklyPayload 3 ⟨3, 0, 0, 2, 0, 0, 0, 0, 42, 150⟩).get? "avg_temperature_avg_c" =
      some (.float 14) := by
    rw [(get?_weeklyPayload 3 _).1, if_pos (by decide)]
    norm_num
  refine ⟨_, by rw [weeklyPayloadOf, hsums]; rfl, hget, fun haverages => ?_⟩
  obtain ⟨mean, hmean, -, -, ⟨low, hlow, hle⟩, -⟩ := haverages _ hget
  cases hmean
  rw [hnumbers] at hlow
  have hcases : low = 20 ∨ low = 22 := by simpa using hlow
  rcases hcases with rfl | rfl <;> exact absurd hle (by decide +kernel)

end OroEdge.Jobs
