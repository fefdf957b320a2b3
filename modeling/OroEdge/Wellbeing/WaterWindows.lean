import OroEdge.Wellbeing.WaterIntake

/-!
# The windows of the water totals

The totals of the tank are to be those of calendar windows, of days, hours or minutes: a total
is made of the readings of one window, and its record carries the date of that window
(`AttributedRight`).

A window is recognised by a number that comes round again, and dated five seconds before the
next reading.  So the totals are attributed right exactly as long as no two readings in a row
have one number in different windows, and the reading that ends a window with some intake
comes before the clock, five seconds earlier, has shown another date (`attributedRight_iff`).

A record is written by the reading that ends a window, from the account of the readings before
it, so the property is checked at each reading against the one before (`recordsOf_handedOver`). 
Two things can be wrong there.  The unit may be the same in another window, and then the two
windows are one to the account; or the date, which is that of a time five seconds before the
reading, may be of the day after.  `Follows` is the conjunction of the two for neighbours, and
`GapsFit.isChain` makes a chain of them.

With a fixed offset the unit is a part of the number of the window (`FixedOffset.unitOf_eq`);
nothing is said of zones whose offset changes.
-/

namespace OroEdge.Wellbeing

open OroEdge.Lib DogWellbeingMonitor

/-! ## The property -/

section

variable (settings : Settings)

/-- The number of the day, hour or minute of a reading, on the local time line. -/
def windowOf (r : TankReading) : ℤ :=
  let wall := settings.clock.localtime (seconds r.2)
  if settings.aggregationWindow = "24h" then wall / 86400
  else if settings.aggregationWindow = "1h" then wall / 3600
  else wall / 60

/-- The local date of a window. -/
def windowDate (window : ℤ) : String :=
  let day :=
    if settings.aggregationWindow = "24h" then window
    else if settings.aggregationWindow = "1h" then window / 24
    else window / 1440
  (civilDate day).iso

/-- The date that a record carries. -/
def SignalRecord.date? (record : SignalRecord) : Option String :=
  match record.metadata with
  | .dumped json => (json.get? "date").bind Json.asString
  | .text _ => none

/-- The total after some of the calls is that of the readings of one window, the last, and a
record with a total carries the date of its window. -/
structure AttributedRight (calls : List Call) : Prop where
  totals : ∀ earlier, earlier <+: calls → ∀ last ∈ (tankReadings earlier).getLast?,
    currentWindow settings earlier =
      (tankReadings earlier).filter fun r => decide (windowOf settings r = windowOf settings last)
  records : ∀ earlier call later, calls = earlier ++ call :: later →
    ∀ record ∈ recordsOf "water_intake_per_day" (handedOver settings earlier call),
      record.signalValueNumeric = some (intake settings earlier) ∧
        ∃ last ∈ (tankReadings earlier).getLast?,
          record.date? = some (windowDate settings (windowOf settings last))

/-- Two readings in a row with one unit are of one window; and if a reading with another unit
finds some intake, then the clock has shown the date of the reading before it still five
seconds ago. -/
def Follows (intake : ℚ) (last r : TankReading) : Prop :=
  (unitOf settings last = unitOf settings r → windowOf settings last = windowOf settings r) ∧
    (unitOf settings last ≠ unitOf settings r → 0 < intake →
      settings.clock.date (seconds (sub64 r.2 5000)) = settings.clock.date (seconds last.2))

/-- Every reading follows the one before it. -/
def GapsFit (calls : List Call) : Prop :=
  ∀ earlier level now later, calls = earlier ++ .waterLevel level now :: later →
    ∀ last ∈ (tankReadings earlier).getLast?,
      Follows settings (intake settings earlier) last (level, now)

end

/-- The settings and the readings that the property is about. -/
structure FixedOffset (settings : Settings) (calls : List Call) : Prop where
  window : settings.aggregationWindow ∈ ["24h", "1h", "1m"]
  clock : ∃ offset, settings.clock = .fixed offset
  increasing : (tankReadings calls).Pairwise fun r r' => r.2 < r'.2

/-! ## Windows and units -/

section

variable {settings : Settings} {calls : List Call}

/-- The unit is a part of the number of the window. -/
theorem FixedOffset.unitOf_eq (hfixed : FixedOffset settings calls) {r r' : TankReading}
    (hsame : windowOf settings r = windowOf settings r') :
    unitOf settings r = unitOf settings r' := by
  have hwindow := hfixed.window
  simp only [List.mem_cons, List.not_mem_nil, or_false] at hwindow
  unfold windowOf at hsame
  unfold unitOf windowAndUnit LocalClock.secondOfDay LocalClock.day
  dsimp only at hsame ⊢
  rcases hwindow with hwindow | hwindow | hwindow <;> rw [hwindow] at hsame ⊢
  · simp only [if_true] at hsame ⊢
    rw [hsame]
  · simp only [reduceIte, String.reduceEq, or_self] at hsame ⊢
    omega
  · simp only [reduceIte, String.reduceEq, true_or] at hsame ⊢
    omega

theorem FixedOffset.windowOf_le (hfixed : FixedOffset settings calls) {r r' : TankReading}
    (hle : r.2 ≤ r'.2) : windowOf settings r ≤ windowOf settings r' := by
  obtain ⟨offset, hclock⟩ := hfixed.clock
  have hseconds : seconds r.2 + offset ≤ seconds r'.2 + offset := by
    unfold seconds
    omega
  unfold windowOf
  rw [hclock]
  dsimp only [LocalClock.fixed]
  split_ifs <;> omega

/-- The date of the window of a reading is the date of the reading. -/
theorem windowDate_windowOf (settings : Settings) (r : TankReading) :
    windowDate settings (windowOf settings r) = settings.clock.date (seconds r.2) := by
  unfold windowDate windowOf LocalClock.date LocalClock.day
  dsimp only
  split_ifs
  · rfl
  · congr 2
    omega
  · congr 2
    omega

end

/-! ## The records -/

section

variable (settings : Settings) (m : DogWellbeingMonitor)

theorem recordsOf_checkRefill (level : ℚ) (now : ℕ) :
    recordsOf "water_intake_per_day" (m.checkRefill settings level now).2 = [] := by
  unfold checkRefill
  dsimp only
  split_ifs <;> rfl

/-- A reading that resets the window writes its total, if there is one. -/
theorem recordsOf_updateWaterLevel (level : ℚ) (now : ℕ) :
    recordsOf "water_intake_per_day" (m.updateWaterLevel settings level now).2 =
      if Resets settings m (level, now) ∧ 0 < m.dailyWaterIntake then
        [waterIntakeRecord settings m now] else [] := by
  have hrolled : recordsOf "water_intake_per_day"
      (m.rollWindow settings (unitOf settings (level, now)) now).2 =
        if Resets settings m (level, now) ∧ 0 < m.dailyWaterIntake then
          [waterIntakeRecord settings m now] else [] := by
    unfold rollWindow
    by_cases hfirst : m.lastWaterDayYday = -1
    · rw [if_pos hfirst, if_neg fun h => h.1.1 hfirst]
      rfl
    rw [if_neg hfirst]
    by_cases hunit : unitOf settings (level, now) = m.lastWaterDayYday
    · rw [if_neg (not_not.mpr hunit), if_neg fun h => h.1.2 hunit]
      rfl
    · rw [if_pos hunit]
      by_cases hintake : 0 < m.dailyWaterIntake
      · rw [if_pos hintake, if_pos ⟨⟨hfirst, hunit⟩, hintake⟩]
        rfl
      · rw [if_neg hintake, if_neg fun h => hintake h.2]
        rfl
  rw [← hrolled]
  unfold updateWaterLevel
  dsimp only
  rw [recordsOf_append, recordsOf_checkRefill, List.append_nil]
  rfl

/-- Other calls write no total. -/
theorem recordsOf_of_not_tankReading {call : Call} (hcall : call.tankReading? = none) :
    recordsOf "water_intake_per_day" (m.call settings call).2 = [] := by
  refine List.filter_eq_nil_iff.mpr fun record hrecord htype => ?_
  have htype := of_decide_eq_true htype
  cases call with
  | bowlWeight bowlId weight now =>
      have htypes := types_updateBowlWeight settings bowlId weight now m record hrecord
      rw [htype] at htypes
      exact absurd htypes (by decide)
  | tick now previousMealsSum =>
      rw [DogWellbeingMonitor.call] at hrecord
      have htypes : record.signalType ∈ mealTypes := by
        rcases tick_cases settings now previousMealsSum m with ⟨-, htick⟩ | ⟨-, htick⟩ |
          ⟨-, htick⟩ | ⟨-, -, -, htick⟩ <;> rw [htick] at hrecord
        · cases hrecord
        · cases hrecord
        · exact types_verdict settings now previousMealsSum m record hrecord
        · cases hrecord
      rw [htype] at htypes
      exact absurd htypes (by decide)
  | waterLevel level now => cases hcall

end

/-! ## Every run -/

theorem date?_waterIntakeRecord (settings : Settings) (m : DogWellbeingMonitor) (now : ℕ) :
    (waterIntakeRecord settings m now).date? =
      some (settings.clock.date (seconds (sub64 now 5000))) := by
  simp [waterIntakeRecord, SignalRecord.date?, Json.get?, List.lookup_cons, Json.asString]

section

variable {settings : Settings} {calls earlier later : List Call} {level : ℚ} {now : ℕ}

/-- What a reading hands over about the total. -/
theorem recordsOf_handedOver : recordsOf "water_intake_per_day"
      (handedOver settings earlier (.waterLevel level now)) =
    if (∃ last ∈ (tankReadings earlier).getLast?,
        unitOf settings last ≠ unitOf settings (level, now)) ∧ 0 < intake settings earlier then
      [waterIntakeRecord settings (Node.after settings earlier).monitor now] else [] := by
  have haccounts := accounts_after settings earlier
  rw [handedOver, DogWellbeingMonitor.call, recordsOf_updateWaterLevel]
  exact if_congr (and_congr_left' (haccounts.resets_iff (level, now))) rfl rfl

theorem prefix_tankReadings (hbegins : earlier <+: calls) :
    tankReadings earlier <+: tankReadings calls :=
  hbegins.filterMap _

/-- Neighbours among the readings follow each other. -/
theorem GapsFit.isChain (hfit : GapsFit settings calls) (hbegins : earlier <+: calls) :
    (tankReadings earlier).IsChain fun r r' =>
      unitOf settings r = unitOf settings r' → windowOf settings r = windowOf settings r' := by
  induction earlier using List.reverseRecOn with
  | nil => exact List.isChain_nil
  | append_singleton earlier call ih =>
      have hchain := ih ((List.prefix_append earlier [call]).trans hbegins)
      obtain ⟨later, hlater⟩ := hbegins
      rw [tankReadings_append_singleton]
      cases hcall : call.tankReading? with
      | none =>
          rw [Option.toList_none, List.append_nil]
          exact hchain
      | some r =>
          refine List.isChain_append.mpr ⟨hchain, List.isChain_singleton r, ?_⟩
          intro last hlast r' hr'
          obtain rfl := Option.some.inj hr'
          cases call with
          | waterLevel level now =>
              obtain rfl := Option.some.inj hcall
              exact (hfit earlier level now later (by rw [← hlater]; simp) last hlast).1
          | bowlWeight bowlId weight now => cases hcall
          | tick now previousMealsSum => cases hcall

theorem AttributedRight.of_gapsFit (hfixed : FixedOffset settings calls)
    (hfit : GapsFit settings calls) : AttributedRight settings calls := by
  constructor
  · intro earlier hbegins last hlast
    have hsorted := (hfixed.increasing.sublist (prefix_tankReadings hbegins).sublist).imp
      fun hlt => hfixed.windowOf_le hlt.le
    exact sinceChange_eq_filter (fun _ _ hsame => hfixed.unitOf_eq hsame) hsorted
      (hfit.isChain hbegins) hlast
  · intro earlier call later hsplit record hrecord
    cases hcall : call.tankReading? with
    | none =>
        rw [handedOver, recordsOf_of_not_tankReading settings _ hcall] at hrecord
        cases hrecord
    | some r =>
        cases call with
        | bowlWeight bowlId weight now => cases hcall
        | tick now previousMealsSum => cases hcall
        | waterLevel level now =>
            rw [recordsOf_handedOver, List.mem_ite_nil_right, List.mem_singleton] at hrecord
            obtain ⟨⟨⟨last, hlast, hunit⟩, hintake⟩, rfl⟩ := hrecord
            refine ⟨rfl, last, hlast, ?_⟩
            have hfollows := hfit earlier level now later hsplit last hlast
            rw [date?_waterIntakeRecord, windowDate_windowOf, hfollows.2 hunit hintake]

theorem AttributedRight.gapsFit (hright : AttributedRight settings calls) :
    GapsFit settings calls := by
  intro earlier level now later hsplit last hlast
  constructor
  · intro hunit
    have hbegins : earlier ++ [.waterLevel level now] <+: calls := ⟨later, by rw [hsplit]; simp⟩
    have hreadings : tankReadings (earlier ++ [.waterLevel level now]) =
        tankReadings earlier ++ [(level, now)] :=
      tankReadings_append_singleton earlier (.waterLevel level now)
    have hlatest : (level, now) ∈
        (tankReadings (earlier ++ [.waterLevel level now])).getLast? := by
      rw [hreadings, List.getLast?_concat]
      rfl
    have htotal := hright.totals _ hbegins (level, now) hlatest
    have hnot : ¬ Resets settings (Node.after settings earlier).monitor (level, now) := by
      rw [(accounts_after settings earlier).resets_iff]
      rintro ⟨last', hlast', hne⟩
      obtain rfl := Option.some.inj (hlast.symm.trans hlast')
      exact hne hunit
    rw [(accounts_after settings earlier).currentWindow_append, if_neg hnot] at htotal
    have hmem : last ∈ currentWindow settings earlier := by
      refine List.mem_of_getLast? ?_
      rw [currentWindow, getLast?_sinceChange]
      exact hlast
    have hfilter := List.mem_append_left [(level, now)] hmem
    rw [htotal] at hfilter
    exact of_decide_eq_true (List.mem_filter.mp hfilter).2
  · intro hunit hintake
    have hrecord : waterIntakeRecord settings (Node.after settings earlier).monitor now ∈
        recordsOf "water_intake_per_day"
          (handedOver settings earlier (.waterLevel level now)) := by
      rw [recordsOf_handedOver, if_pos ⟨⟨last, hlast, hunit⟩, hintake⟩]
      exact List.mem_cons_self
    obtain ⟨-, last', hlast', hdate⟩ := hright.records earlier _ later hsplit _ hrecord
    obtain rfl := Option.some.inj (hlast.symm.trans hlast')
    rw [date?_waterIntakeRecord, windowDate_windowOf] at hdate
    exact Option.some.inj hdate

end

/-- **Totals of calendar windows, exactly.** -/
theorem attributedRight_iff {settings : Settings} {calls : List Call}
    (hfixed : FixedOffset settings calls) :
    AttributedRight settings calls ↔ GapsFit settings calls :=
  ⟨AttributedRight.gapsFit, AttributedRight.of_gapsFit hfixed⟩

/-! ### The end of a day -/

/-- Two readings at noon, and the next one some seconds after midnight. -/
def overMidnight (secondsAfter : ℕ) : List Call :=
  [.waterLevel 1000 43200000, .waterLevel 900 43260000,
    .waterLevel 900 (86400000 + secondsAfter * 1000)]

theorem fixedOffset_overMidnight_three : FixedOffset tankOnly (overMidnight 3) where
  window := by decide
  clock := ⟨0, rfl⟩
  increasing := by decide +kernel

theorem attributedRight_overMidnight :
    AttributedRight tankOnly (overMidnight 3) ↔ GapsFit tankOnly (overMidnight 3) :=
  attributedRight_iff fixedOffset_overMidnight_three

/-- The tank with totals of minutes. -/
def minuteTank : Settings := { tankOnly with aggregationWindow := "1m" }

/-- The dog drinks in a minute, and in the same minute of the next hour. -/
def hourLater : List Call :=
  [.waterLevel 1000 600000, .waterLevel 900 610000, .waterLevel 800 4200000]

/-- **Failing inputs.**  The total of the first day is dated the second, if the next reading
comes ten seconds after midnight; and two minutes that are an hour apart share a total. -/
theorem not_attributedRight_overMidnight :
    (FixedOffset tankOnly (overMidnight 10) ∧ ¬ AttributedRight tankOnly (overMidnight 10)) ∧
      FixedOffset minuteTank hourLater ∧ ¬ AttributedRight minuteTank hourLater := by
  refine ⟨⟨⟨by decide, ⟨0, rfl⟩, by decide +kernel⟩, fun hright => ?_⟩,
    ⟨⟨by decide, ⟨0, rfl⟩, by decide +kernel⟩, fun hright => ?_⟩⟩
  · have hfollows := hright.gapsFit [.waterLevel 1000 43200000, .waterLevel 900 43260000] 900
      86410000 [] rfl (900, 43260000) rfl
    exact absurd (hfollows.2 (by decide +kernel) (by decide +kernel)) (by decide +kernel)
  · have hfollows := hright.gapsFit [.waterLevel 1000 600000, .waterLevel 900 610000] 800 4200000
      [] rfl (900, 610000) rfl
    exact absurd (hfollows.1 (by decide +kernel)) (by decide +kernel)

end OroEdge.Wellbeing
