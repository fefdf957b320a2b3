import OroEdge.Wellbeing.History

/-!
# Skipped meals

A meal should not be reported as skipped if the readings of its bowl show that it was
eaten, that is if one of them lies more than 5 g below an earlier one
(`NotSkippedIfEaten`).

The verdict compares two weights only, the last readings before the tick that starts
the recording and before the tick that ends it.  Food that is eaten after it has been
served in between does not count, and a bowl without a reading counts as empty.  The
property holds exactly if whenever something was eaten the two weights show it
(`WeightsShow`).

`Recording` cuts a run at the two ticks, and between them the meal stays the same and its first
weight is kept (`sameMeal_of_recording`), so that the verdict is a comparison of the tracked
weights at the two ticks.  These are the last readings before them, by the history of the
monitor (`Recording.skipped_iff`).  That something was eaten is said of all the readings in
between, and what the property needs is that the two weights show it whenever the readings do.
-/

namespace OroEdge.Wellbeing

open OroEdge.Lib OroEdge.Storage DogWellbeingMonitor

/-! ## The property -/

/-- The ticks at `started` and at `ended` start and end the recording of a meal. -/
structure Recording (settings : Settings) (before : List Call) (started : Call)
    (during : List Call) (ended : Call) : Prop where
  starts : ∃ now ∈ started.tickTime?, (Node.after settings before).monitor.Starts now
  goesOn : ∀ earlier call later, during = earlier ++ call :: later → ∀ now ∈ call.tickTime?,
    ¬ (Node.after settings (before ++ started :: earlier)).monitor.Ends now
  ends : ∃ now ∈ ended.tickTime?,
    (Node.after settings (before ++ started :: during)).monitor.Ends now

/-- The bowl of the meal that is next. -/
def nextBowl (settings : Settings) (before : List Call) : String :=
  (Node.after settings before).monitor.activeSched.bowlId

/-- No reading is more than 5 g below an earlier one. -/
def NoneEaten (weights : List ℚ) : Prop := weights.Pairwise fun w w' => w - w' ≤ 5

instance (weights : List ℚ) : Decidable (NoneEaten weights) := by
  unfold NoneEaten
  infer_instance

/-- A skipped meal was not eaten. -/
def NotSkippedIfEaten (settings : Settings) (calls : List Call) : Prop :=
  ∀ before started during ended later, calls = before ++ started :: during ++ ended :: later →
    Recording settings before started during ended →
      (∃ record ∈ handedOver settings (before ++ started :: during) ended,
        record.signalType = "meal_skipped") →
      NoneEaten (readings (nextBowl settings before) during)

/-- If something was eaten, the last readings before the two ticks are 5 g apart. -/
def WeightsShow (settings : Settings) (calls : List Call) : Prop :=
  ∀ before started during ended later, calls = before ++ started :: during ++ ended :: later →
    Recording settings before started during ended →
      ¬ NoneEaten (readings (nextBowl settings before) during) →
        5 < lastReading (nextBowl settings before) before -
          lastReading (nextBowl settings before) (before ++ started :: during)

/-! ## What is compared -/

section

variable {settings : Settings} {before during : List Call} {started ended : Call}

/-- A call changes nothing about a meal that is recorded, unless it ends the meal. -/
theorem sameMeal_of_recording {m : DogWellbeingMonitor} (hset : m.activeMealStartMs ≠ 0)
    (hstate : m.monitorState = .recording) {call : Call}
    (hends : ∀ now ∈ call.tickTime?, ¬ m.Ends now) : SameMeal m (m.call settings call).1 := by
  cases call with
  | tick now previousMealsSum =>
      rw [DogWellbeingMonitor.call]
      rcases tick_cases settings now previousMealsSum m with ⟨hunset, -⟩ |
        ⟨⟨-, hwaiting, -⟩, -⟩ | ⟨hended, -⟩ | ⟨-, -, -, htick⟩
      · exact absurd hunset hset
      · rw [hstate] at hwaiting
        cases hwaiting
      · exact absurd hended (hends now rfl)
      · rw [htick]
        exact ⟨rfl, rfl, rfl, rfl, rfl⟩
  | bowlWeight bowlId weight now => exact (sameMeal_of_not_tick settings _ rfl).1
  | waterLevel level now => exact (sameMeal_of_not_tick settings _ rfl).1

/-- The meal does not change while it is recorded. -/
theorem Recording.initialWeight (hrecording : Recording settings before started during ended) :
    (Node.after settings (before ++ started :: during)).monitor.activeSched =
        (Node.after settings before).monitor.activeSched ∧
      (Node.after settings (before ++ started :: during)).monitor.initialWeightAtStart =
        lastReading (nextBowl settings before) before := by
  obtain ⟨⟨now, hnow, hstarts⟩, hgoesOn, -⟩ := hrecording
  suffices hstate : ∀ earlier, earlier <+: during →
      (Node.after settings (before ++ started :: earlier)).monitor.activeMealStartMs ≠ 0 ∧
      (Node.after settings (before ++ started :: earlier)).monitor.monitorState = .recording ∧
      (Node.after settings (before ++ started :: earlier)).monitor.activeSched =
        (Node.after settings before).monitor.activeSched ∧
      (Node.after settings (before ++ started :: earlier)).monitor.initialWeightAtStart =
        lastReading (nextBowl settings before) before by
    obtain ⟨-, -, hsched, hweight⟩ := hstate during List.prefix_rfl
    exact ⟨hsched, hweight⟩
  intro earlier
  induction earlier using List.reverseRecOn with
  | nil =>
      -- the tick that starts the recording
      intro _
      obtain ⟨hset, hwaiting, hstart⟩ := hstarts
      cases started with
      | tick now' previousMealsSum =>
          obtain rfl : now' = now := Option.some.inj hnow
          rw [after_append_singleton, step, DogWellbeingMonitor.call, tick, if_neg hset]
          simp only [hwaiting, if_pos hstart]
          refine ⟨hset, trivial, trivial, ?_⟩
          exact currentWeight_after settings before _
      | bowlWeight bowlId weight now' => cases hnow
      | waterLevel level now' => cases hnow
  | append_singleton earlier call ih =>
      rintro ⟨later, hlater⟩
      obtain ⟨hset, hstate, hsched, hweight⟩ := ih ⟨call :: later, by simp [← hlater]⟩
      rw [← List.cons_append, ← List.append_assoc, after_append_singleton, step]
      generalize hnode : Node.after settings (before ++ started :: earlier) = node
        at hset hstate hsched hweight
      have hends : ∀ now ∈ call.tickTime?, ¬ node.monitor.Ends now := by
        rw [← hnode]
        exact hgoesOn earlier call later (by simp [← hlater])
      have hsame : SameMeal node.monitor (node.monitor.call settings call).1 :=
        sameMeal_of_recording hset hstate hends
      dsimp only
      rw [hsame.startMs, hsame.state, hsame.sched, hsame.initialWeight]
      exact ⟨hset, hstate, hsched, hweight⟩

theorem skipped_mem_verdict_iff (m : DogWellbeingMonitor) (now : ℕ) (previousMealsSum : ℚ) :
    (∃ record ∈ verdict settings m now previousMealsSum, record.signalType = "meal_skipped") ↔
      ¬ 5 < m.intake := by
  unfold verdict
  split
  · rename_i heaten
    simp [perMealRecord, perDayRecord, heaten]
  · rename_i hskipped
    simp [mealSkippedRecord, hskipped]

/-- A recorded meal is skipped if its two weights are not 5 g apart. -/
theorem Recording.skipped_iff (hrecording : Recording settings before started during ended) :
    (∃ record ∈ handedOver settings (before ++ started :: during) ended,
      record.signalType = "meal_skipped") ↔
        ¬ 5 < lastReading (nextBowl settings before) before -
          lastReading (nextBowl settings before) (before ++ started :: during) := by
  obtain ⟨hsched, hweight⟩ := hrecording.initialWeight
  obtain ⟨-, -, now, hnow, hset, hstate, hends⟩ := hrecording
  have hcurrent := currentWeight_after settings (before ++ started :: during)
    (nextBowl settings before)
  cases ended with
  | tick now' previousMealsSum =>
      obtain rfl : now' = now := Option.some.inj hnow
      have hintake : (Node.after settings (before ++ started :: during)).monitor.intake =
          lastReading (nextBowl settings before) before -
            lastReading (nextBowl settings before) (before ++ started :: during) := by
        rw [intake, currentWeight, hsched, hweight, ← hcurrent]
        rfl
      rw [handedOver, DogWellbeingMonitor.call, tick, if_neg hset]
      simp only [hstate, if_pos hends]
      rw [skipped_mem_verdict_iff, hintake]
  | bowlWeight bowlId weight now' => cases hnow
  | waterLevel level now' => cases hnow

end

/-! ## Every run -/

/-- **Skipped meals, exactly.**  In a run no meal that was eaten is reported as skipped,
if and only if the two weights of every meal show when it was eaten. -/
theorem notSkippedIfEaten_iff (settings : Settings) (calls : List Call) :
    NotSkippedIfEaten settings calls ↔ WeightsShow settings calls := by
  constructor
  · intro hskipped before started during ended later hsplit hrecording heaten
    by_contra hweights
    have hverdict := hrecording.skipped_iff.mpr hweights
    exact heaten (hskipped before started during ended later hsplit hrecording hverdict)
  · intro hshow before started during ended later hsplit hrecording hverdict
    by_contra heaten
    have hweights := hshow before started during ended later hsplit hrecording heaten
    exact hrecording.skipped_iff.mp hverdict hweights

/-! ### A meal that is topped up -/

/-- One meal, at 00:00:01. -/
def oneMeal : Settings where
  deviceId := "dev"
  dogId := "dog"
  mealSchedules := [⟨"00:00:01", "00:00:02", "meal", "bowl_1"⟩]
  aggregationWindow := "24h"
  clock := .fixed 0
  startLocals := ⟨0, 0, 0⟩
  endLocals := ⟨0, 0, 0⟩

/-- 60 g are eaten, and served again before the meal ends. -/
def toppedUp : List Call :=
  [.bowlWeight "bowl_1" 100 0, .tick 0 0, .tick 1000 0, .bowlWeight "bowl_1" 100 1100,
    .bowlWeight "bowl_1" 40 1200, .bowlWeight "bowl_1" 100 1300, .tick 2000 0]

theorem not_notSkippedIfEaten_toppedUp : ¬ NotSkippedIfEaten oneMeal toppedUp := by
  intro hskipped
  have hrecording : Recording oneMeal [.bowlWeight "bowl_1" 100 0, .tick 0 0] (.tick 1000 0)
      [.bowlWeight "bowl_1" 100 1100, .bowlWeight "bowl_1" 40 1200, .bowlWeight "bowl_1" 100 1300]
      (.tick 2000 0) := by
    refine ⟨⟨1000, rfl, by decide +kernel⟩, ?_, ⟨2000, rfl, by decide +kernel⟩⟩
    intro earlier call later hsplit now hnow
    have hmem : call ∈ [Call.bowlWeight "bowl_1" 100 1100, .bowlWeight "bowl_1" 40 1200,
        .bowlWeight "bowl_1" 100 1300] := by
      rw [hsplit]
      simp
    have hnone : ∀ call ∈ [Call.bowlWeight "bowl_1" 100 1100, .bowlWeight "bowl_1" 40 1200,
        .bowlWeight "bowl_1" 100 1300], call.tickTime? = none := by
      decide
    rw [hnone call hmem] at hnow
    cases hnow
  have hnone := hskipped _ _ _ _ [] rfl hrecording
    (hrecording.skipped_iff.mpr (by decide +kernel))
  exact absurd hnone (by decide +kernel)

end OroEdge.Wellbeing
