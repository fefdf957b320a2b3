import Mathlib.Data.List.Chain
import OroEdge.Wellbeing.History
import OroEdge.Wellbeing.Occurrence

/-!
# One verdict for each meal

The ticks of the monitor make it a watch over the meals (`Tracks`): what it follows is
the active window, it is inside while it records, and the verdicts that it has written
are those of the finished windows.

At the tick that ends a meal it looks for the next one, and takes only meals that start
after that tick.  A meal that starts at the very instant the last one ends is passed
over for a day.  `FreeAfter` says that there is no such meal; then every meal between
the first tick and the last has its verdict, and only one.

The watch is the library's: a machine that looks for the next of some disjoint windows, is
inside it from its start to its end, and then looks for the next.  What is proved here is that a
tick of the monitor is a tick of the watch (`Tracks.tick`), with the search as the successor of
windows and the verdict as what is written when a window ends; the counting of windows over a
run comes from the library.

Steadiness is used once, for a meal to be seen at all: ticks at most 100 ms apart cannot step
over a window of a second or more (`watching_tick_of_steady`).
-/

namespace OroEdge.Wellbeing

open OroEdge.Lib OroEdge.Storage DogWellbeingMonitor

/-! ## The property -/

/-- The record says that a meal was eaten, or that it was skipped. -/
def isVerdict (record : SignalRecord) : Bool :=
  decide (record.signalType = "food_intake_per_meal") || decide (record.signalType = "meal_skipped")

/-- The times at which verdicts are observed. -/
def verdictStarts (records : List SignalRecord) : List ℕ :=
  (records.filter isVerdict).map SignalRecord.observedAt

/-- Every meal between the first tick and a second before the last has one verdict. -/
def EachMealOnce (settings : Settings) (offset : ℤ) (calls : List Call) : Prop :=
  ∀ meal ∈ meals offset settings.mealSchedules,
    ∀ first ∈ (ticks calls).head?, ∀ last ∈ (ticks calls).getLast?,
      first < meal.startMs → meal.endMs + 1000 ≤ last →
        (verdictStarts (Node.after settings calls).emitted).count meal.startMs = 1

/-- The ticks come in order, at most 100 ms apart. -/
def Steady (calls : List Call) : Prop :=
  (ticks calls).IsChain fun now now' => now < now' ∧ now' ≤ now + 100

instance (calls : List Call) : Decidable (Steady calls) := by
  unfold Steady
  infer_instance

/-- No meal starts at the instant at which a tick finds the active one ended. -/
def FreeAfter (settings : Settings) (offset : ℤ) (node : Node) : Call → Prop
  | .tick now _ => InRange offset now ∧ (node.monitor.Ends now →
      ∀ sched ∈ settings.mealSchedules, ¬ sched.StartsAt offset node.monitor.activeMealEndMs)
  | _ => True

instance (settings : Settings) (offset : ℤ) (node : Node) :
    ∀ call, Decidable (FreeAfter settings offset node call)
  | .tick _ _ => inferInstanceAs (Decidable (_ ∧ (_ → _)))
  | .bowlWeight .. | .waterLevel .. => inferInstanceAs (Decidable True)

/-! ## The monitor is a watch -/

/-- The monitor follows its meals as a watch follows its windows. -/
structure Tracks (node : Node) (watch : Watch Meal) : Prop where
  active : watch.active =
    (node.monitor.activeSched, node.monitor.activeMealStartMs, node.monitor.activeMealEndMs)
  unset : node.monitor.activeMealStartMs ≠ 0
  inside : watch.inside = decide (node.monitor.monitorState = .recording)
  finished : verdictStarts node.emitted = watch.finished.map Meal.startMs

theorem verdictStarts_append (first second : List SignalRecord) :
    verdictStarts (first ++ second) = verdictStarts first ++ verdictStarts second := by
  unfold verdictStarts
  rw [List.filter_append, List.map_append]

theorem verdictStarts_of_not_mealTypes {records : List SignalRecord}
    (htypes : ∀ record ∈ records, record.signalType ∉ mealTypes) : verdictStarts records = [] := by
  have hnone : records.filter isVerdict = [] := by
    apply List.filter_eq_nil_iff.mpr
    intro record hrecord
    have htype := htypes record hrecord
    simp only [mealTypes, List.mem_cons, List.not_mem_nil, or_false, not_or] at htype
    simp [isVerdict, htype.1, htype.2.2]
  rw [verdictStarts, hnone]
  rfl

/-- The verdict of a tick is observed at the start of the meal. -/
theorem verdictStarts_verdict (settings : Settings) (m : DogWellbeingMonitor) (now : ℕ)
    (previousMealsSum : ℚ) :
    verdictStarts (verdict settings m now previousMealsSum) = [m.activeMealStartMs] := by
  unfold verdict
  split <;> rfl

theorem Tracks.of_sameMeal {node : Node} {watch : Watch Meal} (htracks : Tracks node watch)
    {m : DogWellbeingMonitor} (hsame : SameMeal node.monitor m) {records : List SignalRecord}
    (hrecords : verdictStarts records = []) : Tracks ⟨m, node.emitted ++ records⟩ watch where
  active := by
    rw [hsame.sched, hsame.startMs, hsame.endMs]
    exact htracks.active
  unset := by
    rw [hsame.startMs]
    exact htracks.unset
  inside := by
    rw [hsame.state]
    exact htracks.inside
  finished := by
    rw [verdictStarts_append, hrecords, List.append_nil]
    exact htracks.finished

theorem initializeNextMeal_of_some {settings : Settings} {now : ℕ} {meal : Meal}
    (hmeal : findNextMeal settings now = some meal) (m : DogWellbeingMonitor) :
    initializeNextMeal settings now m =
      { m with
        activeSched := meal.1
        activeMealStartMs := meal.startMs
        activeMealEndMs := meal.endMs
        monitorState := .waiting } := by
  unfold initializeNextMeal
  rw [hmeal]
  rfl

/-- A tick of the monitor is a tick of the watch. -/
theorem Tracks.tick {settings : Settings} {node : Node} {watch : Watch Meal}
    (htracks : Tracks node watch) {now : ℕ} {meal : Meal}
    (hmeal : findNextMeal settings now = some meal) (hafter : now < meal.startMs)
    (previousMealsSum : ℚ) :
    Tracks (step settings node (.tick now previousMealsSum))
      (watch.tick Meal.startMs Meal.endMs (fun _ => meal) now) := by
  obtain ⟨hactive, hset, hinside, hfinished⟩ := htracks
  have hstart : Meal.startMs watch.active = node.monitor.activeMealStartMs := by rw [hactive]; rfl
  have hend : Meal.endMs watch.active = node.monitor.activeMealEndMs := by rw [hactive]; rfl
  unfold Watch.tick
  rw [hstart, hend, step, DogWellbeingMonitor.call]
  rcases tick_cases settings now previousMealsSum node.monitor with ⟨hunset, htick⟩ |
    ⟨⟨-, hstate, hstarts⟩, htick⟩ | ⟨⟨-, hstate, hends⟩, htick⟩ | ⟨-, hstarts, hends, htick⟩
  · exact absurd hunset hset
  · have houtside : watch.inside = false := by simp [hinside, hstate]
    rw [htick, houtside, if_neg Bool.false_ne_true, if_pos hstarts]
    refine ⟨hactive, hset, rfl, ?_⟩
    rw [List.append_nil]
    exact hfinished
  · have hin : watch.inside = true := by simp [hinside, hstate]
    rw [htick, hin, if_pos rfl, if_pos hends, initializeNextMeal_of_some hmeal]
    refine ⟨rfl, (Nat.zero_lt_of_lt hafter).ne', rfl, ?_⟩
    rw [verdictStarts_append, verdictStarts_verdict, hfinished, List.map_append,
      List.map_singleton, hstart]
  · have hsame : (if watch.inside then
        if node.monitor.activeMealEndMs ≤ now then
          (⟨meal, false, watch.finished ++ [watch.active]⟩ : Watch Meal) else watch
        else if node.monitor.activeMealStartMs ≤ now then { watch with inside := true } else watch) =
          watch := by
      cases hstate : node.monitor.monitorState with
      | waiting =>
          have hearly : ¬ node.monitor.activeMealStartMs ≤ now := fun hle =>
            hstarts ⟨hset, hstate, hle⟩
          simp [hinside, hstate, hearly]
      | recording =>
          have hearly : ¬ node.monitor.activeMealEndMs ≤ now := fun hle =>
            hends ⟨hset, hstate, hle⟩
          simp [hinside, hstate, hearly]
    rw [hsame, htick, List.append_nil]
    exact ⟨hactive, hset, hinside, hfinished⟩

/-! ## Every run -/

/-- What the monitor is after some calls: not ticked yet, or a watch. -/
def Watches (settings : Settings) (offset : ℤ) (calls : List Call) (node : Node) : Prop :=
  (ticks calls = [] ∧ node.monitor.activeMealStartMs = 0 ∧ verdictStarts node.emitted = []) ∨
    ∃ first last watch, (ticks calls).head? = some first ∧ (ticks calls).getLast? = some last ∧
      Tracks node watch ∧
        Watching Meal.startMs Meal.endMs (meals offset settings.mealSchedules) first last watch

section

variable {settings : Settings} {offset : ℤ} {calls : List Call}

theorem Watches.of_not_tick {node : Node} (hwatches : Watches settings offset calls node)
    {call : Call} (htick : call.tickTime? = none) :
    Watches settings offset (calls ++ [call]) (step settings node call) := by
  obtain ⟨hsame, htypes⟩ := sameMeal_of_not_tick settings node.monitor htick
  have hrecords := verdictStarts_of_not_mealTypes htypes
  have hticks : ticks (calls ++ [call]) = ticks calls := by
    rw [ticks_append_singleton, htick, Option.toList_none, List.append_nil]
  unfold Watches
  rw [hticks]
  rcases hwatches with ⟨hnone, hunset, hverdicts⟩ | ⟨first, last, watch, hfirst, hlast, htracks,
    hwatching⟩
  · refine Or.inl ⟨hnone, hsame.startMs.trans hunset, ?_⟩
    rw [step, verdictStarts_append, hverdicts, hrecords]
    rfl
  · exact Or.inr ⟨first, last, watch, hfirst, hlast, htracks.of_sameMeal hsame hrecords, hwatching⟩

/-- The first tick looks for the first meal. -/
theorem watches_first {node : Node} (hunset : node.monitor.activeMealStartMs = 0)
    (hverdicts : verdictStarts node.emitted = []) {now : ℕ} {previousMealsSum : ℚ}
    (hticks : ticks calls = [now]) {meal : Meal} (hmeal : findNextMeal settings now = some meal)
    (hnext : IsNext Meal.startMs (meals offset settings.mealSchedules) now meal) :
    Watches settings offset calls (step settings node (.tick now previousMealsSum)) := by
  have htick : node.monitor.tick settings now previousMealsSum =
      (initializeNextMeal settings now node.monitor, []) := by
    rw [DogWellbeingMonitor.tick, if_pos hunset]
  have hpos : meal.startMs ≠ 0 := (Nat.zero_lt_of_lt hnext.after).ne'
  right
  rw [hticks, step, DogWellbeingMonitor.call, htick, initializeNextMeal_of_some hmeal]
  refine ⟨now, now, ⟨meal, false, []⟩, rfl, rfl, ⟨rfl, hpos, rfl, ?_⟩, watching_start hnext⟩
  rw [List.append_nil]
  exact hverdicts

/-- A later tick comes before the active meal can have passed. -/
theorem watching_tick_of_steady (horderly : Orderly offset settings.mealSchedules) {node : Node}
    {first last now : ℕ} {watch : Watch Meal} (htracks : Tracks node watch)
    (hwatching : Watching Meal.startMs Meal.endMs (meals offset settings.mealSchedules) first last
      watch) (hlt : last < now) (hgap : now ≤ last + 100)
    (hfree : node.monitor.Ends now → ∀ sched ∈ settings.mealSchedules,
      ¬ sched.StartsAt offset node.monitor.activeMealEndMs) {meal : Meal}
    (hnext : IsNext Meal.startMs (meals offset settings.mealSchedules) now meal) :
    Watching Meal.startMs Meal.endMs (meals offset settings.mealSchedules) first now
      (watch.tick Meal.startMs Meal.endMs (fun _ => meal) now) := by
  have hlasting := horderly.lasting _ hwatching.mem.1
  have hwhole : watch.active.1.lengthMs % 1000 = 0 := by
    unfold MealSchedule.lengthMs
    omega
  obtain ⟨-, ⟨hstartWhole, -⟩, hend⟩ := hwatching.mem
  refine hwatching.tick horderly.disjointed hnext hlt.le ?_ ?_
  · intro houtside hstart
    have hbefore := hwatching.outside houtside
    omega
  · -- the meals start at whole seconds, and none at the end of the active one
    intro hinside hends w hw hle
    have hlast := (hwatching.inside hinside).2
    have hstate : node.monitor.monitorState = .recording := by
      rw [htracks.inside] at hinside
      exact of_decide_eq_true hinside
    have hendMs : Meal.endMs watch.active = node.monitor.activeMealEndMs := by
      rw [htracks.active]
      rfl
    have hne : Meal.startMs w ≠ Meal.endMs watch.active := by
      intro heq
      rw [hendMs] at hends heq
      have hstarts := hw.2.1
      rw [heq] at hstarts
      exact hfree ⟨htracks.unset, hstate, hends⟩ w.1 hw.1 hstarts
    have hstartWhole' := hw.2.1.1
    omega

theorem watches_after (hclock : settings.clock = .fixed offset)
    (horderly : Orderly offset settings.mealSchedules) (hnonempty : settings.mealSchedules ≠ [])
    (hsteady : Steady calls)
    (hfree : AllSteps (step settings) (FreeAfter settings offset) Node.construct calls) :
    Watches settings offset calls (Node.after settings calls) := by
  induction calls using List.reverseRecOn with
  | nil => exact Or.inl ⟨rfl, rfl, rfl⟩
  | append_singleton calls call ih =>
      obtain ⟨hbefore, hcall, -⟩ := AllSteps.append_iff.mp hfree
      have hchain : ((ticks calls) ++ call.tickTime?.toList).IsChain
          fun now now' => now < now' ∧ now' ≤ now + 100 := by
        rw [← ticks_append_singleton]
        exact hsteady
      obtain ⟨hcallsSteady, -, hgap⟩ := List.isChain_append.mp hchain
      have hwatches := ih hcallsSteady hbefore
      rw [after_append_singleton]
      cases call with
      | tick now previousMealsSum =>
          obtain ⟨hrange, hnone⟩ : InRange offset now ∧
              ((Node.after settings calls).monitor.Ends now → ∀ sched ∈ settings.mealSchedules,
                ¬ sched.StartsAt offset (Node.after settings calls).monitor.activeMealEndMs) := hcall
          obtain ⟨meal, hmeal, hnext⟩ :=
            findNextMeal_spec hclock hrange horderly.wellFormed hnonempty
          rcases hwatches with ⟨hnoTicks, hunset, hverdicts⟩ | ⟨first, last, watch, hfirst, hlast,
            htracks, hwatching⟩
          · apply watches_first hunset hverdicts _ hmeal hnext
            rw [ticks_append_singleton, hnoTicks]
            rfl
          · obtain ⟨hlt, hle⟩ := hgap last hlast now rfl
            right
            rw [ticks_append_singleton]
            refine ⟨first, now, _, ?_, ?_, htracks.tick hmeal hnext.after previousMealsSum,
              watching_tick_of_steady horderly htracks hwatching hlt hle hnone hnext⟩
            · rw [List.head?_append, hfirst]
              rfl
            · exact List.getLast?_concat
      | bowlWeight bowlId weight now => exact hwatches.of_not_tick rfl
      | waterLevel level now => exact hwatches.of_not_tick rfl

/-- **One verdict for each meal.**  In every run with steady ticks in which no meal
starts at the instant at which a tick finds another one ended, each meal between the
first tick and the last has exactly one verdict. -/
theorem eachMealOnce_of_freeAfter (hclock : settings.clock = .fixed offset)
    (horderly : Orderly offset settings.mealSchedules) (hnonempty : settings.mealSchedules ≠ [])
    (hsteady : Steady calls)
    (hfree : AllSteps (step settings) (FreeAfter settings offset) Node.construct calls) :
    EachMealOnce settings offset calls := by
  intro meal hmeal first hfirst last hlast hafter hends
  rcases watches_after hclock horderly hnonempty hsteady hfree with ⟨hnone, -, -⟩ |
    ⟨first', last', watch, hfirst', hlast', htracks, hwatching⟩
  · rw [hnone] at hfirst
    cases hfirst
  · obtain rfl : first' = first := Option.some.inj (hfirst'.symm.trans hfirst)
    obtain rfl : last' = last := Option.some.inj (hlast'.symm.trans hlast)
    rw [htracks.finished]
    exact hwatching.count_eq_one horderly.disjointed hmeal hafter (by omega)

end

/-! ## A run of each kind -/

/-- Two meals of a second: one at 00:00:01, and one at second `s`. -/
def twoMeals (s : ℕ) : Settings where
  deviceId := "dev"
  dogId := "dog"
  mealSchedules :=
    [⟨clockText (1 : ℕ), clockText (2 : ℕ), "first", "bowl_1"⟩,
      ⟨clockText s, clockText (s + 1 : ℕ), "second", "bowl_2"⟩]
  aggregationWindow := "24h"
  clock := .fixed 0
  startLocals := ⟨0, 0, 0⟩
  endLocals := ⟨0, 0, 0⟩

/-- Ten ticks a second. -/
def ticksUntil (n : ℕ) : List Call := (List.range (n + 1)).map fun i => .tick (100 * i) 0

/-- The second meal may start when the first one ends. -/
theorem orderly_twoMeals {s : ℕ} (hafter : 2 ≤ s) (hs : s + 1 < 86400) :
    Orderly 0 (twoMeals s).mealSchedules := by
  have hlength : ∀ t : ℕ, t + 1 < 86400 → ∀ mealId bowlId,
      MealSchedule.lengthMs ⟨clockText t, clockText (t + 1 : ℕ), mealId, bowlId⟩ = 1000 := by
    intro t ht mealId bowlId
    unfold MealSchedule.lengthMs
    dsimp only
    rw [secondsOf_clockText ht, secondsOf_clockText (Nat.lt_of_succ_lt ht)]
    omega
  refine ⟨?_, ?_, ?_⟩
  · intro sched hsched
    rcases List.mem_pair.mp hsched with rfl | rfl
    · exact ⟨⟨1, by decide, rfl⟩, ⟨2, by decide, rfl⟩⟩
    · exact ⟨⟨s, Nat.lt_of_succ_lt hs, rfl⟩, ⟨s + 1, hs, rfl⟩⟩
  · intro sched hsched
    rcases List.mem_pair.mp hsched with rfl | rfl
    · rw [hlength 1 (by decide)]
      decide
    · rw [hlength s hs]
      decide
  · refine List.pairwise_pair.mpr fun startMs startMs' hfirst hsecond => ?_
    obtain ⟨hwhole, htime⟩ := hfirst
    obtain ⟨hwhole', htime'⟩ := hsecond
    rw [hlength 1 (by decide), hlength s hs]
    rw [secondsOf_clockText (by decide)] at htime
    rw [secondsOf_clockText (Nat.lt_of_succ_lt hs)] at htime'
    unfold seconds at htime htime'
    omega

theorem eachMealOnce_apart : EachMealOnce (twoMeals 3) 0 (ticksUntil 50) :=
  eachMealOnce_of_freeAfter rfl (orderly_twoMeals (by decide) (by decide)) (by decide)
    (by decide +kernel) (by decide +kernel)

/-- The second meal starts when the first one ends, and is passed over. -/
theorem not_eachMealOnce_adjacent : Orderly 0 (twoMeals 2).mealSchedules ∧ Steady (ticksUntil 40) ∧
    ¬ EachMealOnce (twoMeals 2) 0 (ticksUntil 40) := by
  refine ⟨orderly_twoMeals (by decide) (by decide), by decide +kernel, fun honce => ?_⟩
  have hmeal : ((⟨clockText (2 : ℕ), clockText (3 : ℕ), "second", "bowl_2"⟩, 2000, 3000) : Meal) ∈
      meals 0 (twoMeals 2).mealSchedules :=
    ⟨by simp [twoMeals], by decide +kernel, by decide +kernel⟩
  have hcount := honce _ hmeal 0 (by decide +kernel) 4000 (by decide +kernel) (by decide)
    (by decide)
  exact absurd hcount (by decide +kernel)

end OroEdge.Wellbeing
