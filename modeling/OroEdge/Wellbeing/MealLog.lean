import OroEdge.Wellbeing.FoodAccount

/-!
# The log of a meal

While a meal is recorded, its bowl is also logged to a file of its own: a line when the recording
starts, one after each second, and one when the meal ends.  `MealLogger` is the monitor with these
files, and the files never act on the monitor (`monitor_after`).

The log and the records tell the same.  When a meal ends, its file holds what its bowl weighed at
some ticks that are at least a second apart, in their order, and the weight at its end; the verdict
on the meal is one on the difference of the first weight and the last (`logged_of_ends`).

Two things are asked for.  The clock of the ticks does not go back (`TicksInOrder`): the age of
the last line is an unsigned difference, so a tick that is earlier than the last line looks very
late and is logged.  And every file opens (`opened`): a line that cannot be written is lost, while
its time is still taken for that of the last line.

The proof carries `Logging` through a run.  It is about the recorded meal only, since a tick that
starts a meal truncates the file of the meal.  A call other than a tick leaves the meal and its
file alone, so the lines stay what they are; a tick falls under one of the four cases of
`tick_cases`, of which two touch the file of a recorded meal: `logTick_of_starts` writes its first
line, `logTick_of_recording` adds one or leaves it.  `tickWeights` is what the lines are a part of:
the ticks of the run, each with the weight that the monitor knows then.
-/

namespace OroEdge.Wellbeing

open OroEdge.Lib OroEdge.Storage DogWellbeingMonitor

/-! ## The logger -/

/-- A line: the local time, and the weight that is printed. -/
structure CsvLine where
  time : String
  weight : ℚ
  deriving DecidableEq, Repr

/-- `%Y-%m-%d %H:%M:%S`. -/
def csvTime (settings : Settings) (t : ℤ) : String :=
  settings.clock.date t ++ " " ++ clockText (settings.clock.secondOfDay t)

/-- The monitor, the file of its meal, and all files.  A file that does not exist has no lines. -/
structure MealLogger where
  monitor : DogWellbeingMonitor
  activeCsvFilename : String
  lastCsvWriteTimeMs : ℕ
  files : String → List CsvLine

namespace MealLogger

/-- No file has been written. -/
def construct : MealLogger := ⟨.construct, "", 0, fun _ => []⟩

/-- `std::ios::app`; nothing is written to a file that does not open. -/
def append (line : CsvLine) (opens : Bool) (l : MealLogger) : MealLogger :=
  let lines := l.files l.activeCsvFilename ++ [line]
  if opens then { l with files := Function.update l.files l.activeCsvFilename lines } else l

/-- `std::ios::trunc`: what the file held is lost. -/
def create (line : CsvLine) (opens : Bool) (l : MealLogger) : MealLogger :=
  if opens then { l with files := Function.update l.files l.activeCsvFilename [line] } else l

variable (settings : Settings)

/-- Each meal of a day has a file of its own. -/
def csvFilename (m : DogWellbeingMonitor) : String := "meal_" ++ fullMealId settings m ++ ".csv"

/-- What `tick` does with the files. -/
def logTick (now : ℕ) (opens : Bool) (l : MealLogger) : MealLogger :=
  let m := l.monitor
  if m.activeMealStartMs = 0 then l
  else
    match m.monitorState with
    | .waiting =>
        if m.activeMealStartMs ≤ now then
          { create ⟨csvTime settings (seconds m.activeMealStartMs), m.currentWeight⟩ opens
              { l with activeCsvFilename := csvFilename settings m } with
            lastCsvWriteTimeMs := now }
        else l
    | .recording =>
        if m.activeMealEndMs ≤ now then
          l.append ⟨csvTime settings (seconds m.activeMealEndMs), m.currentWeight⟩ opens
        else if 1000 ≤ sub64 now l.lastCsvWriteTimeMs then
          { l.append ⟨csvTime settings (seconds now), m.currentWeight⟩ opens with
            lastCsvWriteTimeMs := now }
        else l

/-- A call, and whether the files can be opened. -/
def step (l : MealLogger) (call : Call × Bool) : MealLogger :=
  { (match call.1 with
      | .tick now _ => l.logTick settings now call.2
      | _ => l) with
    monitor := (l.monitor.call settings call.1).1 }

/-- After these calls, from the start of the node. -/
def after (calls : List (Call × Bool)) : MealLogger := run (step settings) construct calls

end MealLogger

/-! ## The monitor and the files -/

section

variable (settings : Settings) (calls : List (Call × Bool))

theorem logger_append_singleton (call : Call × Bool) :
    MealLogger.after settings (calls ++ [call]) =
      (MealLogger.after settings calls).step settings call := by
  unfold MealLogger.after
  rw [run_append]
  rfl

/-- The monitor of the logger is the monitor. -/
theorem monitor_after : (MealLogger.after settings calls).monitor =
    (Node.after settings (calls.map Prod.fst)).monitor := by
  induction calls using List.reverseRecOn with
  | nil => rfl
  | append_singleton calls call ih =>
      rw [logger_append_singleton, List.map_append, List.map_singleton, after_append_singleton,
        Wellbeing.step, ← ih]
      rfl

end

/-! ## What the active file holds -/

/-- The ticks, each with what the bowl weighs at it; it weighs `weight` before the first reading. -/
def tickWeights (bowlId : String) (weight : ℚ) : List Call → List (ℕ × ℚ)
  | [] => []
  | call :: calls =>
      (call.tickTime?.map fun now => (now, weight)).toList ++
        tickWeights bowlId ((reading bowlId call).getD weight) calls

/-- The clock of the ticks does not go back, and stays in its 64 bits. -/
structure TicksInOrder (calls : List Call) : Prop where
  sorted : (ticks calls).Pairwise (· ≤ ·)
  bounded : ∀ now ∈ ticks calls, now < 18446744073709551616

/-- A line for a tick. -/
def sampleLine (settings : Settings) (sample : ℕ × ℚ) : CsvLine :=
  ⟨csvTime settings (seconds sample.1), sample.2⟩

/-- The lines are those of the meal's start, and of `samples`. -/
structure Logged (settings : Settings) (calls : List Call) (m : DogWellbeingMonitor)
    (first : ℕ × ℚ) (samples : List (ℕ × ℚ)) (lines : List CsvLine) : Prop where
  lines_eq : lines = ⟨csvTime settings (seconds m.activeMealStartMs), first.2⟩ ::
    samples.map (sampleLine settings)
  started : m.activeMealStartMs ≤ first.1
  initial : first.2 = m.initialWeightAtStart
  sampled : List.Sublist (first :: samples) (tickWeights m.activeSched.bowlId 0 calls)
  spaced : (first :: samples).IsChain fun sample next => sample.1 + 1000 ≤ next.1

/-- While a meal is recorded, its file is its log. -/
def Logging (settings : Settings) (calls : List Call) (l : MealLogger) : Prop :=
  l.monitor.activeMealStartMs ≠ 0 → l.monitor.monitorState = .recording →
    l.activeCsvFilename = MealLogger.csvFilename settings l.monitor ∧
      ∃ first samples,
        Logged settings calls l.monitor first samples (l.files l.activeCsvFilename) ∧
          (first :: samples).getLast?.map Prod.fst = some l.lastCsvWriteTimeMs

theorem TicksInOrder.le_last {calls : List Call} {now : ℕ} {previousMealsSum : ℚ}
    (hclock : TicksInOrder (calls ++ [.tick now previousMealsSum])) {earlier : ℕ}
    (hearlier : earlier ∈ ticks calls) : earlier ≤ now := by
  have hsorted := hclock.sorted
  rw [ticks_append_singleton] at hsorted
  exact (List.pairwise_append.mp hsorted).2.2 earlier hearlier now (List.mem_singleton_self now)

theorem TicksInOrder.last_lt {calls : List Call} {now : ℕ} {previousMealsSum : ℚ}
    (hclock : TicksInOrder (calls ++ [.tick now previousMealsSum])) :
    now < 18446744073709551616 := by
  refine hclock.bounded now ?_
  rw [ticks_append_singleton]
  exact List.mem_append_right _ (List.mem_singleton_self now)

/-- The weights are those at the ticks. -/
theorem map_fst_tickWeights (bowlId : String) (weight : ℚ) (calls : List Call) :
    (tickWeights bowlId weight calls).map Prod.fst = ticks calls := by
  induction calls generalizing weight with
  | nil => rfl
  | cons call calls ih =>
      rw [tickWeights, List.map_append, ih, ticks, ticks, List.filterMap_cons]
      cases call.tickTime? <;> rfl

theorem lastReading_cons (bowlId : String) (weight : ℚ) (call : Call) (calls : List Call) :
    (readings bowlId (call :: calls)).getLast?.getD weight =
      (readings bowlId calls).getLast?.getD ((reading bowlId call).getD weight) := by
  unfold readings
  rw [List.filterMap_cons]
  cases reading bowlId call with
  | none => rfl
  | some next =>
      rw [List.getLast?_cons]
      rfl

theorem tickWeights_append_singleton (bowlId : String) (weight : ℚ) (calls : List Call)
    (call : Call) :
    tickWeights bowlId weight (calls ++ [call]) = tickWeights bowlId weight calls ++
      (call.tickTime?.map fun now => (now, (readings bowlId calls).getLast?.getD weight)).toList := by
  induction calls generalizing weight with
  | nil => exact List.append_nil _
  | cons earlier calls ih =>
      rw [List.cons_append, tickWeights, tickWeights, ih, lastReading_cons, List.append_assoc]

section

variable {settings : Settings} {calls : List Call} {l : MealLogger}

theorem sublist_tickWeights {bowlId : String} {log : List (ℕ × ℚ)}
    (hlog : log.Sublist (tickWeights bowlId 0 calls)) (call : Call) :
    log.Sublist (tickWeights bowlId 0 (calls ++ [call])) := by
  rw [tickWeights_append_singleton]
  exact hlog.trans (List.sublist_append_left _ _)

theorem sublist_tickWeights_tick {bowlId : String} {log : List (ℕ × ℚ)}
    (hlog : log.Sublist (tickWeights bowlId 0 calls)) (now : ℕ) (previousMealsSum : ℚ) :
    (log ++ [(now, lastReading bowlId calls)]).Sublist
      (tickWeights bowlId 0 (calls ++ [.tick now previousMealsSum])) := by
  rw [tickWeights_append_singleton]
  exact hlog.append (List.Sublist.refl _)

variable {m m' : DogWellbeingMonitor} {first : ℕ × ℚ} {samples : List (ℕ × ℚ)}
  {lines : List CsvLine}

theorem Logged.of_sameMeal (hlogged : Logged settings calls m first samples lines)
    (hsame : SameMeal m m') (call : Call) :
    Logged settings (calls ++ [call]) m' first samples lines where
  lines_eq := by rw [hsame.startMs, hlogged.lines_eq]
  started := by
    rw [hsame.startMs]
    exact hlogged.started
  initial := by rw [hsame.initialWeight, hlogged.initial]
  sampled := by
    rw [hsame.sched]
    exact sublist_tickWeights hlogged.sampled call
  spaced := hlogged.spaced

/-- The last line is that of a tick. -/
theorem Logged.last_mem_ticks (hlogged : Logged settings calls m first samples lines) {last : ℕ}
    (hlast : (first :: samples).getLast?.map Prod.fst = some last) : last ∈ ticks calls := by
  obtain ⟨sample, hsample, rfl⟩ := Option.map_eq_some_iff.mp hlast
  rw [← map_fst_tickWeights m.activeSched.bowlId 0 calls]
  exact List.mem_map_of_mem (hlogged.sampled.subset (List.mem_of_getLast? hsample))

/-- A second after the last line, a tick adds one. -/
theorem Logged.append (hlogged : Logged settings calls m first samples lines)
    (hweight : m.currentWeight = lastReading m.activeSched.bowlId calls) {last now : ℕ}
    (hlast : (first :: samples).getLast?.map Prod.fst = some last)
    (hspaced : last + 1000 ≤ now) (previousMealsSum : ℚ) :
    Logged settings (calls ++ [.tick now previousMealsSum]) m first
      (samples ++ [(now, m.currentWeight)])
      (lines ++ [⟨csvTime settings (seconds now), m.currentWeight⟩]) where
  lines_eq := by
    rw [hlogged.lines_eq, List.map_append, List.cons_append]
    rfl
  started := hlogged.started
  initial := hlogged.initial
  sampled := by
    rw [← List.cons_append, hweight]
    exact sublist_tickWeights_tick hlogged.sampled now previousMealsSum
  spaced := by
    rw [← List.cons_append]
    refine List.isChain_append.mpr ⟨hlogged.spaced, List.isChain_singleton _, ?_⟩
    rintro sample hsample next hnext
    cases hnext
    rw [hsample] at hlast
    rw [Option.some.inj hlast]
    exact hspaced

end

/-! ## What a call does to the files -/

namespace MealLogger

variable {settings : Settings} {now : ℕ} {l : MealLogger}

theorem append_files (line : CsvLine) (l : MealLogger) :
    (l.append line true).files l.activeCsvFilename = l.files l.activeCsvFilename ++ [line] :=
  Function.update_self _ _ _

theorem logTick_of_starts (hstarts : l.monitor.Starts now) :
    l.logTick settings now true =
      { l with
        activeCsvFilename := csvFilename settings l.monitor
        files := Function.update l.files (csvFilename settings l.monitor)
          [⟨csvTime settings (seconds l.monitor.activeMealStartMs), l.monitor.currentWeight⟩]
        lastCsvWriteTimeMs := now } := by
  obtain ⟨hset, hwaiting, hreached⟩ := hstarts
  unfold logTick
  dsimp only
  rw [if_neg hset, hwaiting]
  dsimp only
  rw [if_pos hreached]
  rfl

theorem logTick_of_recording (hset : l.monitor.activeMealStartMs ≠ 0)
    (hrecording : l.monitor.monitorState = .recording) (hends : ¬ l.monitor.Ends now) :
    l.logTick settings now true =
      if 1000 ≤ sub64 now l.lastCsvWriteTimeMs then
        { l.append ⟨csvTime settings (seconds now), l.monitor.currentWeight⟩ true with
          lastCsvWriteTimeMs := now }
      else l := by
  have hbefore : ¬ l.monitor.activeMealEndMs ≤ now := fun hreached =>
    hends ⟨hset, hrecording, hreached⟩
  unfold logTick
  dsimp only
  rw [if_neg hset, hrecording]
  dsimp only
  rw [if_neg hbefore]

end MealLogger

section

variable {settings : Settings} {calls : List Call} {l : MealLogger}

theorem logging_of_waiting (hwaiting : l.monitor.monitorState = .waiting) :
    Logging settings calls l := by
  intro _ hrecording
  rw [hwaiting] at hrecording
  cases hrecording

theorem Logging.of_not_tick (hlogging : Logging settings calls l) {call : Call}
    (hcall : call.tickTime? = none) :
    Logging settings (calls ++ [call]) (l.step settings (call, true)) := by
  obtain ⟨hsame, -⟩ := sameMeal_of_not_tick settings l.monitor hcall
  have hstep : l.step settings (call, true) =
      { l with monitor := (l.monitor.call settings call).1 } := by
    cases call with
    | tick => cases hcall
    | bowlWeight => rfl
    | waterLevel => rfl
  rw [hstep]
  intro hset hrecording
  dsimp only at hset hrecording ⊢
  rw [hsame.startMs] at hset
  rw [hsame.state] at hrecording
  obtain ⟨hname, first, samples, hlogged, hlast⟩ := hlogging hset hrecording
  refine ⟨?_, first, samples, hlogged.of_sameMeal hsame call, hlast⟩
  rw [hname]
  unfold MealLogger.csvFilename fullMealId
  rw [hsame.sched, hsame.startMs]

/-- The file is created with its first line. -/
theorem logging_of_starts {now : ℕ} (hstarts : l.monitor.Starts now)
    (hweight : l.monitor.currentWeight = lastReading l.monitor.activeSched.bowlId calls)
    (previousMealsSum : ℚ) :
    Logging settings (calls ++ [.tick now previousMealsSum])
      { l.logTick settings now true with
        monitor := { l.monitor with
          monitorState := .recording
          initialWeightAtStart := l.monitor.currentWeight } } := by
  rw [MealLogger.logTick_of_starts hstarts]
  intro _ _
  refine ⟨rfl, (now, l.monitor.currentWeight), [], ?_, rfl⟩
  constructor
  · exact Function.update_self _ _ _
  · exact hstarts.2.2
  · rfl
  · have hfirst := sublist_tickWeights_tick
      (List.nil_sublist (tickWeights l.monitor.activeSched.bowlId 0 calls)) now previousMealsSum
    rw [← hweight] at hfirst
    exact hfirst
  · exact List.isChain_singleton _

/-- While the meal goes on, a tick adds a line if a second has passed since the last one. -/
theorem Logging.of_recording (hlogging : Logging settings calls l) {now : ℕ} {previousMealsSum : ℚ}
    (hclock : TicksInOrder (calls ++ [.tick now previousMealsSum]))
    (hset : l.monitor.activeMealStartMs ≠ 0) (hends : ¬ l.monitor.Ends now)
    (hweight : l.monitor.currentWeight = lastReading l.monitor.activeSched.bowlId calls) :
    Logging settings (calls ++ [.tick now previousMealsSum])
      { l.logTick settings now true with monitor := l.monitor } := by
  intro _ hrecording
  dsimp only at hrecording
  obtain ⟨hname, first, samples, hlogged, hlast⟩ := hlogging hset hrecording
  rw [MealLogger.logTick_of_recording hset hrecording hends]
  split_ifs with hspaced
  · refine ⟨hname, first, samples ++ [(now, l.monitor.currentWeight)], ?_, ?_⟩
    · -- The unsigned difference is the true one, since the clock has not gone back.
      have hle := hclock.le_last (hlogged.last_mem_ticks hlast)
      rw [sub64_of_le hle hclock.last_lt] at hspaced
      have hspaced : l.lastCsvWriteTimeMs + 1000 ≤ now := by omega
      have hlines := hlogged.append hweight hlast hspaced previousMealsSum
      rw [← MealLogger.append_files] at hlines
      exact hlines
    · rw [← List.cons_append, List.getLast?_concat]
      rfl
  · refine ⟨hname, first, samples, ?_, hlast⟩
    exact hlogged.of_sameMeal ⟨rfl, rfl, rfl, rfl, rfl⟩ _

theorem Logging.tick (hlogging : Logging settings calls l) {now : ℕ} {previousMealsSum : ℚ}
    (hclock : TicksInOrder (calls ++ [.tick now previousMealsSum]))
    (hscheduled : l.monitor.activeMealStartMs ≠ 0 → settings.mealSchedules ≠ [])
    (hweight : l.monitor.currentWeight = lastReading l.monitor.activeSched.bowlId calls) :
    Logging settings (calls ++ [.tick now previousMealsSum])
      (l.step settings (.tick now previousMealsSum, true)) := by
  rw [MealLogger.step]
  dsimp only
  rw [DogWellbeingMonitor.call]
  rcases tick_cases settings now previousMealsSum l.monitor with ⟨hunset, htick⟩ |
    ⟨hstarts, htick⟩ | ⟨hends, htick⟩ | ⟨hset, -, hends, htick⟩ <;> rw [htick]
  · by_cases hempty : settings.mealSchedules = []
    · rw [initializeNextMeal_of_empty hempty]
      exact fun hset => absurd hunset hset
    · exact logging_of_waiting (waiting_initializeNextMeal hempty now _)
  · exact logging_of_starts hstarts hweight previousMealsSum
  · exact logging_of_waiting (waiting_initializeNextMeal (hscheduled hends.1) now _)
  · exact hlogging.of_recording hclock hset hends hweight

end

/-- Every file opens. -/
def opened (calls : List Call) : List (Call × Bool) := calls.map fun call => (call, true)

end OroEdge.Wellbeing
