import OroEdge.Lib.Json
import OroEdge.Lib.Run
import OroEdge.Lib.Scan
import OroEdge.Storage.Timestamp
import OroEdge.Tables

/-!
# The wellbeing monitor

`DogWellbeingMonitor` follows one meal at a time: it waits for the next scheduled meal,
takes the weight of its bowl when it starts and again when it ends, and writes a verdict
on it.  Beside that it records served food, and keeps the account of the water tank.

An operation is a function from the monitor to the monitor and the records that it
hands to the storage writer.  What the database answers to the query of a `tick` is an
argument of the call.  Times are unsigned 64-bit milliseconds, and weights and levels
exact rationals.

Local time is a parameter with the two functions that the code calls, and nothing is assumed of
it here; a zone with a fixed offset is one instance.  A text that is scanned leaves a variable
as it was where the text is too short, so that the initial contents of these variables are part
of the settings, with the zero where the source sets one.

The fields keep the values that stand for nothing, such as a weight of 0 or a unit of -1, as the
code compares with them.  The operations come in the order of the source and by its parts:
bowls, the search for a meal, its verdict, and the tank.
-/

namespace OroEdge.Wellbeing

open OroEdge.Lib OroEdge.Storage

/-! ## Local time -/

/-- What clocks show at an instant (`localtime_r`), and the instant at which they show it
(`mktime`), both in seconds since the start of 1970-01-01. -/
structure LocalClock where
  localtime : ℤ → ℤ
  mktime : ℤ → ℤ

namespace LocalClock

/-- A zone without a change of its offset. -/
def fixed (offset : ℤ) : LocalClock := ⟨fun t => t + offset, fun wall => wall - offset⟩

variable (clock : LocalClock) (t : ℤ)

def day : ℤ := clock.localtime t / 86400

def secondOfDay : ℤ := clock.localtime t % 86400

/-- `%Y-%m-%d`. -/
def date : String := (civilDate (clock.day t)).iso

/-- `%z`, with a colon between the hours and the minutes. -/
def timezone : String :=
  let offset := clock.localtime t - t
  (if offset < 0 then "-" else "+") ++ padded 2 (|offset| / 3600) ++ ":" ++
    padded 2 (|offset| / 60 % 60)

end LocalClock

/-- Hours, minutes and seconds. -/
structure Hms where
  hour : ℤ
  minute : ℤ
  second : ℤ
  deriving DecidableEq, Repr

/-- The seconds since midnight. -/
def Hms.seconds (hms : Hms) : ℤ := hms.hour * 3600 + hms.minute * 60 + hms.second

/-- `sscanf` with `%d:%d:%d`; what it does not reach keeps its `initial` value. -/
def scanHms (text : String) (initial : Hms) : Hms where
  hour := (scanTriple ':' text).getD 0 initial.hour
  minute := (scanTriple ':' text).getD 1 initial.minute
  second := (scanTriple ':' text).getD 2 initial.second

/-- The instant at which clocks show `hms` on the day of `t`. -/
def LocalClock.setTime (clock : LocalClock) (t : ℤ) (hms : Hms) : ℤ :=
  clock.mktime (clock.day t * 86400 + hms.seconds)

/-- Milliseconds to a `time_t`. -/
def seconds (ms : ℕ) : ℤ := (ms / 1000 : ℕ)

/-- A `time_t` to milliseconds, unsigned. -/
def milliseconds (t : ℤ) : ℕ := toUint64 t * 1000 % 18446744073709551616

/-! ## Data -/

/-- The fields of a meal schedule that the monitor reads. -/
structure MealSchedule where
  startTime : String
  endTime : String
  mealId : String
  bowlId : String
  deriving DecidableEq, Repr

/-- What the monitor is constructed with, and what it runs on: the clock of the system,
and what the local variables for a start and for an end time hold before they are set. -/
structure Settings where
  deviceId : String
  dogId : String
  mealSchedules : List MealSchedule
  aggregationWindow : String
  clock : LocalClock
  startLocals : Hms
  endLocals : Hms

/-- The JSON that is dumped, or a text that is put together by hand. -/
inductive Metadata
  | dumped (json : Json)
  | text (text : String)
  deriving Repr

/-- The fields of a record that some operation sets. -/
structure SignalRecord where
  signalId : ℤ
  deviceId : String
  dogId : String
  signalType : String
  signalValueNumeric : Option ℚ
  signalValueBoolean : Option Bool
  unit : String
  observedAt : ℕ
  source : String
  metadata : Metadata
  deriving Repr

/-- What `emit_signal` inserts. -/
def emitSignal (record : SignalRecord) : Signal where
  deviceId := record.deviceId
  signalId := some record.signalId
  signalType := record.signalType
  valueNumeric := record.signalValueNumeric
  valueText := none
  valueBoolean := record.signalValueBoolean
  observedAt := unixMsToMicros record.observedAt

inductive MonitorState
  | waiting
  | recording
  deriving DecidableEq, Repr

/-- What is kept of a bowl. -/
structure BowlTracker where
  currentWeight : ℚ
  lastStableWeight : ℚ
  deriving DecidableEq, Repr

/-- The members of the monitor: the meal that is waited for or recorded, the bowls, and the account
of the water tank. -/
structure DogWellbeingMonitor where
  monitorState : MonitorState
  activeSched : MealSchedule
  activeMealStartMs : ℕ
  activeMealEndMs : ℕ
  initialWeightAtStart : ℚ
  bowlTrackers : String → BowlTracker
  lastWaterLevel : ℚ
  dailyWaterIntake : ℚ
  maxWaterLevel : ℚ
  runningRefillAccumulatedIntake : ℚ
  lastWaterDayYday : ℤ
  lastRefillRequired : Bool
  firstRefillCheck : Bool

/-- The monitor after an operation, and the records that the operation has handed over. -/
abbrev Emitting := DogWellbeingMonitor × List SignalRecord

namespace DogWellbeingMonitor

/-- No meal has been found, and nothing has been read. -/
def construct : DogWellbeingMonitor where
  monitorState := .waiting
  activeSched := ⟨"", "", "", ""⟩
  activeMealStartMs := 0
  activeMealEndMs := 0
  initialWeightAtStart := 0
  bowlTrackers _ := ⟨0, 0⟩
  lastWaterLevel := -1
  dailyWaterIntake := 0
  maxWaterLevel := -1
  runningRefillAccumulatedIntake := 0
  lastWaterDayYday := -1
  lastRefillRequired := false
  firstRefillCheck := true

/-! ### Bowls -/

section

variable (settings : Settings)

/-- How much has been put into a bowl. -/
def servedFoodRecord (bowlId : String) (added : ℚ) (now : ℕ) : SignalRecord :=
  ⟨117, settings.deviceId, settings.dogId, "served_food_quantity", some added, none, "grams", now,
    "DW", .dumped (.obj [("bowl_id", .str bowlId), ("event_time", .str (unixMsToIso8601 now))])⟩

/-- That something has been put into a bowl. -/
def servedConfirmationRecord (bowlId : String) (now : ℕ) : SignalRecord :=
  ⟨119, settings.deviceId, settings.dogId, "food_served_confirmation", none, some true, "boolean",
    now, "DW", .dumped (.obj [("bowl_id", .str bowlId), ("confirmed_at", .str (unixMsToIso8601 now)),
      ("verification_source", .str "load_cell")])⟩

def track (bowlId : String) (weight : ℚ) (m : DogWellbeingMonitor) : DogWellbeingMonitor :=
  { m with bowlTrackers := Function.update m.bowlTrackers bowlId ⟨weight, weight⟩ }

/-- A rise by enough is a serving, unless the bowl weighed nothing before. -/
def updateBowlWeight (bowlId : String) (weight : ℚ) (now : ℕ) (m : DogWellbeingMonitor) :
    Emitting :=
  let current := (m.bowlTrackers bowlId).currentWeight
  if current = 0 then (m.track bowlId weight, [])
  else
    (m.track bowlId weight,
      if current + 10 < weight then
        [servedFoodRecord settings bowlId (weight - current) now,
          servedConfirmationRecord settings bowlId now]
      else [])

/-! ### The next meal -/

/-- When a time of day is, today or tomorrow. -/
def getOccurrenceMs (now : ℕ) (text : String) (nextDay : Bool) : ℕ :=
  let t := seconds now + if nextDay then 86400 else 0
  milliseconds (settings.clock.setTime t (scanHms text ⟨0, 0, 0⟩))

/-- The meal with the earlier start; the first one of two. -/
def earlierMeal (best : Option (MealSchedule × ℕ)) (sched : MealSchedule) (startMs : ℕ) :
    Option (MealSchedule × ℕ) :=
  match best with
  | none => some (sched, startMs)
  | some (bestSched, bestStart) =>
      if startMs < bestStart then some (sched, startMs) else some (bestSched, bestStart)

/-- 1. The meals of today that are still to come. -/
def findToday (now : ℕ) : Option (MealSchedule × ℕ) :=
  settings.mealSchedules.foldl (fun best sched =>
    let startMs := getOccurrenceMs settings now sched.startTime false
    if now < startMs then earlierMeal best sched startMs else best) none

/-- 2. The meals of tomorrow. -/
def findTomorrow (now : ℕ) : Option (MealSchedule × ℕ) :=
  settings.mealSchedules.foldl (fun best sched =>
    earlierMeal best sched (getOccurrenceMs settings now sched.startTime true)) none

/-- When the meal ends that starts then.  An end before the start is one of the next day. -/
def nextEndMs (sched : MealSchedule) (startMs : ℕ) : ℕ :=
  let starts := scanHms sched.startTime settings.startLocals
  let ends := scanHms sched.endTime settings.endLocals
  let t := seconds startMs + if ends.seconds < starts.seconds then 86400 else 0
  milliseconds (settings.clock.setTime t ends)

/-- The next meal, its start and its end. -/
def findNextMeal (now : ℕ) : Option (MealSchedule × ℕ × ℕ) :=
  ((findToday settings now).or (findTomorrow settings now)).map fun best =>
    (best.1, best.2, nextEndMs settings best.1 best.2)

/-- The monitor waits for the next meal; it stays as it is if there is none. -/
def initializeNextMeal (now : ℕ) (m : DogWellbeingMonitor) : DogWellbeingMonitor :=
  match findNextMeal settings now with
  | some (sched, startMs, endMs) =>
      { m with
        activeSched := sched
        activeMealStartMs := startMs
        activeMealEndMs := endMs
        monitorState := .waiting }
  | none => m

/-! ### The verdict on a meal -/

/-- The minutes from the start of a meal to its end. -/
def getToleranceWindowMinutes (startText endText : String) : ℤ :=
  let starts := (scanHms startText ⟨0, 0, 0⟩).seconds
  let ends := (scanHms endText ⟨0, 0, 0⟩).seconds
  ((if ends < starts then ends + 86400 else ends) - starts).tdiv 60

variable (m : DogWellbeingMonitor)

/-- The id of a meal on its day. -/
def fullMealId : String :=
  m.activeSched.mealId ++ (civilDate (settings.clock.day (seconds m.activeMealStartMs))).compact

/-- The weight of the bowl of the meal. -/
def currentWeight : ℚ := (m.bowlTrackers m.activeSched.bowlId).currentWeight

/-- What has been eaten since the meal began. -/
def intake : ℚ := m.initialWeightAtStart - m.currentWeight

/-- How much has been eaten in the meal. -/
def perMealRecord : SignalRecord :=
  ⟨1, settings.deviceId, settings.dogId, "food_intake_per_meal", some m.intake, none, "grams",
    m.activeMealStartMs, "system", .dumped (.obj [("bowl_id", .str m.activeSched.bowlId),
      ("meal_id", .str (fullMealId settings m)), ("session_end_time", .int m.activeMealEndMs),
      ("session_start_time", .int m.activeMealStartMs), ("signal_id", .int 1)])⟩

/-- The start of the local day. -/
def startOfDay (now : ℕ) : ℤ := settings.clock.setTime (seconds now) ⟨0, 0, 0⟩

/-- How much has been eaten on the day: what the tables say, and this meal. -/
def perDayRecord (now : ℕ) (previousMealsSum : ℚ) : SignalRecord :=
  ⟨2, settings.deviceId, settings.dogId, "food_intake_per_day", some (previousMealsSum + m.intake),
    none, "grams", now, "system",
    .text ("\x7b\"date\":\"" ++ settings.clock.date (startOfDay settings now) ++
      "\",\"timezone\":\"" ++ settings.clock.timezone (startOfDay settings now) ++
      "\",\"aggregation_window\":\"" ++ settings.aggregationWindow ++ "\"\x7d")⟩

/-- That nothing has been eaten in the meal. -/
def mealSkippedRecord : SignalRecord :=
  ⟨3, settings.deviceId, settings.dogId, "meal_skipped", none, some true, "boolean",
    m.activeMealStartMs, "DW", .dumped (.obj [("meal_id", .str (fullMealId settings m)),
      ("scheduled_meal_time", .str m.activeSched.startTime),
      ("tolerance_window_minutes",
        .int (getToleranceWindowMinutes m.activeSched.startTime m.activeSched.endTime))])⟩

/-- The records at the end of a meal. -/
def verdict (now : ℕ) (previousMealsSum : ℚ) : List SignalRecord :=
  if 5 < m.intake then [perMealRecord settings m, perDayRecord settings m now previousMealsSum]
  else [mealSkippedRecord settings m]

/-- `previousMealsSum` is what the query `get_daily_food_intake` returns, if it is made. -/
def tick (now : ℕ) (previousMealsSum : ℚ) : Emitting :=
  if m.activeMealStartMs = 0 then (initializeNextMeal settings now m, [])
  else
    match m.monitorState with
    | .waiting =>
        if m.activeMealStartMs ≤ now then
          ({ m with monitorState := .recording, initialWeightAtStart := m.currentWeight }, [])
        else (m, [])
    | .recording =>
        if m.activeMealEndMs ≤ now then
          (initializeNextMeal settings now m, verdict settings m now previousMealsSum)
        else (m, [])

/-! ### The water tank -/

/-- Whether the time counts, and the unit that a window ends with. -/
def windowAndUnit (t : ℤ) : Bool × ℤ :=
  let second := settings.clock.secondOfDay t
  let yday := dayOfYear (settings.clock.day t)
  if settings.aggregationWindow = "24h" then (decide (60 ≤ second ∧ second ≤ 86399), yday)
  else if settings.aggregationWindow = "1m" ∨ settings.aggregationWindow = "1min" then
    (true, second / 60 % 60)
  else if settings.aggregationWindow = "1h" then (true, second / 3600)
  else (true, yday)

/-- How much has been drunk in the window that has ended. -/
def waterIntakeRecord (now : ℕ) : SignalRecord :=
  let t := seconds (sub64 now 5000)
  ⟨4, settings.deviceId, settings.dogId, "water_intake_per_day", some m.dailyWaterIntake, none,
    "ml", now, "DW", .dumped (.obj [("aggregation_window", .str settings.aggregationWindow),
      ("date", .str (settings.clock.date t)), ("timezone", .str (settings.clock.timezone t))])⟩

/-- The end of a window, when the unit has changed. -/
def rollWindow (unit : ℤ) (now : ℕ) : Emitting :=
  if m.lastWaterDayYday = -1 then ({ m with lastWaterDayYday := unit }, [])
  else if unit ≠ m.lastWaterDayYday then
    ({ m with
        dailyWaterIntake := 0
        maxWaterLevel := -1
        runningRefillAccumulatedIntake := 0
        lastWaterLevel := -1
        lastWaterDayYday := unit },
      if 0 < m.dailyWaterIntake then [waterIntakeRecord settings m now] else [])
  else (m, [])

/-- The peak of the window, and what has been drunk before a refill. -/
def trackPeak (level : ℚ) : DogWellbeingMonitor :=
  let m := if m.maxWaterLevel < 0 then { m with maxWaterLevel := level, lastWaterLevel := level }
    else m
  if m.maxWaterLevel + 15 < level then
    let previousCycleIntake := m.maxWaterLevel - m.lastWaterLevel
    { m with
      runningRefillAccumulatedIntake :=
        if 0 < previousCycleIntake then m.runningRefillAccumulatedIntake + previousCycleIntake
        else m.runningRefillAccumulatedIntake
      maxWaterLevel := level
      lastWaterLevel := level }
  else if m.maxWaterLevel < level then { m with maxWaterLevel := level }
  else m

/-- The intake is counted from the peak of the level, and only within the window. -/
def addIntake (level : ℚ) (withinWindow : Bool) : DogWellbeingMonitor :=
  let current := max 0 (m.runningRefillAccumulatedIntake + (m.maxWaterLevel - level))
  if withinWindow ∧ m.dailyWaterIntake < current then { m with dailyWaterIntake := current } else m

/-- That the tank has to be refilled. -/
def refillRecord (level : ℚ) (now : ℕ) : SignalRecord :=
  let t := seconds now
  ⟨129, settings.deviceId, settings.dogId, "water_refill_required", none, some true, "boolean", now,
    "DW", .dumped (.obj [("current_level_percent", .float (min 100 (max 0 (level / 5000 * 100)))),
      ("event_time", .str (settings.clock.date t ++ "T" ++
        clockText (settings.clock.secondOfDay t) ++ settings.clock.timezone t)),
      ("reservoir_id", .str "tank")])⟩

/-- The check of the level: only a level that has become low is written. -/
def checkRefill (level : ℚ) (now : ℕ) : Emitting :=
  let required := decide (level < 800)
  if m.firstRefillCheck ∨ required ≠ m.lastRefillRequired then
    ({ m with firstRefillCheck := false, lastRefillRequired := required },
      if required then [refillRecord settings level now] else [])
  else (m, [])

/-- A new window starts a new account; then the reading is counted. -/
def updateWaterLevel (level : ℚ) (now : ℕ) : Emitting :=
  let (withinWindow, unit) := windowAndUnit settings (seconds now)
  let (rolled, records) := rollWindow settings m unit now
  let (checked, refill) := checkRefill settings ((rolled.trackPeak level).addIntake level
    withinWindow) level now
  ({ checked with lastWaterLevel := level }, records ++ refill)

end

end DogWellbeingMonitor

/-! ## Runs -/

/-- The calls of the node. -/
inductive Call
  | bowlWeight (bowlId : String) (weight : ℚ) (now : ℕ)
  | tick (now : ℕ) (previousMealsSum : ℚ)
  | waterLevel (level : ℚ) (now : ℕ)
  deriving DecidableEq, Repr

def DogWellbeingMonitor.call (settings : Settings) (m : DogWellbeingMonitor) : Call → Emitting
  | .bowlWeight bowlId weight now => m.updateBowlWeight settings bowlId weight now
  | .tick now previousMealsSum => m.tick settings now previousMealsSum
  | .waterLevel level now => m.updateWaterLevel settings level now

/-- The monitor, and the records that it has handed over. -/
structure Node where
  monitor : DogWellbeingMonitor
  emitted : List SignalRecord

def Node.construct : Node := ⟨.construct, []⟩

/-- One call; the records of the node are those of all its calls. -/
def step (settings : Settings) (node : Node) (call : Call) : Node where
  monitor := (node.monitor.call settings call).1
  emitted := node.emitted ++ (node.monitor.call settings call).2

end OroEdge.Wellbeing
