import OroEdge.Environment.StoredOnce
import OroEdge.Lib.Changes

/-!
# Excursions from the comfort range

The monitor writes a crossing when a temperature or a humidity is outside of its comfort range and
the reading before was not.  So the crossings are the excursions: over any events, however the two
sensors, the frames and the ticks interleave, there is one for each time that the readings leave
the range, with the reading that left it, and no others (`crossings_after`).

The two sensors are handled by copies of one code; `IsWatched` says what a copy does, once for
both.

`IsWatched` is an interface with three laws: what the monitor keeps tells whether the last
reading was outside, a reading writes a crossing if it is outside and the one kept was not, and
nothing else writes one or moves what is kept.  Both copies satisfy it (`isWatched_temperature`,
`isWatched_humidity`), by cases on the events, and the theorem is proved from it alone, by
induction over the run.  Excursions are changes of a list that begin outside
(`filter_changesOf_append_singleton`), so that the fact about lists is the library's.
-/

namespace OroEdge.Environment

open OroEdge.Lib EnvironmentConditionMonitor

/-- A sensor with a comfort range, the record of a crossing, and what the monitor keeps of it. -/
structure Comfort where
  low : ℚ
  high : ℚ
  signalId : ℤ
  signalType : String
  unit : String
  reading? : Event → Option (ℚ × ℕ)
  crossed : EnvironmentConditionMonitor → Bool

/-- The sensor of `updateTemperature`, with the range of the settings. -/
def temperatureComfort (settings : Settings) : Comfort where
  low := settings.tempMin
  high := settings.tempMax
  signalId := 111
  signalType := "environment_comfort_range_threshold"
  unit := "degrees Celsius"
  reading?
    | .temperature value observedAt => some (value, observedAt)
    | _ => none
  crossed := tempCrossed

def humidityComfort (settings : Settings) : Comfort where
  low := settings.humMin
  high := settings.humMax
  signalId := 112
  signalType := "humidity_comfort_range_threshold"
  unit := "percentage"
  reading?
    | .humidity value observedAt => some (value, observedAt)
    | _ => none
  crossed := humCrossed

/-- The two sensors that have a comfort range. -/
def comforts (settings : Settings) : List Comfort :=
  [temperatureComfort settings, humidityComfort settings]

namespace Comfort

variable (comfort : Comfort)

/-- The limits themselves are inside. -/
def outside (reading : ℚ × ℕ) : Bool :=
  decide (reading.1 < comfort.low) || decide (comfort.high < reading.1)

/-- The readings that leave the range: each is outside, and the one before was not. -/
def excursions (events : List Event) : List (ℚ × ℕ) :=
  (changesOf comfort.outside (events.filterMap comfort.reading?)).filter comfort.outside

/-- The row of a reading that leaves the range. -/
def record (settings : Settings) (reading : ℚ × ℕ) : EnvSignalRecord :=
  crossingRecord settings comfort.signalId comfort.signalType comfort.unit reading.1 reading.2

/-- The records of its crossings. -/
def crossings (records : List EnvSignalRecord) : List EnvSignalRecord :=
  records.filter fun record => decide (record.signalType = comfort.signalType)

theorem crossings_append (first second : List EnvSignalRecord) :
    comfort.crossings (first ++ second) = comfort.crossings first ++ comfort.crossings second :=
  List.filter_append ..

/-- The monitor keeps whether the last reading was outside; it writes one that is outside when it
has not kept that, and nothing else writes a crossing. -/
structure IsWatched (settings : Settings) : Prop where
  starts : comfort.crossed .construct = false
  reads : ∀ m event reading, comfort.reading? event = some reading →
    comfort.crossed (m.event settings event).1 = comfort.outside reading ∧
      comfort.crossings (m.event settings event).2 =
        if comfort.outside reading && !comfort.crossed m then [comfort.record settings reading]
        else []
  others : ∀ m event, comfort.reading? event = none →
    comfort.crossed (m.event settings event).1 = comfort.crossed m ∧
      comfort.crossings (m.event settings event).2 = []

end Comfort

/-! ## One event -/

section

variable {settings : Settings} {m : EnvironmentConditionMonitor} (comfort : Comfort)

theorem crossings_eq_nil {records : List EnvSignalRecord}
    (hother : ∀ record ∈ records, record.signalType ≠ comfort.signalType) :
    comfort.crossings records = [] :=
  List.filter_eq_nil_iff.mpr fun record hrecord htype =>
    hother record hrecord (of_decide_eq_true htype)

/-- The types of the records of a tick, but for the light. -/
def tickTypes : List String := ["environment_temperature", "ambient_humidity", "light_threshold"]

theorem signalType_of_mem_tick {now : ℕ} {record : EnvSignalRecord}
    (hrecord : record ∈ (m.tick settings now).2) :
    record.signalType ∈ tickTypes ∨ record.signalType = settings.targetLightSignalType := by
  obtain ⟨-, htemp | hhum | hlight⟩ := mem_tick hrecord
  · unfold temperatureRecords at htemp
    split at htemp
    · exact Or.inl (by simp [List.mem_singleton.mp htemp, sensorRecord, tickTypes])
    · cases htemp
  · unfold humidityRecords at hhum
    split at hhum
    · exact Or.inl (by simp [List.mem_singleton.mp hhum, sensorRecord, tickTypes])
    · cases hhum
  · unfold lightRecords at hlight
    split at hlight
    · rcases List.mem_cons.mp hlight with rfl | halert
      · exact Or.inr rfl
      · rw [List.mem_ite_nil_right, List.mem_singleton] at halert
        exact Or.inl (by simp [halert.2, lightRecord, tickTypes])
    · cases hlight

theorem crossings_tick (htick : comfort.signalType ∉ tickTypes)
    (hlight : settings.targetLightSignalType ≠ comfort.signalType) (now : ℕ) :
    comfort.crossings (m.tick settings now).2 = [] := by
  refine crossings_eq_nil comfort fun record hrecord htype => ?_
  rcases signalType_of_mem_tick hrecord with hmem | htarget
  · exact htick (htype ▸ hmem)
  · exact hlight (htarget.symm.trans htype)

theorem crossings_lightLevel (htype : comfort.signalType ≠ "ambient_light_level") (value : ℚ)
    (observedAt : ℕ) : comfort.crossings (m.updateLightLevel settings value observedAt).2 = [] := by
  refine crossings_eq_nil comfort fun record hrecord => ?_
  rw [List.mem_singleton.mp hrecord]
  exact htype.symm

theorem crossings_own (records : Bool) (reading : ℚ × ℕ) :
    comfort.crossings (if records then [comfort.record settings reading] else []) =
      if records then [comfort.record settings reading] else [] := by
  cases records with
  | false => rfl
  | true => exact List.filter_cons_of_pos (decide_eq_true rfl)

theorem crossings_foreign (other : Comfort) (hne : other.signalType ≠ comfort.signalType)
    (records : Bool) (reading : ℚ × ℕ) :
    comfort.crossings (if records then [other.record settings reading] else []) = [] := by
  refine crossings_eq_nil comfort fun record hrecord => ?_
  rw [List.mem_ite_nil_right, List.mem_singleton] at hrecord
  rw [hrecord.2]
  exact hne

/-- A tick keeps whether the last reading was outside, if that is no time of a write. -/
theorem crossed_tick (hkeeps : ∀ m now, comfort.crossed { m with lastWriteTimeMs := now } =
    comfort.crossed m) (now : ℕ) : comfort.crossed (m.tick settings now).1 = comfort.crossed m := by
  rcases tick_fst_cases settings m now with hsame | hwritten
  · rw [hsame]
  · rw [hwritten, hkeeps]

end

theorem isWatched_temperature (settings : Settings)
    (hlight : settings.targetLightSignalType ≠ (temperatureComfort settings).signalType) :
    (temperatureComfort settings).IsWatched settings where
  starts := rfl
  reads m event reading hreading := by
    cases event with
    | temperature value observedAt =>
        obtain rfl := Option.some.inj hreading
        exact ⟨rfl, crossings_own (temperatureComfort settings) _ (value, observedAt)⟩
    | _ => cases hreading
  others m event hreading := by
    cases event with
    | temperature value observedAt => cases hreading
    | humidity value observedAt =>
        exact ⟨rfl, crossings_foreign (temperatureComfort settings) (humidityComfort settings)
          (by simp [temperatureComfort, humidityComfort]) _ (value, observedAt)⟩
    | lightLevel value observedAt =>
        exact ⟨rfl, crossings_lightLevel _ (by simp [temperatureComfort]) value observedAt⟩
    | message now frame => exact ⟨rfl, rfl⟩
    | tick now =>
        exact ⟨crossed_tick (temperatureComfort settings) (fun _ _ => rfl) now,
          crossings_tick _ (by simp [temperatureComfort, tickTypes]) hlight now⟩

theorem isWatched_humidity (settings : Settings)
    (hlight : settings.targetLightSignalType ≠ (humidityComfort settings).signalType) :
    (humidityComfort settings).IsWatched settings where
  starts := rfl
  reads m event reading hreading := by
    cases event with
    | humidity value observedAt =>
        obtain rfl := Option.some.inj hreading
        exact ⟨rfl, crossings_own (humidityComfort settings) _ (value, observedAt)⟩
    | _ => cases hreading
  others m event hreading := by
    cases event with
    | humidity value observedAt => cases hreading
    | temperature value observedAt =>
        exact ⟨rfl, crossings_foreign (humidityComfort settings) (temperatureComfort settings)
          (by simp [temperatureComfort, humidityComfort]) _ (value, observedAt)⟩
    | lightLevel value observedAt =>
        exact ⟨rfl, crossings_lightLevel _ (by simp [humidityComfort]) value observedAt⟩
    | message now frame => exact ⟨rfl, rfl⟩
    | tick now =>
        exact ⟨crossed_tick (humidityComfort settings) (fun _ _ => rfl) now,
          crossings_tick _ (by simp [humidityComfort, tickTypes]) hlight now⟩

/-! ## A run -/

/-- A reading outside of the range leaves it if the one before was inside, or there was none. -/
theorem filter_changesOf_append_singleton (outside : ℚ × ℕ → Bool) (readings : List (ℚ × ℕ))
    (reading : ℚ × ℕ) :
    (changesOf outside (readings ++ [reading])).filter outside =
      (changesOf outside readings).filter outside ++
        if outside reading && !(readings.getLast?.map outside).getD false then [reading]
        else [] := by
  rw [changesOf_append_singleton, List.filter_append]
  congr 1
  cases hlast : readings.getLast? with
  | none => cases hout : outside reading <;> simp [hout]
  | some last =>
      cases hout : outside reading <;> cases hbefore : outside last <;> simp [hout, hbefore]

theorem crossings_run {settings : Settings} {comfort : Comfort}
    (hwatched : comfort.IsWatched settings) (events : List Event) :
    comfort.crossed (Node.after settings events).monitor =
        ((events.filterMap comfort.reading?).getLast?.map comfort.outside).getD false ∧
      comfort.crossings (Node.after settings events).emitted =
        (comfort.excursions events).map (comfort.record settings) := by
  induction events using List.reverseRecOn with
  | nil => exact ⟨hwatched.starts, rfl⟩
  | append_singleton events event ih =>
      obtain ⟨hcrossed, hcrossings⟩ := ih
      rw [after_append_singleton, step, Comfort.excursions, List.filterMap_append]
      dsimp only
      rw [comfort.crossings_append, hcrossings]
      cases hreading : comfort.reading? event with
      | none =>
          obtain ⟨hsame, hnone⟩ :=
            hwatched.others (Node.after settings events).monitor event hreading
          rw [hsame, hcrossed, hnone]
          simp [hreading, Comfort.excursions]
      | some reading =>
          obtain ⟨hnew, hrecords⟩ :=
            hwatched.reads (Node.after settings events).monitor event reading hreading
          have hone : [event].filterMap comfort.reading? = [reading] := by simp [hreading]
          rw [hnew, hrecords, hcrossed, hone, List.getLast?_concat,
            filter_changesOf_append_singleton, List.map_append]
          refine ⟨rfl, congrArg _ ?_⟩
          split_ifs <;> rfl

/-- **One crossing for each excursion.**  After any events the crossings of a sensor are the
readings that left its comfort range, each once and in their order, whatever the other sensor, the
frames and the ticks did. -/
theorem crossings_after (settings : Settings) (events : List Event) (comfort : Comfort)
    (hcomfort : comfort ∈ comforts settings)
    (hlight : settings.targetLightSignalType ≠ comfort.signalType) :
    comfort.crossings (Node.after settings events).emitted =
      (comfort.excursions events).map (comfort.record settings) := by
  rcases List.mem_pair.mp hcomfort with rfl | rfl
  · exact (crossings_run (isWatched_temperature settings hlight) events).2
  · exact (crossings_run (isWatched_humidity settings hlight) events).2

/-- The temperature leaves the range twice. -/
def twoExcursions : List Event :=
  [.temperature 20 1000, .temperature 35 2000, .humidity 90 2500, .temperature 36 3000,
    .tick 4000, .temperature 25 5000, .temperature 10 6000]

theorem crossings_after_twoExcursions :
    let comfort := temperatureComfort shippedSettings
    comfort.crossings (Node.after shippedSettings twoExcursions).emitted =
        (comfort.excursions twoExcursions).map (comfort.record shippedSettings) ∧
      comfort.excursions twoExcursions = [(35, 2000), (10, 6000)] :=
  ⟨crossings_after shippedSettings twoExcursions _ List.mem_cons_self (by decide),
    by decide +kernel⟩

end OroEdge.Environment
