import OroEdge.Environment.Monitor
import OroEdge.Jobs.Device
import Mathlib.Tactic.Linarith

/-!
# A dead camera

A row of the ambient light should not be much newer than the frame that its value comes
from: its time should be at most one tick interval after the acceptance of the frame
(`StampedByFrames`).  Then a camera that has died is noticed by the device check
(`reportsStale_of_stamped`).

The estimator keeps its last value, and the tick stamps it with its own time.  So the rows
follow the frames exactly as long as no tick writes a value that is older than the interval
(`stampedByFrames_iff`).

Two facts are joined at a tick.  The value of the estimator was estimated from the last accepted
frame (`luxFrom_after`), by induction over the events, of which only accepted frames move the
estimator; and the rows of the light are written by ticks that find a value, with the time of
the tick (`light_of_mem_handedOver`).  So a row is as new as its tick and its value as old as
the frame, and the difference of the two is what the condition bounds.

The light may also come over a topic of the MCU, with a time of its own.  `NoLightTopic` leaves
this out, as such a row does not come from a frame.
-/

namespace OroEdge.Environment

open OroEdge.Lib OroEdge.Storage OroEdge.Jobs EnvironmentConditionMonitor

/-! ## The property -/

/-- When the estimator has accepted a frame. -/
def acceptedAt? (settings : Settings) : Event → Option ℕ
  | .message now frame =>
      if (acceptedBrightness settings.light.percentile frame).isSome then some now else none
  | _ => none

/-- When the estimator has accepted its last frame. -/
def lastAccepted (settings : Settings) (events : List Event) : Option ℕ :=
  (events.filterMap (acceptedAt? settings)).getLast?

/-- The estimator after the events of a run. -/
def estimatorAfter (settings : Settings) (events : List Event) : AmbientLightEstimator :=
  (Node.after settings events).monitor.lightEstimator

/-- The value was estimated from a frame accepted at `accepted`, and none has been accepted
since. -/
def LuxFrom (settings : Settings) (events : List Event) (accepted : ℕ) (value : Option ℚ) : Prop :=
  ∃ before frame after, events = before ++ .message accepted frame :: after ∧
    acceptedAt? settings (.message accepted frame) = some accepted ∧
    (∀ event ∈ after, acceptedAt? settings event = none) ∧
    value = some (estimatorAfter settings (before ++ [.message accepted frame])).latestLux

/-- The rows of the ambient light are at most one tick interval newer than the acceptance of
the frames that their values come from. -/
def StampedByFrames (settings : Settings) (events : List Event) : Prop :=
  ∀ earlier event later, events = earlier ++ event :: later →
    ∀ record ∈ handedOver settings earlier event, record.signalType = "ambient_light_level" →
      ∃ accepted, LuxFrom settings earlier accepted record.signalValueNumeric ∧
        record.observedAt ≤ accepted + settings.tickIntervalMs

/-- A tick writes, and the estimator has a value. -/
def WritesLight (settings : Settings) (m : EnvironmentConditionMonitor) (now : ℕ) : Prop :=
  m.writes settings now = true ∧ m.lightEstimator.getLatestLux.isSome

instance (settings : Settings) (m : EnvironmentConditionMonitor) (now : ℕ) :
    Decidable (WritesLight settings m now) :=
  inferInstanceAs (Decidable (_ ∧ _))

/-- No tick writes a value more than a tick interval after the last accepted frame. -/
def WritesFreshLight (settings : Settings) (events : List Event) : Prop :=
  ∀ earlier now later, events = earlier ++ .tick now :: later →
    WritesLight settings (Node.after settings earlier).monitor now →
      ∃ accepted ∈ lastAccepted settings earlier, now ≤ accepted + settings.tickIntervalMs

/-- No light topic of the MCU is received. -/
def NoLightTopic (events : List Event) : Prop :=
  ∀ event ∈ events, ∀ value observedAt, event ≠ .lightLevel value observedAt

/-! ## Where the value comes from -/

section

variable (settings : Settings)

theorem estimatorAfter_append_singleton (events : List Event) (event : Event) :
    estimatorAfter settings (events ++ [event]) = match event with
      | .message _ frame => (estimatorAfter settings events).receive settings.light frame
      | _ => estimatorAfter settings events := by
  unfold estimatorAfter
  rw [after_append_singleton, step]
  cases event with
  | tick now =>
      dsimp only [EnvironmentConditionMonitor.event, tick]
      split_ifs <;> rfl
  | _ => rfl

/-- What is not an accepted frame leaves the estimator alone. -/
theorem estimatorAfter_of_not_accepted {event : Event} (hnone : acceptedAt? settings event = none)
    (events : List Event) :
    estimatorAfter settings (events ++ [event]) = estimatorAfter settings events := by
  rw [estimatorAfter_append_singleton]
  cases event with
  | message now frame =>
      have hrejected : acceptedBrightness settings.light.percentile frame = none := by
        by_contra hsome
        rw [acceptedAt?, if_pos (Option.isSome_iff_ne_none.mpr hsome)] at hnone
        cases hnone
      exact AmbientLightEstimator.receive_of_rejected hrejected _
  | _ => rfl

/-- The estimator is as constructed, or its value comes from the last accepted frame. -/
theorem luxFrom_after (events : List Event) :
    (lastAccepted settings events = none ∧
      estimatorAfter settings events = AmbientLightEstimator.construct) ∨
    ∃ accepted ∈ lastAccepted settings events,
      LuxFrom settings events accepted (some (estimatorAfter settings events).latestLux) := by
  induction events using List.reverseRecOn with
  | nil => exact Or.inl ⟨rfl, rfl⟩
  | append_singleton events event ih =>
      have hlast : lastAccepted settings (events ++ [event]) =
          (acceptedAt? settings event).or (lastAccepted settings events) := by
        unfold lastAccepted
        rw [List.filterMap_append]
        cases haccepted : acceptedAt? settings event <;> simp [haccepted]
      cases haccepted : acceptedAt? settings event with
      | none =>
          rw [hlast, haccepted, estimatorAfter_of_not_accepted settings haccepted]
          refine ih.imp id ?_
          rintro ⟨accepted, hmem, before, frame, after, rfl, hframe, hafter, hvalue⟩
          refine ⟨accepted, hmem, before, frame, after ++ [event], by simp, hframe, ?_, hvalue⟩
          exact List.forall_mem_append.mpr ⟨hafter, by simpa using haccepted⟩
      | some accepted =>
          rw [hlast, haccepted]
          cases event with
          | message now frame =>
              obtain rfl : now = accepted := by
                rw [acceptedAt?] at haccepted
                split_ifs at haccepted
                exact Option.some.inj haccepted
              exact Or.inr ⟨now, rfl, events, frame, [], rfl, haccepted, by simp, rfl⟩
          | _ => cases haccepted

/-- The frame of a value is the last accepted one. -/
theorem LuxFrom.mem_lastAccepted {settings : Settings} {events : List Event} {accepted : ℕ}
    {value : Option ℚ} (hfrom : LuxFrom settings events accepted value) :
    accepted ∈ lastAccepted settings events := by
  obtain ⟨before, frame, after, rfl, hframe, hafter, -⟩ := hfrom
  have hnone : after.filterMap (acceptedAt? settings) = [] :=
    List.filterMap_eq_nil_iff.mpr hafter
  simp [lastAccepted, hframe, hnone]

/-! ## What is written of it -/

theorem fst_of_mem_getLatestLux {e : AmbientLightEstimator} {reading : ℚ × ℚ × String}
    (hreading : e.getLatestLux = some reading) : reading.1 = e.latestLux := by
  unfold AmbientLightEstimator.getLatestLux at hreading
  split_ifs at hreading
  rw [← Option.some.inj hreading]

/-- Rows of the ambient light are written by ticks, with their own time and the value of the
estimator. -/
theorem light_of_mem_handedOver {earlier : List Event} {event : Event} {record : EnvSignalRecord}
    (htopic : ∀ value observedAt, event ≠ .lightLevel value observedAt)
    (hrecord : record ∈ handedOver settings earlier event)
    (htype : record.signalType = "ambient_light_level") :
    ∃ now, event = .tick now ∧ settings.targetLightSignalType = "ambient_light_level" ∧
      WritesLight settings (Node.after settings earlier).monitor now ∧ record.observedAt = now ∧
      record.signalValueNumeric = some (estimatorAfter settings earlier).latestLux := by
  unfold handedOver at hrecord
  unfold estimatorAfter
  rcases mem_event settings _ hrecord with hother | ⟨value, observedAt, hevent, -⟩ |
    ⟨now, reading, hevent, hwrites, hreading, rfl⟩
  · rw [htype] at hother
    exact absurd hother (by decide)
  · exact absurd hevent (htopic value observedAt)
  · refine ⟨now, hevent, htype, ⟨hwrites, by rw [hreading]; rfl⟩, rfl, ?_⟩
    exact congrArg some (fst_of_mem_getLatestLux hreading)

end

/-- **Rows of the light, exactly.**  If the light is stored as `ambient_light_level`, its rows
follow the accepted frames if and only if no tick writes a value more than a tick interval
after the last of them. -/
theorem stampedByFrames_iff (settings : Settings) (events : List Event)
    (htopic : NoLightTopic events) :
    StampedByFrames settings events ↔
      (settings.targetLightSignalType = "ambient_light_level" →
        WritesFreshLight settings events) := by
  constructor
  · rintro hstamped htarget earlier now later rfl ⟨hwrites, hsome⟩
    obtain ⟨reading, hreading⟩ := Option.isSome_iff_exists.mp hsome
    obtain ⟨accepted, hfrom, hle⟩ := hstamped earlier (.tick now) later rfl _
      (lightRecord_mem_tick hwrites hreading) htarget
    exact ⟨accepted, hfrom.mem_lastAccepted, hle⟩
  · rintro hfresh earlier event later rfl record hrecord htype
    obtain ⟨now, rfl, htarget, hwrites, hobserved, hvalue⟩ :=
      light_of_mem_handedOver settings (htopic event (by simp)) hrecord htype
    rw [hobserved, hvalue]
    obtain ⟨accepted, hlast, hle⟩ := hfresh htarget earlier now later rfl hwrites
    rcases luxFrom_after settings earlier with ⟨hnone, -⟩ | ⟨accepted', hlast', hfrom⟩
    · rw [hnone] at hlast
      cases hlast
    · obtain rfl := Option.mem_unique hlast' hlast
      exact ⟨accepted', hfrom, hle⟩

/-- If the rows follow the frames, a camera is reported as stale once it has been dead for a
quarter of an hour and one tick interval. -/
theorem reportsStale_of_stamped {settings : Settings} {events : List Event}
    (hstamped : StampedByFrames settings events) (hdevice : settings.deviceId ≠ "")
    (hrange : ∀ record ∈ (Node.after settings events).emitted, record.observedAt < 9223372036854)
    {stored : List Signal} {now : String → ℤ}
    (hstored : ∀ row ∈ signalsOf settings.deviceId "ambient_light_level" stored,
      row.observedAt + 900000000 < now "ambient_light_level")
    (hdead : ∀ event ∈ events, ∀ accepted ∈ acceptedAt? settings event,
      ((accepted + settings.tickIntervalMs : ℕ) : ℤ) * 1000 + 900000000 <
        now "ambient_light_level")
    {status : Option String} {q : DeviceAnswers}
    (hq : Answers ⟨table stored (Node.after settings events), status⟩ settings.deviceId now q) :
    (deviceHealthCheck settings.deviceId q).ReportsStale "ambient_light_level" := by
  refine (reportsStale_iff hdevice).mpr
    ⟨⟨"ambient_light_level", "Ambient Light Level", 15⟩, by simp [sensorChecks], rfl, ?_⟩
  rw [hq.freshnessMinutes, lt_freshness_iff (by norm_num)]
  have hold : ∀ row ∈ signalsOf settings.deviceId "ambient_light_level"
      (table stored (Node.after settings events)),
      row.observedAt + 900000000 < now "ambient_light_level" := by
    intro row hrow
    unfold table signalsOf at hrow
    rw [List.filter_append] at hrow
    rcases List.mem_append.mp hrow with hrow | hrow
    · exact hstored row hrow
    obtain ⟨hrow, htype⟩ := List.mem_filter.mp hrow
    obtain ⟨record, hrecord, rfl⟩ := List.mem_map.mp hrow
    simp only [Bool.and_eq_true, decide_eq_true_eq] at htype
    obtain ⟨earlier, event, later, rfl, hmem⟩ := exists_handedOver hrecord
    obtain ⟨accepted, hfrom, hle⟩ := hstamped earlier event later rfl record hmem htype.2
    obtain ⟨before, frame, after, rfl, hframe, -⟩ := hfrom
    have hlimit := hdead (.message accepted frame) (by simp) accepted hframe
    have hobserved : (emitSignal record).observedAt = record.observedAt * 1000 :=
      unixMsToMicros_of_lt (hrange record hrecord)
    rw [hobserved]
    omega
  intro row hrow
  have hrow := hold row hrow
  have hminutes : (900000000 : ℤ) < now "ambient_light_level" - row.observedAt := by omega
  calc (15 : ℚ) * 60000000 = ((900000000 : ℤ) : ℚ) := by norm_num
    _ < ((now "ambient_light_level" - row.observedAt : ℤ) : ℚ) := by exact_mod_cast hminutes

/-! ### A camera that dies after its first frame -/

/-- The configuration of the product; the power is that of a brightness of 0 or 1. -/
def shippedSettings : Settings where
  deviceId := "dev"
  locationZone := "zone_living_room"
  sensorSource := "MCU"
  tempMin := 16
  tempMax := 30
  humMin := 20
  humMax := 50
  updatedAt := "N/A"
  light := ⟨fun base _ => base, 1 / 20, 9 / 5, 3 / 20, 50⟩

/-- A frame of a dark room. -/
def darkFrame : VideoFrame := ⟨640, 480, 460800, some ⟨[19200], by decide⟩⟩

/-- The frame is accepted after one second, and then there are `ticks` ticks, a minute apart. -/
def oneFrame (ticks : ℕ) : List Event :=
  .message 1000 (some darkFrame) :: (List.range ticks).map fun i => .tick (2000 + 60000 * i)

theorem noLightTopic_oneFrame (ticks : ℕ) : NoLightTopic (oneFrame ticks) := by
  rintro event hevent value observedAt rfl
  simp [oneFrame] at hevent

/-- The first tick writes the value of the frame one second after it. -/
theorem stampedByFrames_first : StampedByFrames shippedSettings (oneFrame 1) := by
  refine (stampedByFrames_iff shippedSettings (oneFrame 1) (noLightTopic_oneFrame 1)).mpr ?_
  intro _ earlier now later hsplit _
  have hone : oneFrame 1 = [.message 1000 (some darkFrame), .tick 2000] := rfl
  rw [hone] at hsplit
  cases earlier with
  | nil => cases (List.cons.inj hsplit).1
  | cons first rest =>
      obtain ⟨rfl, hrest⟩ := List.cons.inj hsplit
      cases rest with
      | nil =>
          cases (List.cons.inj hrest).1
          exact ⟨1000, by decide +kernel, by decide⟩
      | cons second rest => simp at hrest

/-- **Failing input.**  For twenty minutes the ticks write the value of the dead camera with
their own times, and the device check does not report it. -/
theorem not_stampedByFrames_dead :
    ¬ StampedByFrames shippedSettings (oneFrame 21) ∧
      ∀ q, Answers ⟨table [] (Node.after shippedSettings (oneFrame 21)), none⟩ "dev"
          (fun _ => 1203000000) q →
        ¬ (deviceHealthCheck "dev" q).ReportsStale "ambient_light_level" := by
  constructor
  · intro hstamped
    have hreading : (Node.after shippedSettings (oneFrame 20)).monitor.lightEstimator.getLatestLux =
        some (0, 95 / 100, "dark") := by decide +kernel
    obtain ⟨accepted, hfrom, hle⟩ := hstamped (oneFrame 20) (.tick 1202000) [] (by decide +kernel)
      _ (lightRecord_mem_tick (by decide +kernel) hreading) rfl
    have haccepted : lastAccepted shippedSettings (oneFrame 20) = some 1000 := by decide +kernel
    obtain rfl : 1000 = accepted :=
      Option.some.inj (haccepted.symm.trans hfrom.mem_lastAccepted)
    exact absurd hle (by decide +kernel)
  · intro q hq hstale
    obtain ⟨check, hcheck, htype, hold⟩ := (reportsStale_iff (by decide)).mp hstale
    rw [hq.freshnessMinutes, htype] at hold
    have hage : freshness 1203000000 (signalsOf "dev" "ambient_light_level"
        (table [] (Node.after shippedSettings (oneFrame 21)))) = 1 / 60 := by decide +kernel
    rw [hage] at hold
    have hlimit : ∀ check ∈ sensorChecks, (1 / 60 : ℚ) ≤ check.maxAgeMinutes := by decide +kernel
    exact absurd hold (not_lt.mpr (hlimit check hcheck))

end OroEdge.Environment
