import OroEdge.Executor.StatusSubscriber
import OroEdge.Lib.Run
import OroEdge.Lib.Since
import Mathlib.Data.List.Induction

/-!
# Manual moves

A move that a motor has made should not be logged as manual: when the event of a lid is
emitted, its motor has not run since the lid last reported the opposite stable state
(`OnlyManualMoves`).

A motor that starts disarms the trigger, but a transition that is reported after it arms it
again; the check for a running motor is commented out.  So the property holds in a run in
which no transition is reported after the motor has run (`onlyManualMoves_run`).

The trigger and the stable state are the two fields of a tracker that decide whether an event is
emitted, and `next_of_reports` and `next_of_not_reportsStable` say what a message does to them:
a report of the lid either follows it or arms the trigger, a message of its motor disarms it,
and any other message leaves both alone.

`Followed` says what they mean for the history.  The stable state is the last one that was
reported, and an armed trigger tells that the motor has not run since.  A transition that is
reported after the motor has run arms the trigger without this being true, and that is the only
step that does not preserve it (`followed_next`).
-/

namespace OroEdge.Executor

open OroEdge.Lib

namespace StatusSubscriber

/-! ## The property -/

/-- A message, and the clocks when it is handled. -/
structure Handling where
  clocks : Clocks
  message : StatusMessage
  deriving DecidableEq, Repr

/-- The subscriber after a message. -/
def next (s : StatusSubscriber) (handling : Handling) : StatusSubscriber :=
  (s.handleMessage handling.clocks handling.message).1

/-- The lid reports a state. -/
def Reports (lid : Lid) (state : ℚ) (handling : Handling) : Prop :=
  source? handling.message.topic = some (.lid lid) ∧ handling.message.size = 14 ∧
    handling.message.value = .finite state

instance (lid : Lid) (state : ℚ) (handling : Handling) : Decidable (Reports lid state handling) :=
  inferInstanceAs (Decidable (_ ∧ _ ∧ _))

/-- The lid reports that it is closed or open. -/
def ReportsStable (lid : Lid) (handling : Handling) : Prop :=
  Reports lid 0 handling ∨ Reports lid 1 handling

/-- The motor of the lid has a state other than 0. -/
def MotorRuns (lid : Lid) (handling : Handling) : Prop :=
  source? handling.message.topic = some (.motor lid) ∧ handling.message.size = 11 ∧
    handling.message.state ≠ 0

instance (lid : Lid) (handling : Handling) : Decidable (MotorRuns lid handling) :=
  inferInstanceAs (Decidable (_ ∧ _ ∧ _))

/-- The stable state from which a lid has been moved. -/
def opposite (signalId : ℕ) : ℚ := if signalId = 84 then 0 else 1

/-- The motor has not run since the last report of the state. -/
def StillSince (lid : Lid) (state : ℚ) (history : List Handling) : Prop :=
  ∃ report since, SinceLast (Reports lid state) history report since ∧
    ∀ handling ∈ since, ¬ MotorRuns lid handling

/-- The events of the lid that are emitted in a run are about manual moves. -/
def OnlyManualMoves (lid : Lid) (handlings : List Handling) : Prop :=
  ∀ earlier handling later, handlings = earlier ++ handling :: later → ∀ signalId,
    ((run next initial earlier).handleMessage handling.clocks handling.message).2 =
        some (manualCommand handling.clocks.nowMs lid signalId) →
      StillSince lid (opposite signalId) earlier

/-- When the lid reports a transition, its motor has not run since the lid was last stable. -/
def ArmedStill (lid : Lid) (handlings : List Handling) : Prop :=
  ∀ earlier handling later, handlings = earlier ++ handling :: later → Reports lid 3 handling →
    ∀ report since, SinceLast (ReportsStable lid) earlier report since →
      ∀ other ∈ since, ¬ MotorRuns lid other

/-! ## The trigger -/

@[simp] theorem motor_lastStableState (t : LidTracker) (state : ℕ) :
    (t.motor state).lastStableState = t.lastStableState := by
  unfold LidTracker.motor
  split_ifs <;> rfl

@[simp] theorem motor_manualTransition (t : LidTracker) (state : ℕ) :
    (t.motor state).manualTransition = if state ≠ 0 then false else t.manualTransition := by
  unfold LidTracker.motor
  split_ifs <;> rfl

@[simp] theorem report_lastStableState (t : LidTracker) (clocks : Clocks) (lid : Lid)
    (value : Extended) :
    (t.report clocks lid value).1.lastStableState = (t.reported value).lastStableState := by
  unfold LidTracker.report
  cases t.moved value <;> rfl

@[simp] theorem report_manualTransition (t : LidTracker) (clocks : Clocks) (lid : Lid)
    (value : Extended) :
    (t.report clocks lid value).1.manualTransition = (t.reported value).manualTransition := by
  unfold LidTracker.report
  cases t.moved value <;> rfl

/-- What a message does to the tracker of a lid. -/
theorem tracker_next (s : StatusSubscriber) (handling : Handling) (lid : Lid) :
    (s.next handling).tracker lid =
      if source? handling.message.topic = some (.motor lid) ∧ handling.message.size = 11 then
        (s.tracker lid).motor handling.message.state
      else if source? handling.message.topic = some (.lid lid) ∧ handling.message.size = 14 then
        ((s.tracker lid).report handling.clocks lid handling.message.value).1
      else s.tracker lid := by
  unfold next handleMessage
  cases source? handling.message.topic with
  | none => simp
  | some source =>
      cases source with
      | motor other =>
          by_cases hsize : handling.message.size = 11
          · by_cases hlid : lid = other
            · subst hlid
              simp [hsize]
            · simp [hsize, tracker_setTracker_of_ne _ _ hlid, Ne.symm hlid]
          · simp [hsize]
      | lid other =>
          by_cases hsize : handling.message.size = 14
          · by_cases hlid : lid = other
            · subst hlid
              simp [hsize]
            · simp [hsize, tracker_setTracker_of_ne _ _ hlid, Ne.symm hlid]
          · simp [hsize]

theorem moved_eq_some {t : LidTracker} {value : Extended} {signalId : ℕ}
    (hmoved : t.moved value = some signalId) :
    t.manualTransition = true ∧ t.lastStableState = opposite signalId := by
  unfold LidTracker.moved at hmoved
  split_ifs at hmoved with hopened hclosed
  · cases hmoved
    exact hopened.2
  · cases hmoved
    exact hclosed.2

theorem opposite_eq (signalId : ℕ) : opposite signalId = 0 ∨ opposite signalId = 1 := by
  unfold opposite
  split_ifs
  · exact Or.inl rfl
  · exact Or.inr rfl

theorem manualCommand_inj {nowMs : ℤ} {lid lid' : Lid} {signalId signalId' : ℕ}
    (hsame : manualCommand nowMs lid signalId = manualCommand nowMs lid' signalId') :
    lid = lid' ∧ signalId = signalId' := by
  obtain ⟨hsignal, -, -, -, -, hpayload⟩ := Command.mk.inj hsame
  refine ⟨?_, hsignal⟩
  cases lid <;> cases lid' <;> simp [Lid.id] at hpayload ⊢

section

variable {s : StatusSubscriber} {handling : Handling} {lid : Lid}

/-- A lid that reports a stable state is followed. -/
theorem next_of_reports {state : ℚ} (hreports : Reports lid state handling)
    (hstable : state = 0 ∨ state = 1) :
    ((s.next handling).tracker lid).lastStableState = state := by
  obtain ⟨hsource, hsize, hvalue⟩ := hreports
  rw [tracker_next, if_neg (by simp [hsource]), if_pos ⟨hsource, hsize⟩, report_lastStableState,
    hvalue]
  rcases hstable with rfl | rfl <;> simp [LidTracker.reported]

/-- Any other message leaves the stable state.  If the trigger is armed after it, the motor has
not started, and the trigger has been armed before, or the lid reports a transition. -/
theorem next_of_not_reportsStable (hnot : ¬ ReportsStable lid handling) :
    ((s.next handling).tracker lid).lastStableState = (s.tracker lid).lastStableState ∧
      (((s.next handling).tracker lid).manualTransition = true →
        ¬ MotorRuns lid handling ∧
          ((s.tracker lid).manualTransition = true ∨ Reports lid 3 handling)) := by
  rw [tracker_next]
  by_cases hmotor : source? handling.message.topic = some (.motor lid) ∧ handling.message.size = 11
  · rw [if_pos hmotor, motor_lastStableState, motor_manualTransition]
    refine ⟨rfl, fun harmed => ?_⟩
    by_cases hstate : handling.message.state = 0
    · rw [if_neg (by simp [hstate])] at harmed
      exact ⟨fun hruns => hruns.2.2 hstate, Or.inl harmed⟩
    · rw [if_pos hstate] at harmed
      cases harmed
  rw [if_neg hmotor]
  have hstill : ¬ MotorRuns lid handling := fun hruns => hmotor ⟨hruns.1, hruns.2.1⟩
  by_cases hlid : source? handling.message.topic = some (.lid lid) ∧ handling.message.size = 14
  · rw [if_pos hlid, report_lastStableState, report_manualTransition]
    have hopen : handling.message.value ≠ .finite 1 := fun h => hnot (Or.inr ⟨hlid.1, hlid.2, h⟩)
    have hclosed : handling.message.value ≠ .finite 0 := fun h => hnot (Or.inl ⟨hlid.1, hlid.2, h⟩)
    unfold LidTracker.reported
    by_cases htransition : handling.message.value = .finite 3
    · rw [if_pos htransition]
      exact ⟨rfl, fun _ => ⟨hstill, Or.inr ⟨hlid.1, hlid.2, htransition⟩⟩⟩
    · rw [if_neg htransition, if_neg hopen, if_neg hclosed]
      exact ⟨rfl, fun harmed => ⟨hstill, Or.inl harmed⟩⟩
  · rw [if_neg hlid]
    exact ⟨rfl, fun harmed => ⟨hstill, Or.inl harmed⟩⟩

/-! ## The invariant -/

/-- The stable state is the one that was reported last, and the motor has not run since if the
trigger is armed. -/
def Followed (lid : Lid) (t : LidTracker) (history : List Handling) : Prop :=
  t.lastStableState = -1 ∨ ∃ report since, SinceLast (ReportsStable lid) history report since ∧
    Reports lid t.lastStableState report ∧
      (t.manualTransition = true → ∀ handling ∈ since, ¬ MotorRuns lid handling)

theorem followed_next {history : List Handling} (hfollowed : Followed lid (s.tracker lid) history)
    (hstill : Reports lid 3 handling → ∀ report since,
      SinceLast (ReportsStable lid) history report since →
        ∀ other ∈ since, ¬ MotorRuns lid other) :
    Followed lid ((s.next handling).tracker lid) (history ++ [handling]) := by
  by_cases hstable : ReportsStable lid handling
  · refine Or.inr ⟨handling, [], .now hstable history, ?_, fun _ _ hmem => by cases hmem⟩
    rcases hstable with hclosed | hopen
    · rw [next_of_reports hclosed (Or.inl rfl)]
      exact hclosed
    · rw [next_of_reports hopen (Or.inr rfl)]
      exact hopen
  · obtain ⟨hsame, harmed⟩ := next_of_not_reportsStable (s := s) hstable
    unfold Followed
    rw [hsame]
    refine hfollowed.imp_right ?_
    rintro ⟨report, since, hsince, hreport, hquiet⟩
    refine ⟨report, since ++ [handling], hsince.snoc hstable, hreport,
      fun hmanual other hother => ?_⟩
    obtain ⟨hnot, hbefore⟩ := harmed hmanual
    rcases List.mem_append.mp hother with hother | hother
    · rcases hbefore with hbefore | htransition
      · exact hquiet hbefore other hother
      · exact hstill htransition report since hsince other hother
    · rw [List.mem_singleton.mp hother]
      exact hnot

end

theorem ArmedStill.of_append {lid : Lid} {first second : List Handling}
    (hstill : ArmedStill lid (first ++ second)) : ArmedStill lid first := by
  rintro earlier handling later rfl
  exact hstill earlier handling (later ++ second) (by simp)

/-- The invariant of the runs in which no transition is reported after the motor has run. -/
theorem followed_run {lid : Lid} {history : List Handling} (hstill : ArmedStill lid history) :
    Followed lid ((run next initial history).tracker lid) history := by
  induction history using List.reverseRecOn with
  | nil =>
      refine Or.inl ?_
      cases lid <;> rfl
  | append_singleton history handling ih =>
      rw [run_append]
      exact followed_next (ih hstill.of_append) (hstill history handling [] rfl)

/-! ## Main theorem -/

theorem stillSince_of_emits {s : StatusSubscriber} {handling : Handling} {lid : Lid}
    {signalId : ℕ} {history : List Handling} (hfollowed : Followed lid (s.tracker lid) history)
    (hemits : Emits handling.clocks s handling.message lid signalId) :
    StillSince lid (opposite signalId) history := by
  obtain ⟨-, -, hmoved, -⟩ := hemits
  obtain ⟨harmed, hstate⟩ := moved_eq_some hmoved
  rcases hfollowed with hunknown | ⟨report, since, hsince, hreport, hquiet⟩
  · -- a lid that has never been stable has not been moved
    rw [hstate] at hunknown
    rcases opposite_eq signalId with h | h
    · exact absurd (h.symm.trans hunknown) (by decide)
    · exact absurd (h.symm.trans hunknown) (by decide)
  · rw [hstate] at hreport
    refine ⟨report, since, hsince.of_imp (fun other hother => ?_) hreport, hquiet harmed⟩
    rcases opposite_eq signalId with h | h
    · rw [h] at hother
      exact Or.inl hother
    · rw [h] at hother
      exact Or.inr hother

/-- **Manual moves only.**  In a run in which no transition of the lid is reported after its
motor has run since the lid was last stable, no move that the motor has made is logged as
manual. -/
theorem onlyManualMoves_run (lid : Lid) (handlings : List Handling)
    (hstill : ArmedStill lid handlings) : OnlyManualMoves lid handlings := by
  rintro earlier handling later rfl signalId hemitted
  obtain ⟨lid', signalId', hemits, hcmd⟩ := handleMessage_snd_eq_some_iff.mp hemitted
  obtain ⟨rfl, rfl⟩ := manualCommand_inj hcmd
  exact stillSince_of_emits (followed_run hstill.of_append) hemits

/-! ### Lid 1 is opened -/

/-- Lid 1 reports a state, at a number of seconds. -/
def reportOfLid1 (seconds : ℤ) (state : ℚ) : Handling :=
  ⟨⟨1000000000 * seconds, 1000 * seconds⟩, ⟨"/status/lid/1", 14, 0, .finite state⟩⟩

/-- A motor starts, at a number of seconds. -/
def motorStarts (seconds : ℤ) (lid : Lid) : Handling :=
  ⟨⟨1000000000 * seconds, 1000 * seconds⟩, ⟨lid.motorTopic, 11, 1, .nan⟩⟩

/-- The motor of lid 2 does not matter. -/
theorem onlyManualMoves_otherMotor :
    OnlyManualMoves .lid1 [reportOfLid1 1 0, motorStarts 2 .lid2, reportOfLid1 3 3,
      reportOfLid1 4 1] := by
  have hquiet : ∀ handling ∈ [reportOfLid1 1 0, motorStarts 2 .lid2, reportOfLid1 3 3,
      reportOfLid1 4 1], ¬ MotorRuns .lid1 handling := by decide
  refine onlyManualMoves_run .lid1 _ fun earlier handling later hsplit _ report since hsince => ?_
  intro other hother
  obtain ⟨before, rfl⟩ := hsince.split
  exact hquiet other (by rw [hsplit]; simp [hother])

/-- **Failing input.**  The motor of lid 1 starts, the lid reports the transition, and then that
it is open; that is logged as a manual move. -/
theorem not_onlyManualMoves_motor :
    ¬ OnlyManualMoves .lid1 [reportOfLid1 1 0, motorStarts 2 .lid1, reportOfLid1 3 3,
      reportOfLid1 4 1] := by
  intro honly
  have hclosed : SinceLast (Reports .lid1 0) [reportOfLid1 1 0, motorStarts 2 .lid1,
      reportOfLid1 3 3] (reportOfLid1 1 0) [motorStarts 2 .lid1, reportOfLid1 3 3] :=
    ⟨⟨[], rfl⟩, by decide, by decide⟩
  obtain ⟨report, since, hsince, hquiet⟩ := honly [reportOfLid1 1 0, motorStarts 2 .lid1,
    reportOfLid1 3 3] (reportOfLid1 4 1) [] rfl 84 rfl
  rw [← hclosed.since_eq hsince] at hquiet
  exact hquiet (motorStarts 2 .lid1) (by simp) (by decide)

end StatusSubscriber

end OroEdge.Executor
