import Mathlib.Data.List.Chain
import OroEdge.Executor.ManualMoves

/-!
# Two lids, one machine

The two lids should be independent copies of one machine with a stable state, a trigger and a
debounce of one second (`IndependentLids`): what is emitted for a lid is what the machine
emits on the messages of that lid alone, the events of a lid are a second apart, and an event
that is suppressed still moves the stable state.

`LidMachine` is that machine.  The tracker of a lid simulates it (`Simulates.step_report`), and
messages of the other lid do not touch the tracker.

The abstract machine knows nothing of messages, numbers or the two clocks.  It has three fields,
and `handle_cases` is all that has to be said of a step of it: at most one event, and only if
the last one is not recent.  That its events are a second apart is then an induction over its
own runs (`events_apart`), without a tracker in sight.

The tracker has more fields than the machine, in other types: a number for the stable state, and
nanoseconds for the last event, whose distance is rounded to milliseconds before it is compared
(`tdiv_million_lt_iff`).  `Simulates` relates the ones that decide what is emitted.  The times
of the steady clock have to be positive, because the tracker keeps a 0 for an event that has not
been.
-/

namespace OroEdge.Executor

open OroEdge.Lib

/-! ## The machine -/

/-- The two positions in which a lid can rest. -/
inductive Stable
  | closed
  | opened
  deriving DecidableEq, Repr

namespace Stable

def other : Stable → Stable
  | closed => opened
  | opened => closed

/-- The number of a state in a report. -/
def number : Stable → ℚ
  | closed => 0
  | opened => 1

/-- The command for a lid that has come to the state. -/
def signalId : Stable → ℕ
  | closed => 123
  | opened => 84

/-- No state has the number of an unknown one. -/
theorem getD_number_eq_iff (stable : Option Stable) (state : Stable) :
    (stable.map number).getD (-1) = state.number ↔ stable = some state := by
  have hunknown : (-1 : ℚ) ≠ 1 := by decide
  cases stable with
  | none => cases state <;> simp [number, hunknown]
  | some found => cases state <;> cases found <;> simp [number]

end Stable

/-- What a message tells of one lid. -/
inductive LidReport
  | motorRuns
  | transition
  | stable (state : Stable)
  deriving DecidableEq, Repr

/-- What has to be known of one lid: where it rested last, whether it has moved since, and when it
was last moved by hand. -/
structure LidMachine where
  stable : Option Stable
  armed : Bool
  lastEvent : Option ℤ
  deriving DecidableEq, Repr

namespace LidMachine

/-- The lid has not been reported yet. -/
def initial : LidMachine := ⟨none, false, none⟩

/-- An event less than a second ago. -/
def recent (now : ℤ) (lastEvent : Option ℤ) : Bool :=
  lastEvent.any fun time => decide (now - time < 1000000000)

/-- The state ends a move from the other one. -/
def Moves (machine : LidMachine) (state : Stable) : Prop :=
  machine.armed = true ∧ machine.stable = some state.other

instance (machine : LidMachine) (state : Stable) : Decidable (machine.Moves state) :=
  inferInstanceAs (Decidable (_ ∧ _))

/-- A transition arms the trigger, and a motor that runs disarms it.  A stable state that ends
a move is an event, if the last one is not recent. -/
def handle (machine : LidMachine) (now : ℤ) : LidReport → LidMachine × Option Stable
  | .motorRuns => ({ machine with armed := false }, none)
  | .transition => ({ machine with armed := true }, none)
  | .stable state =>
      if machine.Moves state then
        if recent now machine.lastEvent then (⟨some state, false, machine.lastEvent⟩, none)
        else (⟨some state, false, some now⟩, some state)
      else (⟨some state, false, machine.lastEvent⟩, none)

/-- The events of a sequence of reports, with the clocks when they are emitted. -/
def events : LidMachine → List (Clocks × LidReport) → List (Clocks × Stable)
  | _, [] => []
  | machine, (clocks, report) :: rest =>
      ((machine.handle clocks.steadyNs report).2.map fun state => (clocks, state)).toList ++
        events (machine.handle clocks.steadyNs report).1 rest

/-- The machine emits at most one event, and only if the last one is not recent. -/
theorem handle_cases (machine : LidMachine) (now : ℤ)
    (report : LidReport) :
    ((machine.handle now report).2 = none ∧
        (machine.handle now report).1.lastEvent = machine.lastEvent) ∨
      ∃ state, (machine.handle now report).2 = some state ∧
        (machine.handle now report).1.lastEvent = some now ∧
        recent now machine.lastEvent = false := by
  cases report with
  | motorRuns => exact Or.inl ⟨rfl, rfl⟩
  | transition => exact Or.inl ⟨rfl, rfl⟩
  | stable state =>
      unfold handle
      dsimp only
      split_ifs with hmoves hrecent
      · exact Or.inl ⟨rfl, rfl⟩
      · exact Or.inr ⟨state, rfl, rfl, Bool.eq_false_of_not_eq_true hrecent⟩
      · exact Or.inl ⟨rfl, rfl⟩

/-- Two events are at least a second apart. -/
def Apart (event next : Clocks × Stable) : Prop :=
  event.1.steadyNs + 1000000000 ≤ next.1.steadyNs

/-- The events of the machine are apart, and apart from the one before them. -/
theorem events_apart (machine : LidMachine) (reports : List (Clocks × LidReport)) :
    (machine.events reports).IsChain Apart ∧ ∀ time ∈ machine.lastEvent,
      ∀ event ∈ (machine.events reports).head?, time + 1000000000 ≤ event.1.steadyNs := by
  induction reports generalizing machine with
  | nil => exact ⟨List.isChain_nil, fun time _ event hevent => by cases hevent⟩
  | cons first rest ih =>
      obtain ⟨clocks, report⟩ := first
      obtain ⟨hchain, hhead⟩ := ih (machine.handle clocks.steadyNs report).1
      rw [events]
      rcases machine.handle_cases clocks.steadyNs report with ⟨hnone, hlast⟩ |
        ⟨state, hsome, hlast, hrecent⟩
      · rw [hnone]
        rw [hlast] at hhead
        exact ⟨hchain, hhead⟩
      · rw [hsome]
        rw [hlast] at hhead
        constructor
        · exact List.isChain_cons.mpr ⟨fun event hevent => hhead _ rfl event hevent, hchain⟩
        · intro time htime event hevent
          obtain rfl := Option.some.inj hevent
          rw [Option.mem_def.mp htime] at hrecent
          have hlong : ¬ clocks.steadyNs - time < 1000000000 := by simpa [recent] using hrecent
          show time + 1000000000 ≤ clocks.steadyNs
          omega

end LidMachine

/-! ## The property -/

/-- The lid in the payload of a command. -/
def Command.lidId? (cmd : Command) : Option ℤ :=
  match cmd.payload.get? "lid_id" with
  | some (.int n) => some n
  | _ => none

namespace StatusSubscriber

/-- What a message tells of the lid. -/
def reportOf? (lid : Lid) (m : StatusMessage) : Option LidReport :=
  if source? m.topic = some (.motor lid) ∧ m.size = 11 then
    if m.state ≠ 0 then some .motorRuns else none
  else if source? m.topic = some (.lid lid) ∧ m.size = 14 then
    if m.value = .finite 3 then some .transition
    else if m.value = .finite 1 then some (.stable .opened)
    else if m.value = .finite 0 then some (.stable .closed)
    else none
  else none

/-- The messages of a lid, and of no other. -/
def reportsOf (lid : Lid) (handlings : List Handling) : List (Clocks × LidReport) :=
  handlings.filterMap fun handling =>
    (reportOf? lid handling.message).map fun report => (handling.clocks, report)

/-- The command that a message emits, if it is for the lid. -/
def commandFor (lid : Lid) (s : StatusSubscriber) (handling : Handling) : Option Command :=
  (s.handleMessage handling.clocks handling.message).2.filter fun cmd =>
    decide (cmd.lidId? = some (lid.id : ℤ))

/-- The commands that a run of messages emits for one lid. -/
def commandsFor (lid : Lid) : StatusSubscriber → List Handling → List Command
  | _, [] => []
  | s, handling :: rest =>
      (commandFor lid s handling).toList ++ commandsFor lid (s.next handling) rest

/-- The state that the lid has reported last, among open and closed. -/
def lastReported (lid : Lid) (handlings : List Handling) : Option Stable :=
  ((reportsOf lid handlings).filterMap fun report =>
    match report.2 with
    | .stable state => some state
    | _ => none).getLast?

/-- The events that the machine emits on the messages of a lid alone. -/
def eventsOf (lid : Lid) (handlings : List Handling) : List (Clocks × Stable) :=
  LidMachine.initial.events (reportsOf lid handlings)

/-- Each lid is the machine on its own messages; its events are a second apart; and its stable
state is the last one reported, whether or not an event has been emitted for it. -/
structure IndependentLids (handlings : List Handling) : Prop where
  commands : ∀ lid, commandsFor lid initial handlings =
    (eventsOf lid handlings).map fun event =>
      manualCommand event.1.nowMs lid event.2.signalId
  apart : ∀ lid, (eventsOf lid handlings).IsChain LidMachine.Apart
  stable : ∀ lid earlier, earlier <+: handlings →
    ((run next initial earlier).tracker lid).lastStableState =
      ((lastReported lid earlier).map Stable.number).getD (-1)
  consistent : ∀ lid earlier handling later, handlings = earlier ++ handling :: later →
    ∀ cmd ∈ commandFor lid (run next initial earlier) handling, ∃ state,
      cmd = manualCommand handling.clocks.nowMs lid state.signalId ∧
        lastReported lid earlier = some state.other ∧
        reportOf? lid handling.message = some (.stable state)

/-! ## One message -/

section

variable {s : StatusSubscriber} {lid : Lid} {handling : Handling}

theorem lidId?_manualCommand (nowMs : ℤ) (lid : Lid) (signalId : ℕ) :
    (manualCommand nowMs lid signalId).lidId? = some (lid.id : ℤ) := by
  cases lid <;> simp [manualCommand, Command.lidId?, Json.get?, List.lookup_cons, Lid.id]

/-- A report of a lid emits a command for that lid, if any. -/
theorem filter_report (t : LidTracker) (clocks : Clocks) (lid other : Lid) (value : Extended) :
    (t.report clocks other value).2.filter (fun cmd => decide (cmd.lidId? = some (lid.id : ℤ))) =
      if lid = other then (t.report clocks other value).2 else none := by
  cases hcmd : (t.report clocks other value).2 with
  | none => simp
  | some cmd =>
      obtain ⟨signalId, -, -, rfl⟩ := report_snd_eq_some_iff.mp hcmd
      rw [Option.filter_some, lidId?_manualCommand]
      cases lid <;> cases other <;> simp [Lid.id]

/-- A command for a lid comes from a report of that lid. -/
theorem commandFor_eq (s : StatusSubscriber) (lid : Lid) (handling : Handling) :
    commandFor lid s handling =
      if source? handling.message.topic = some (.lid lid) ∧ handling.message.size = 14 then
        ((s.tracker lid).report handling.clocks lid handling.message.value).2
      else none := by
  unfold commandFor handleMessage
  cases source? handling.message.topic with
  | none => simp
  | some source =>
      cases source with
      | motor other => by_cases hsize : handling.message.size = 11 <;> simp [hsize]
      | lid other =>
          by_cases hsize : handling.message.size = 14
          · by_cases hlid : lid = other
            · subst hlid
              simp [hsize, filter_report]
            · simp [hsize, filter_report, hlid, Ne.symm hlid]
          · simp [hsize]

end

/-! ## The tracker as the machine -/

/-- The fields of the tracker are those of the machine. -/
structure Simulates (t : LidTracker) (machine : LidMachine) : Prop where
  stable : t.lastStableState = (machine.stable.map Stable.number).getD (-1)
  armed : t.manualTransition = machine.armed
  lastEvent : t.lastEventTime = machine.lastEvent.getD 0
  positive : ∀ time ∈ machine.lastEvent, 0 < time

section

variable {t : LidTracker} {machine : LidMachine} {clocks : Clocks} {lid : Lid}

theorem simulates_initial : Simulates .initial .initial :=
  ⟨rfl, rfl, rfl, fun _ htime => by cases htime⟩

theorem Simulates.stable_iff (hsim : Simulates t machine) (state : Stable) :
    t.lastStableState = state.number ↔ machine.stable = some state := by
  rw [hsim.stable, Stable.getD_number_eq_iff]

/-- A second is a thousand milliseconds, also where they are rounded. -/
theorem tdiv_million_lt_iff (elapsed : ℤ) :
    elapsed.tdiv 1000000 < 1000 ↔ elapsed < 1000000000 := by
  rcases le_total 0 elapsed with hnonneg | hneg
  · rw [Int.tdiv_eq_ediv_of_nonneg hnonneg]
    omega
  · have hmillion : (0 : ℤ) ≤ 1000000 := by omega
    have hquotient := Int.tdiv_nonneg (Int.neg_nonneg_of_nonpos hneg) hmillion
    rw [Int.neg_tdiv] at hquotient
    omega

theorem Simulates.debounced_eq (hsim : Simulates t machine) (clocks : Clocks) :
    debounced clocks t.lastEventTime = LidMachine.recent clocks.steadyNs machine.lastEvent := by
  rw [hsim.lastEvent]
  cases hlast : machine.lastEvent with
  | none => rfl
  | some time =>
      have hpositive := hsim.positive time hlast
      simp [debounced, LidMachine.recent, hpositive, tdiv_million_lt_iff]

theorem Simulates.moved_eq (hsim : Simulates t machine) (state : Stable) :
    t.moved (.finite state.number) =
      if machine.Moves state then some state.signalId else none := by
  have hmoves : machine.Moves state ↔
      t.manualTransition = true ∧ t.lastStableState = state.other.number := by
    rw [hsim.armed, hsim.stable_iff]
    rfl
  by_cases hmoved : machine.Moves state
  · obtain ⟨harmed, hstable⟩ := hmoves.mp hmoved
    rw [if_pos hmoved, LidTracker.moved, harmed, hstable]
    cases state <;> simp [Stable.number, Stable.other, Stable.signalId]
  · rw [if_neg hmoved, LidTracker.moved]
    rw [hmoves] at hmoved
    cases state <;> simpa [Stable.number, Stable.other] using hmoved

/-- A move ends with a report of a stable state. -/
theorem exists_state_of_moved {value : Extended} {signalId : ℕ}
    (hmoved : t.moved value = some signalId) : ∃ state : Stable, value = .finite state.number ∧
      signalId = state.signalId ∧ t.lastStableState = state.other.number := by
  unfold LidTracker.moved at hmoved
  split_ifs at hmoved with hopened hclosed
  · obtain rfl := Option.some.inj hmoved
    exact ⟨.opened, hopened.1, rfl, hopened.2.2⟩
  · obtain rfl := Option.some.inj hmoved
    exact ⟨.closed, hclosed.1, rfl, hclosed.2.2⟩

/-- A stable state. -/
theorem Simulates.report_stable (hsim : Simulates t machine) (hnow : 0 < clocks.steadyNs)
    (state : Stable) :
    Simulates (t.report clocks lid (.finite state.number)).1
        (machine.handle clocks.steadyNs (.stable state)).1 ∧
      (t.report clocks lid (.finite state.number)).2 =
        (machine.handle clocks.steadyNs (.stable state)).2.map fun state =>
          manualCommand clocks.nowMs lid state.signalId := by
  have hreported : (t.reported (.finite state.number)).lastStableState = state.number ∧
      (t.reported (.finite state.number)).manualTransition = false ∧
      (t.reported (.finite state.number)).lastEventTime = t.lastEventTime := by
    cases state <;> simp [LidTracker.reported, Stable.number]
  obtain ⟨hstable, harmed, hlast⟩ := hreported
  have hquiet := hsim.debounced_eq clocks
  unfold LidTracker.report LidMachine.handle emitManualEvent
  rw [hsim.moved_eq state]
  by_cases hmoves : machine.Moves state
  · rw [if_pos hmoves]
    dsimp only
    rw [if_pos hmoves, hquiet]
    cases LidMachine.recent clocks.steadyNs machine.lastEvent
    · exact ⟨⟨hstable, harmed, rfl, fun time htime => Option.some.inj htime ▸ hnow⟩, rfl⟩
    · exact ⟨⟨hstable, harmed, hsim.lastEvent, hsim.positive⟩, rfl⟩
  · rw [if_neg hmoves]
    dsimp only
    rw [if_neg hmoves]
    exact ⟨⟨hstable, harmed, hlast.trans hsim.lastEvent, hsim.positive⟩, rfl⟩

theorem Simulates.motor (hsim : Simulates t machine) (state : ℕ) :
    Simulates (t.motor state)
      { machine with armed := if state ≠ 0 then false else machine.armed } where
  stable := by
    rw [motor_lastStableState]
    exact hsim.stable
  armed := by rw [motor_manualTransition, hsim.armed]
  lastEvent := by
    unfold LidTracker.motor
    split_ifs <;> exact hsim.lastEvent
  positive := hsim.positive

/-- A value that is no stable state completes no move. -/
theorem report_of_not_stable {value : Extended} (hopened : value ≠ .finite 1)
    (hclosed : value ≠ .finite 0) : t.report clocks lid value = (t.reported value, none) := by
  have hmoved : t.moved value = none := by
    rw [LidTracker.moved, if_neg fun h => hopened h.1, if_neg fun h => hclosed h.1]
  rw [LidTracker.report, hmoved]

theorem Simulates.reported_transition (hsim : Simulates t machine) :
    Simulates (t.reported (.finite 3)) { machine with armed := true } :=
  ⟨hsim.stable, rfl, hsim.lastEvent, hsim.positive⟩

theorem Simulates.reported_other (hsim : Simulates t machine) {value : Extended}
    (htransition : value ≠ .finite 3) (hopened : value ≠ .finite 1) (hclosed : value ≠ .finite 0) :
    Simulates (t.reported value) machine := by
  rw [LidTracker.reported, if_neg htransition, if_neg hopened, if_neg hclosed]
  exact ⟨hsim.stable, hsim.armed, hsim.lastEvent, hsim.positive⟩

section

variable {s : StatusSubscriber} {handling : Handling}

/-- What a message about the lid does to the tracker, the machine does as well. -/
theorem Simulates.step_report {report : LidReport} (hsim : Simulates (s.tracker lid) machine)
    (hnow : 0 < handling.clocks.steadyNs)
    (hreport : reportOf? lid handling.message = some report) :
    Simulates ((s.next handling).tracker lid)
        (machine.handle handling.clocks.steadyNs report).1 ∧
      commandFor lid s handling =
        (machine.handle handling.clocks.steadyNs report).2.map fun state =>
          manualCommand handling.clocks.nowMs lid state.signalId := by
  have hthree : Extended.finite 3 ≠ .finite 1 ∧ Extended.finite 3 ≠ .finite 0 := by decide
  rw [tracker_next, commandFor_eq]
  unfold reportOf? at hreport
  split_ifs at hreport with hmotor hstate hlid htransition hopened hclosed
  · cases hreport
    have hnot : ¬ (source? handling.message.topic = some (.lid lid) ∧
        handling.message.size = 14) := by
      rw [hmotor.1]
      simp
    have hmachine := hsim.motor handling.message.state
    rw [if_pos hstate] at hmachine
    rw [if_pos hmotor, if_neg hnot]
    exact ⟨hmachine, rfl⟩
  · cases hreport
    rw [if_neg hmotor, if_pos hlid, if_pos hlid, htransition,
      report_of_not_stable hthree.1 hthree.2]
    exact ⟨hsim.reported_transition, rfl⟩
  · cases hreport
    rw [if_neg hmotor, if_pos hlid, if_pos hlid, hopened]
    exact hsim.report_stable hnow .opened
  · cases hreport
    rw [if_neg hmotor, if_pos hlid, if_pos hlid, hclosed]
    exact hsim.report_stable hnow .closed

/-- Other messages do not change what the machine knows. -/
theorem Simulates.step_none (hsim : Simulates (s.tracker lid) machine)
    (hreport : reportOf? lid handling.message = none) :
    Simulates ((s.next handling).tracker lid) machine ∧ commandFor lid s handling = none := by
  rw [tracker_next, commandFor_eq]
  unfold reportOf? at hreport
  split_ifs at hreport with hmotor hstate hlid htransition hopened hclosed
  · have hnot : ¬ (source? handling.message.topic = some (.lid lid) ∧
        handling.message.size = 14) := by
      rw [hmotor.1]
      simp
    have hmachine := hsim.motor handling.message.state
    rw [if_neg hstate] at hmachine
    rw [if_pos hmotor, if_neg hnot]
    exact ⟨hmachine, rfl⟩
  · rw [if_neg hmotor, if_pos hlid, if_pos hlid, report_of_not_stable hopened hclosed]
    exact ⟨hsim.reported_other htransition hopened hclosed, rfl⟩
  · rw [if_neg hmotor, if_neg hlid, if_neg hlid]
    exact ⟨hsim, rfl⟩

end

end

/-! ## Every run -/

section

variable {lid : Lid} {handlings : List Handling}

/-- The commands for a lid are those of the machine on its messages. -/
theorem commandsFor_eq (hpositive : ∀ handling ∈ handlings, 0 < handling.clocks.steadyNs)
    {s : StatusSubscriber} {machine : LidMachine} (hsim : Simulates (s.tracker lid) machine) :
    commandsFor lid s handlings = (machine.events (reportsOf lid handlings)).map fun event =>
      manualCommand event.1.nowMs lid event.2.signalId := by
  induction handlings generalizing s machine with
  | nil => rfl
  | cons handling rest ih =>
      obtain ⟨hnow, hrest⟩ := List.forall_mem_cons.mp hpositive
      rw [commandsFor, reportsOf, List.filterMap_cons]
      cases hreport : reportOf? lid handling.message with
      | none =>
          obtain ⟨hnext, hcommand⟩ := hsim.step_none hreport
          rw [hcommand]
          exact ih hrest hnext
      | some report =>
          obtain ⟨hnext, hcommand⟩ := hsim.step_report hnow hreport
          rw [hcommand, ih hrest hnext, Option.map_some]
          dsimp only
          rw [LidMachine.events, List.map_append]
          congr 1
          cases (machine.handle handling.clocks.steadyNs report).2 <;> rfl

theorem lastReported_append_singleton (lid : Lid) (handlings : List Handling)
    (handling : Handling) : lastReported lid (handlings ++ [handling]) =
      match reportOf? lid handling.message with
      | some (.stable state) => some state
      | _ => lastReported lid handlings := by
  unfold lastReported reportsOf
  rw [List.filterMap_append, List.filterMap_append, List.filterMap_cons]
  cases reportOf? lid handling.message with
  | none => simp
  | some report => cases report <;> simp

/-- The stable state is the last one reported. -/
theorem lastStableState_run (lid : Lid) (handlings : List Handling) :
    ((run next initial handlings).tracker lid).lastStableState =
      ((lastReported lid handlings).map Stable.number).getD (-1) := by
  induction handlings using List.reverseRecOn with
  | nil => cases lid <;> rfl
  | append_singleton handlings handling ih =>
      rw [run_append, run_cons, run_nil, tracker_next, lastReported_append_singleton]
      generalize run next initial handlings = s at ih ⊢
      unfold reportOf?
      split_ifs with hmotor hstate hlid htransition hopened hclosed
      · rw [motor_lastStableState]
        exact ih
      · rw [motor_lastStableState]
        exact ih
      · rw [report_lastStableState, htransition]
        exact ih
      · rw [report_lastStableState, hopened]
        rfl
      · rw [report_lastStableState, hclosed]
        rfl
      · rw [report_lastStableState, LidTracker.reported, if_neg htransition, if_neg hopened,
          if_neg hclosed]
        exact ih
      · exact ih

/-- An event tells of a move from the state that was reported last. -/
theorem consistent_commandFor {earlier : List Handling} {handling : Handling} {cmd : Command}
    (hcmd : cmd ∈ commandFor lid (run next initial earlier) handling) :
    ∃ state, cmd = manualCommand handling.clocks.nowMs lid state.signalId ∧
      lastReported lid earlier = some state.other ∧
      reportOf? lid handling.message = some (.stable state) := by
  have hstable := lastStableState_run lid earlier
  generalize run next initial earlier = s at hcmd hstable
  rw [commandFor_eq] at hcmd
  split_ifs at hcmd with hlid
  · obtain ⟨signalId, hmoved, -, rfl⟩ := report_snd_eq_some_iff.mp hcmd
    have hmotor : ¬ (source? handling.message.topic = some (.motor lid) ∧
        handling.message.size = 11) := by
      rw [hlid.1]
      simp
    obtain ⟨state, hvalue, rfl, hother⟩ := exists_state_of_moved hmoved
    rw [hstable, Stable.getD_number_eq_iff] at hother
    refine ⟨state, rfl, hother, ?_⟩
    rw [reportOf?, if_neg hmotor, if_pos hlid, hvalue]
    cases state <;> simp [Stable.number]
  · cases hcmd

end

/-- **Two lids, one machine.**  At times of a steady clock that has been started, the lids are
independent copies of the machine. -/
theorem independentLids {handlings : List Handling}
    (hpositive : ∀ handling ∈ handlings, 0 < handling.clocks.steadyNs) :
    IndependentLids handlings where
  commands lid := commandsFor_eq hpositive (by cases lid <;> exact simulates_initial)
  apart lid := (LidMachine.initial.events_apart _).1
  stable lid earlier _ := lastStableState_run lid earlier
  consistent _ _ _ _ _ _ hcmd := consistent_commandFor hcmd

/-! ### Two lids that are moved by hand -/

def reportAt (steadyNs : ℤ) (lid : Lid) (value : ℚ) : Handling :=
  ⟨⟨steadyNs, 0⟩, ⟨lid.topic, 14, 0, .finite value⟩⟩

/-- The first lid is opened, and closed again within a second; meanwhile the other is opened. -/
def movedByHand : List Handling :=
  [reportAt 1000000000 .lid1 0, reportAt 1100000000 .lid2 0, reportAt 1200000000 .lid1 3,
    reportAt 1300000000 .lid1 1, reportAt 1400000000 .lid2 3, reportAt 1500000000 .lid2 1,
    reportAt 1600000000 .lid1 3, reportAt 1700000000 .lid1 0]

theorem independentLids_movedByHand :
    IndependentLids movedByHand ∧ (eventsOf .lid1 movedByHand).length = 1 ∧
      (eventsOf .lid2 movedByHand).length = 1 :=
  ⟨independentLids (by decide), by decide +kernel, by decide +kernel⟩

end StatusSubscriber

end OroEdge.Executor
