import OroEdge.Executor.Admission
import OroEdge.Executor.RadxaAnswers
import OroEdge.Lib.Since
import Mathlib.Data.List.Induction

/-!
# Live sessions

A live session should be tracked as a whole: a command whose reply is no success leaves the
tracked session as it is, and an end that succeeds reports the latest session that has been
started and not ended (`TrackedAt`).

The handlers look at the reply for the result only.  A start stores its session, and an end
clears it, whatever the reply is.  So the property holds in a run exactly if every command
that does not succeed would change nothing: a start of the session that is tracked already,
or an end when there is none (`trackedAt_run_iff`).

What the property promises of an end is about the history, the latest start that no successful
end has followed (`SinceLast`), while the worker knows one field.  `Tracks` connects the two:
where there is such a start, the field holds its id.  It is preserved by a command that
succeeds, and by one that changes nothing (`Tracks.step`), so that in a run of such commands
every end reports what it should.

The other direction is about the first command that does not succeed and would change
something.  It breaks the first half of the property at once (`unchanged_iff`), and nothing has
to be said of the commands after it.
-/

namespace OroEdge.Executor

open OroEdge.Lib CommandDispatcher

/-! ## The property -/

/-- A start (`#88`), or an end (`#133`), that the dispatcher has accepted. -/
structure SessionCommand (input : Surroundings × Command) : Prop where
  kind : input.2.signalId = 88 ∨ input.2.signalId = 133
  valid : ∃ activeCommandIds, (validate activeCommandIds input.2).1 = true

/-- The reply of `RadxaServices` is a success. -/
def RepliesSuccess (input : Surroundings × Command) : Prop :=
  (radxaResult input.1.radxaReply).success = true

instance : DecidablePred RepliesSuccess :=
  fun input => inferInstanceAs (Decidable ((radxaResult input.1.radxaReply).success = true))

/-- The worker after a command; an exception of an end is thrown when no session is
tracked, and changes nothing. -/
def sessionStep (w : Worker) (input : Surroundings × Command) : Worker :=
  ((runHandler input.1 w input.2).map Handled.worker).getD w

/-- The result of a command names the session. -/
def ReportsSession (w : Worker) (input : Surroundings × Command) (sessionId : String) : Prop :=
  ∃ h, runHandler input.1 w input.2 = some h ∧
    h.result.data.get? "session_id" = some (.str sessionId)

/-- What a command after `earlier` should do: a start is not yet ended as long as no end has
succeeded since. -/
structure TrackedAt (w : Worker) (earlier : List (Surroundings × Command))
    (input : Surroundings × Command) : Prop where
  unchanged : ¬ RepliesSuccess input →
    (sessionStep (run sessionStep w earlier) input).currentSessionId =
      (run sessionStep w earlier).currentSessionId
  reported : input.2.signalId = 133 → RepliesSuccess input →
    ∀ start since, SinceLast RepliesSuccess earlier start since → start.2.signalId = 88 →
      ReportsSession (run sessionStep w earlier) input start.2.commandId

/-- Every command of a run does what it should. -/
def SessionsTracked (environment : Option String) (inputs : List (Surroundings × Command)) :
    Prop :=
  ∀ earlier input later, inputs = earlier ++ input :: later →
    TrackedAt (.construct environment) earlier input

/-- A command that succeeds, or changes no more than it may. -/
def ChangesNothing (w : Worker) (input : Surroundings × Command) : Prop :=
  RepliesSuccess input ∨
    (input.2.signalId = 88 ∧ w.currentSessionId = input.2.commandId) ∨
    (input.2.signalId = 133 ∧ w.currentSessionId = "")

instance (w : Worker) (input : Surroundings × Command) : Decidable (ChangesNothing w input) :=
  inferInstanceAs (Decidable (_ ∨ _ ∨ _))

/-! ## One command -/

section

variable {w : Worker} {input : Surroundings × Command}

theorem SessionCommand.commandId_ne (hsession : SessionCommand input) :
    input.2.commandId ≠ "" := by
  obtain ⟨activeCommandIds, hvalid⟩ := hsession.valid
  exact ((validate_iff activeCommandIds input.2).mp hvalid).2.1.1

/-- The fields of a session can be added to the result of any reply. -/
theorem exists_sessionData (reply : Reply) (cmd : Command) (sessionId : String) :
    ∃ data, (radxaResult reply).data.setAll? [("session_id", .str sessionId),
        ("initiated_by", .str cmd.issuedBy), ("event_time", .int cmd.eventTime),
        ("command_id", .str cmd.commandId)] = some data ∧
      data.get? "session_id" = some (.str sessionId) := by
  obtain ⟨data, hset, -⟩ := (record_radxaResult reply).exists_setAll?
    [("session_id", .str sessionId), ("initiated_by", .str cmd.issuedBy),
      ("event_time", .int cmd.eventTime), ("command_id", .str cmd.commandId)]
    (by simp [Json.dumps])
  exact ⟨data, hset, Json.get?_of_setAll? hset (by simp) List.mem_cons_self⟩

/-- A start stores its session. -/
theorem currentSessionId_start (h88 : input.2.signalId = 88) :
    (sessionStep w input).currentSessionId = input.2.commandId := by
  obtain ⟨data, hset, -⟩ :=
    exists_sessionData input.1.radxaReply input.2 input.2.commandId
  have hrun : runHandler input.1 w input.2 = handleLiveSessionStart input.1 w input.2 := by
    unfold runHandler
    rw [h88]
    rfl
  simp [sessionStep, hrun, handleLiveSessionStart, hset]

theorem runHandler_liveSessionEnd (h133 : input.2.signalId = 133) :
    runHandler input.1 w input.2 = handleLiveSessionEnd input.1 w input.2 := by
  unfold runHandler
  rw [h133]
  rfl

/-- An end reports the session that is tracked. -/
theorem reportsSession_end (h133 : input.2.signalId = 133) (hcurrent : w.currentSessionId ≠ "") :
    ReportsSession w input w.currentSessionId := by
  have hsession : endedSessionId w input.2 = some w.currentSessionId := if_pos hcurrent
  obtain ⟨data, hset, hget⟩ := exists_sessionData input.1.radxaReply input.2 w.currentSessionId
  refine ⟨⟨{ w with currentSessionId := "" }, input.2,
    { radxaResult input.1.radxaReply with data },
    [.radxa (topicCommand "/commands/live_session/end" 1)]⟩, ?_, hget⟩
  rw [runHandler_liveSessionEnd h133]
  simp [handleLiveSessionEnd, hsession, hset]

/-- After an end no session is tracked. -/
theorem currentSessionId_end (h133 : input.2.signalId = 133) :
    (sessionStep w input).currentSessionId = "" := by
  cases hrun : runHandler input.1 w input.2 with
  | some h =>
      have hend := hrun
      rw [runHandler_liveSessionEnd h133] at hend
      simp only [handleLiveSessionEnd, Option.bind_eq_bind, Option.bind_eq_some_iff,
        Option.pure_def, Option.some.injEq] at hend
      obtain ⟨sessionId, -, data, -, rfl⟩ := hend
      simp [sessionStep, hrun]
  | none =>
      -- an exception about the payload, which is read only without a session
      by_contra hcurrent
      have hkept : (sessionStep w input).currentSessionId = w.currentSessionId := by
        simp [sessionStep, hrun]
      rw [hkept] at hcurrent
      obtain ⟨h, hsome, -⟩ := reportsSession_end h133 hcurrent
      rw [hrun] at hsome
      cases hsome

/-- The session is left as it is by the commands that would change nothing, and by no
other that does not succeed. -/
theorem unchanged_iff (hsession : SessionCommand input) (hfails : ¬ RepliesSuccess input) :
    (sessionStep w input).currentSessionId = w.currentSessionId ↔ ChangesNothing w input := by
  rcases hsession.kind with h88 | h133
  · rw [currentSessionId_start h88, eq_comm]
    simp [ChangesNothing, hfails, h88]
  · rw [currentSessionId_end h133, eq_comm]
    simp [ChangesNothing, hfails, h133]

end

/-! ## A run -/

/-- The worker tracks the latest session that has been started and not ended. -/
def Tracks (history : List (Surroundings × Command)) (w : Worker) : Prop :=
  ∀ start since, SinceLast RepliesSuccess history start since → start.2.signalId = 88 →
    w.currentSessionId = start.2.commandId

theorem Tracks.step {history : List (Surroundings × Command)} {w : Worker}
    {input : Surroundings × Command} (htracks : Tracks history w)
    (hsession : SessionCommand input) (hnothing : ChangesNothing w input) :
    Tracks (history ++ [input]) (sessionStep w input) := by
  intro start since hsince h88
  rcases hsince.of_snoc with ⟨-, rfl⟩ | ⟨hfails, since', hsince'⟩
  · exact currentSessionId_start h88
  · rw [(unchanged_iff hsession hfails).mpr hnothing]
    exact htracks start since' hsince' h88

theorem tracks_run (environment : Option String) {history : List (Surroundings × Command)}
    (hsessions : ∀ input ∈ history, SessionCommand input)
    (hnothing : AllSteps sessionStep ChangesNothing (.construct environment) history) :
    Tracks history (run sessionStep (.construct environment) history) := by
  induction history using List.reverseRecOn with
  | nil =>
      intro start since hsince
      obtain ⟨before, hsplit⟩ := hsince.split
      simp at hsplit
  | append_singleton history input ih =>
      obtain ⟨hbefore, hinput, -⟩ := AllSteps.append_iff.mp hnothing
      rw [run_append]
      exact (ih (fun other hother => hsessions other (List.mem_append_left _ hother)) hbefore).step
        (hsessions input (by simp)) hinput

/-! ## Main theorem -/

/-- **Live sessions, exactly.**  The sessions of a run are tracked as a whole if and only if every
command of it succeeds, or would change nothing. -/
theorem trackedAt_run_iff (environment : Option String) (inputs : List (Surroundings × Command))
    (hsessions : ∀ input ∈ inputs, SessionCommand input) :
    SessionsTracked environment inputs ↔
      AllSteps sessionStep ChangesNothing (.construct environment) inputs := by
  rw [allSteps_iff_forall_split]
  constructor
  · intro htracked earlier input later hsplit
    have hsession : SessionCommand input := hsessions input (by simp [hsplit])
    by_cases hreply : RepliesSuccess input
    · exact Or.inl hreply
    · have hkept := (htracked earlier input later hsplit).unchanged hreply
      exact (unchanged_iff hsession hreply).mp hkept
  · intro hnothing earlier input later hsplit
    have hsession : SessionCommand input := hsessions input (by simp [hsplit])
    refine ⟨fun hreply => ?_, fun h133 hreply start since hsince h88 => ?_⟩
    · exact (unchanged_iff hsession hreply).mpr (hnothing earlier input later hsplit)
    · have htracks : Tracks earlier (run sessionStep (.construct environment) earlier) := by
        apply tracks_run environment fun other hother => hsessions other (by simp [hsplit, hother])
        rw [allSteps_iff_forall_split]
        intro before other after hbefore
        exact hnothing before other (after ++ input :: later) (by rw [hsplit, hbefore]; simp)
      have hcurrent := htracks start since hsince h88
      obtain ⟨before, hstart⟩ := hsince.split
      have hne := (hsessions start (by simp [hsplit, hstart])).commandId_ne
      rw [← hcurrent] at hne ⊢
      exact reportsSession_end h133 hne

/-! ### A session, and an end that fails -/

theorem dumps_status (status : String) : (Json.obj [("status", .str status)]).dumps = true := rfl

/-- What surrounds a command: a reply of `RadxaServices`. -/
def replying (status : String) : Surroundings :=
  ⟨0, .timeout, .json (.obj [("status", .str status)]) (dumps_status status), .saturating, 0⟩

def sessionStart : Command := ⟨88, "", "start-1", "owner", 0, .obj []⟩

/-- A #133 that does not name the session. -/
def sessionEnd (commandId : String) : Command := ⟨133, "", commandId, "owner", 0, .obj []⟩

theorem sessionCommand_start (e : Surroundings) : SessionCommand (e, sessionStart) := by
  have hvalid : (validate [] sessionStart).1 = true := by decide +kernel
  exact ⟨Or.inl rfl, [], hvalid⟩

theorem sessionCommand_end {commandId : String} (e : Surroundings) (hne : commandId ≠ "") :
    SessionCommand (e, sessionEnd commandId) := by
  refine ⟨Or.inr rfl, [], (validate_iff [] _).mpr ⟨?_, ⟨hne, by simp⟩, by simp [sessionEnd]⟩⟩
  show 133 ∈ 0 :: inboundIds
  decide

/-- A session that is started and ended, and an end without a session that fails. -/
theorem trackedAt_startEnd :
    SessionsTracked none [(replying "success", sessionStart),
      (replying "success", sessionEnd "end-1"), (replying "failed", sessionEnd "end-2")] := by
  refine (trackedAt_run_iff none _ fun input hinput => ?_).mpr (by decide +kernel)
  simp only [List.mem_cons, List.not_mem_nil, or_false] at hinput
  rcases hinput with rfl | rfl | rfl
  · exact sessionCommand_start _
  · exact sessionCommand_end _ (by simp)
  · exact sessionCommand_end _ (by simp)

/-- **Failing input.**  An end fails, and the session is no longer tracked: the end that succeeds
afterwards reports its own id. -/
theorem not_trackedAt_failedEnd :
    (∀ input ∈ [(replying "success", sessionStart), (replying "failed", sessionEnd "end-1"),
        (replying "success", sessionEnd "end-2")], SessionCommand input) ∧
      ReportsSession (run sessionStep (.construct none) [(replying "success", sessionStart),
        (replying "failed", sessionEnd "end-1")])
          (replying "success", sessionEnd "end-2") "end-2" ∧
      ¬ SessionsTracked none [(replying "success", sessionStart),
        (replying "failed", sessionEnd "end-1"), (replying "success", sessionEnd "end-2")] := by
  refine ⟨fun input hinput => ?_, ⟨_, rfl, rfl⟩, fun htracked => ?_⟩
  · simp only [List.mem_cons, List.not_mem_nil, or_false] at hinput
    rcases hinput with rfl | rfl | rfl
    · exact sessionCommand_start _
    · exact sessionCommand_end _ (by simp)
    · exact sessionCommand_end _ (by simp)
  · have hend := htracked [(replying "success", sessionStart)]
      (replying "failed", sessionEnd "end-1") [(replying "success", sessionEnd "end-2")] rfl
    exact absurd (hend.unchanged (by decide +kernel)) (by decide +kernel)

end OroEdge.Executor
