import OroEdge.Executor.Pipeline
import OroEdge.Lib.Dedupe

/-!
# The pipeline is an at-most-once queue

Whatever the three threads do, in any order: commands are processed in the order in which
they are pushed, no two messages with one `command_id` are both accepted, and a message is
answered at most once (`AtMostOnce`).

Each part is an invariant of its own.

* `Fifo`: what has been processed, the command in the hands of the worker and the queue are
  together what has been pushed.
* `Placed`: a message is with the main thread, refused, or pushed, and only one of these.
* `Told`: an answer goes with a refusal or with a processed command.
* `Filtered`: the accepted commands are those that `admitted` takes of the valid ones, with
  the `command_id` for a key, and the known ids are theirs.

A part is preserved by one turn of a thread (`fifo_turn`, `placed_turn`, `told_turn`,
`filtered_turn`), with one case for each kind of turn and no case for the order in which the
turns come; `inv_run` is the induction over the run.  The ghost fields of the pipeline carry
what the proofs need of the past: the entries that have been pushed and processed, and the
number of the message that an answer is for.

The main theorem counts.  A message has one place (`Placed`), each answer has a reason at that
place (`Told`), and a processed command has been pushed (`Fifo.countP_processed_le`), so that
the reasons for an answer to the `n`-th message are at most one.
-/

namespace OroEdge.Executor

open OroEdge.Lib CommandDispatcher

/-- The checks of `validate` that look at the command alone. -/
def Command.Valid (cmd : Command) : Prop :=
  cmd.signalId ∈ 0 :: inboundIds ∧ cmd.commandId ≠ "" ∧ cmd.issuedBy ≠ ""

instance : DecidablePred Command.Valid := fun _ => inferInstanceAs (Decidable (_ ∧ _ ∧ _))

theorem validate_iff_valid (activeCommandIds : List String) (cmd : Command) :
    (validate activeCommandIds cmd).1 = true ↔
      cmd.Valid ∧ cmd.commandId ∉ activeCommandIds := by
  rw [validate_iff, Command.Valid]
  tauto

/-- The command comes from a message. -/
def Entry.isInbound (entry : Entry) : Bool := entry.message.isSome

/-- The entry was pushed for the `n`-th message. -/
def Entry.isFor (n : ℕ) (entry : Entry) : Bool := entry.message = some n

def Answer.isFor (n : ℕ) (a : Answer) : Bool := a.message = some n

namespace MainStage

/-- The number of the message that the main loop is at. -/
def number : MainStage → List ℕ
  | waiting => []
  | parsed n _ => [n]
  | accepted n _ => [n]

/-- The command that the main loop has parsed and not validated. -/
def unjudged : MainStage → List Command
  | parsed _ m => [m.cmd]
  | _ => []

def unpushed : MainStage → List Command
  | accepted _ cmd => [cmd]
  | _ => []

end MainStage

namespace Pipeline

/-- The commands that have been accepted, in order. -/
def accepted (s : Pipeline) : List Command :=
  (s.pushed.filter Entry.isInbound).map Entry.cmd ++ s.main.unpushed

/-! ## The property -/

/-- What the pipeline promises: commands are handled in the order of the queue, no two of them with
one id, and a message has one answer at most, its refusal or one that follows its handling. -/
structure AtMostOnce (s : Pipeline) : Prop where
  fifo : s.processed ++ s.current.toList ++ s.queue = s.pushed
  distinct : (((s.processed ++ s.current.toList).filter Entry.isInbound).map fun entry =>
    entry.cmd.commandId).Nodup
  once : ∀ n, s.answers.countP (Answer.isFor n) ≤ 1
  rejected : ∀ a ∈ s.answers, ∀ n ∈ a.message, n ∈ s.refused → a.status = .rejected
  afterwards : ∀ a ∈ s.answers, ∀ n ∈ a.message, n ∉ s.refused →
    a.status ≠ .rejected ∧ ∃ entry ∈ s.processed, entry.message = some n
  /-- The accepted commands are the valid ones with a `command_id` that is new. -/
  filtered : ∃ judged, s.messages.map Message.cmd = judged ++ s.main.unjudged ∧
    s.accepted = admitted Command.commandId [] (judged.filter fun cmd => decide cmd.Valid)
  /-- A refusal leaves the known ids as they are. -/
  keeps : ∀ cmd, (validate s.activeCommandIds cmd).1 = false →
    (validate s.activeCommandIds cmd).2 = s.activeCommandIds
  /-- A valid command is accepted unless one with its id has been accepted before. -/
  accepts : ∀ cmd : Command, cmd.Valid → cmd.commandId ∉ s.accepted.map Command.commandId →
    (validate s.activeCommandIds cmd).1 = true

variable {s s' : Pipeline} {action : Action}

/-! ## Order -/

/-- The worker takes the entries in the order in which they were pushed. -/
def Fifo (s : Pipeline) : Prop := s.processed ++ s.current.toList ++ s.queue = s.pushed

theorem fifo_turn (hturn : Turn s action s') (hs : Fifo s) : Fifo s' := by
  unfold Fifo at hs ⊢
  cases hturn with
  | idle => exact hs
  | ends => exact hs
  | receive hmain hparse => exact hs
  | accept hmain hvalid => exact hs
  | refuse hmain hrefused => exact hs
  | push hmain =>
      show s.processed ++ s.current.toList ++ (s.queue ++ _) = s.pushed ++ _
      rw [← hs, List.append_assoc _ s.queue]
  | status clocks m =>
      show s.processed ++ s.current.toList ++ (s.queue ++ _) = s.pushed ++ _
      rw [← hs, List.append_assoc _ s.queue]
  | pop hcurrent hqueue =>
      rw [hcurrent, hqueue] at hs
      simpa using hs
  | process hcurrent hrun =>
      rw [hcurrent] at hs
      simpa [answer] using hs

/-! ## Numbers -/

/-- How often the message `n` is with the main thread, refused, or pushed. -/
def places (n : ℕ) (s : Pipeline) : ℕ :=
  s.main.number.count n + s.refused.count n + s.pushed.countP (Entry.isFor n)

/-- Every message that has come is at one place, and no other is anywhere. -/
def Placed (s : Pipeline) : Prop :=
  ∀ n, places n s = if n < s.messages.length then 1 else 0

theorem countP_isFor_none (n : ℕ) (cmds : List Command) :
    (cmds.map fun cmd => (⟨none, cmd⟩ : Entry)).countP (Entry.isFor n) = 0 := by
  rw [List.countP_eq_zero]
  simp [Entry.isFor]

theorem placed_turn (hturn : Turn s action s') (hs : Placed s) : Placed s' := by
  intro n
  have hn := hs n
  unfold places at hn ⊢
  cases hturn with
  | idle => exact hn
  | ends => exact hn
  | receive hmain hparse =>
      rw [hmain] at hn
      simp only [MainStage.number, List.count_nil, List.length_append, List.length_singleton,
        List.count_singleton, beq_iff_eq] at hn ⊢
      -- the new message is with the main thread
      split_ifs at hn ⊢ <;> omega
  | accept hmain hvalid =>
      rw [hmain] at hn
      exact hn
  | refuse hmain hrefused =>
      rw [hmain] at hn
      show _ = if n < s.messages.length then 1 else 0
      rw [← hn]
      simp only [answer, MainStage.number, List.count_append, List.count_nil]
      omega
  | push hmain =>
      rw [hmain] at hn
      show _ = if n < s.messages.length then 1 else 0
      rw [← hn]
      simp only [enqueue, MainStage.number, List.countP_append, List.count_nil,
        List.countP_singleton, List.count_singleton, Entry.isFor, beq_iff_eq, decide_eq_true_eq,
        Option.some.injEq]
      omega
  | status clocks m =>
      simp only [enqueue, List.countP_append, countP_isFor_none]
      exact hn
  | pop hcurrent hqueue => exact hn
  | process hcurrent hrun => exact hn

/-! ## Answers -/

/-- Every answer goes with a refusal or a processed command. -/
structure Told (s : Pipeline) : Prop where
  count : ∀ n, s.answers.countP (Answer.isFor n) ≤
    s.refused.count n + s.processed.countP (Entry.isFor n)
  status : ∀ a ∈ s.answers, ∀ n ∈ a.message, a.status = .rejected ∧ n ∈ s.refused ∨
    a.status ≠ .rejected ∧ ∃ entry ∈ s.processed, entry.message = some n

/-- An answer is added together with its reason. -/
theorem Told.answer (hs : Told s) {message : Option ℕ} {status : CommandStatus}
    {sent : Option Json} {refused : List ℕ} {processed : List Entry}
    (hmain : s'.answers = s.answers) (hrefused : s'.refused = s.refused ++ refused)
    (hprocessed : s'.processed = s.processed ++ processed)
    (hcount : ∀ n, message = some n → 1 ≤ refused.count n + processed.countP (Entry.isFor n))
    (hstatus : ∀ n ∈ message, status = .rejected ∧ n ∈ refused ∨
      status ≠ .rejected ∧ ∃ entry ∈ processed, entry.message = some n) :
    Told (s'.answer message status sent.toList) := by
  have hanswers : (s'.answer message status sent.toList).answers =
      s.answers ++ sent.toList.map fun response => ⟨message, status, response⟩ := by
    rw [Pipeline.answer, hmain]
  constructor
  · intro n
    have hn := hs.count n
    have hnew : (sent.toList.map fun response => (⟨message, status, response⟩ : Answer)).countP
        (Answer.isFor n) ≤ if message = some n then 1 else 0 := by
      cases sent with
      | none => simp
      | some response => simp [List.countP_singleton, Answer.isFor]
    have hreason := hcount n
    rw [hanswers, List.countP_append]
    simp only [Pipeline.answer, hrefused, hprocessed, List.count_append, List.countP_append]
    split_ifs at hnew with hmessage
    · have := hreason hmessage
      omega
    · omega
  · intro a ha n hn
    rw [hanswers] at ha
    simp only [Pipeline.answer, hrefused, hprocessed, List.mem_append]
    rcases List.mem_append.mp ha with ha | ha
    · rcases hs.status a ha n hn with ⟨hstatus, hmem⟩ | ⟨hstatus, entry, hentry, hmessage⟩
      · exact Or.inl ⟨hstatus, Or.inl hmem⟩
      · exact Or.inr ⟨hstatus, entry, Or.inl hentry, hmessage⟩
    · obtain ⟨response, -, rfl⟩ := List.mem_map.mp ha
      rcases hstatus n hn with ⟨hstatus, hmem⟩ | ⟨hstatus, entry, hentry, hmessage⟩
      · exact Or.inl ⟨hstatus, Or.inr hmem⟩
      · exact Or.inr ⟨hstatus, entry, Or.inr hentry, hmessage⟩

theorem told_turn (hturn : Turn s action s') (hs : Told s) : Told s' := by
  cases hturn with
  | idle => exact hs
  | ends => exact ⟨hs.count, hs.status⟩
  | receive hmain hparse => exact ⟨hs.count, hs.status⟩
  | accept hmain hvalid => exact ⟨hs.count, hs.status⟩
  | @refuse casts nowMs n m hmain hrefused =>
      refine hs.answer rfl rfl (List.append_nil _).symm (fun k hk => ?_) fun k hk => ?_
      · obtain rfl := Option.some.inj hk
        simp
      · obtain rfl := Option.some.inj hk
        exact Or.inl ⟨rfl, List.mem_singleton_self _⟩
  | push hmain => exact ⟨hs.count, hs.status⟩
  | status clocks m => exact ⟨hs.count, hs.status⟩
  | pop hcurrent hqueue => exact ⟨hs.count, hs.status⟩
  | @process e entry h hcurrent hrun =>
      refine hs.answer rfl (List.append_nil _).symm rfl (fun k hk => ?_) fun k hk => ?_
      · simp [Entry.isFor, hk]
      · refine Or.inr ⟨?_, entry, List.mem_singleton_self _, hk⟩
        unfold Execution.status
        split <;> exact CommandStatus.noConfusion

/-! ## The accepted commands -/

/-- The known ids are those of the accepted commands, which are the valid ones of those that
have been judged, with a new id. -/
structure Filtered (s : Pipeline) : Prop where
  known : s.activeCommandIds = (s.accepted.map Command.commandId).reverse
  distinct : (s.accepted.map Command.commandId).Nodup
  judged : ∃ judged, s.messages.map Message.cmd = judged ++ s.main.unjudged ∧
    s.accepted = admitted Command.commandId [] (judged.filter fun cmd => decide cmd.Valid)

/-- Only the accepted commands and the known ids matter. -/
theorem Filtered.congr (hs : Filtered s) (haccepted : s'.accepted = s.accepted)
    (hknown : s'.activeCommandIds = s.activeCommandIds)
    (hjudged : ∀ judged, s.messages.map Message.cmd = judged ++ s.main.unjudged →
      s'.messages.map Message.cmd = judged ++ s'.main.unjudged) : Filtered s' := by
  refine ⟨?_, ?_, ?_⟩
  · rw [hknown, haccepted]
    exact hs.known
  · rw [haccepted]
    exact hs.distinct
  · obtain ⟨judged, hmessages, hadmitted⟩ := hs.judged
    exact ⟨judged, hjudged judged hmessages, haccepted.trans hadmitted⟩

/-- One more command is judged: it is admitted if it is valid and its id is new. -/
theorem admitted_filter_append (judged : List Command) (cmd : Command) :
    admitted Command.commandId [] ((judged ++ [cmd]).filter fun cmd => decide cmd.Valid) =
      admitted Command.commandId [] (judged.filter fun cmd => decide cmd.Valid) ++
        if cmd.Valid ∧ cmd.commandId ∉ (admitted Command.commandId []
          (judged.filter fun cmd => decide cmd.Valid)).map Command.commandId
        then [cmd] else [] := by
  rw [List.filter_append, admitted_append, List.nil_append]
  congr 1
  by_cases hvalid : cmd.Valid
  · have hone : [cmd].filter (fun cmd => decide cmd.Valid) = [cmd] := by simp [hvalid]
    simp only [hone, admitted, hvalid, true_and, ite_not]
  · simp [hvalid, admitted]

theorem mem_known_iff (hs : Filtered s) {id : String} :
    id ∈ s.activeCommandIds ↔ id ∈ s.accepted.map Command.commandId := by
  rw [hs.known, List.mem_reverse]

/-- A valid command with a new id is accepted. -/
theorem Filtered.accept (hs : Filtered s) {cmd : Command} (hreading : s.main.unjudged = [cmd])
    (hvalid : (validate s.activeCommandIds cmd).1 = true)
    (haccepted : s'.accepted = s.accepted ++ [cmd])
    (hknown : s'.activeCommandIds = cmd.commandId :: s.activeCommandIds)
    (hmessages : s'.messages = s.messages) (hnothing : s'.main.unjudged = []) : Filtered s' := by
  obtain ⟨hvalid, hnew⟩ := (validate_iff_valid _ _).mp hvalid
  rw [mem_known_iff hs] at hnew
  obtain ⟨judged, hjudged, hadmitted⟩ := hs.judged
  refine ⟨?_, ?_, judged ++ [cmd], ?_, ?_⟩
  · rw [haccepted, hknown, List.map_append, List.reverse_append, ← hs.known]
    rfl
  · rw [haccepted, List.map_append, List.nodup_append]
    refine ⟨hs.distinct, List.nodup_singleton _, ?_⟩
    rintro id hid other hother rfl
    rw [List.map_singleton, List.mem_singleton] at hother
    exact hnew (hother ▸ hid)
  · rw [hmessages, hnothing, hjudged, hreading, List.append_nil]
  · rw [haccepted, admitted_filter_append, ← hadmitted, if_pos ⟨hvalid, hnew⟩]

/-- A command that is refused adds nothing. -/
theorem Filtered.refuse (hs : Filtered s) {cmd : Command} (hreading : s.main.unjudged = [cmd])
    (hrefused : (validate s.activeCommandIds cmd).1 = false)
    (haccepted : s'.accepted = s.accepted) (hknown : s'.activeCommandIds = s.activeCommandIds)
    (hmessages : s'.messages = s.messages) (hnothing : s'.main.unjudged = []) : Filtered s' := by
  have hnot : ¬ (cmd.Valid ∧ cmd.commandId ∉ s.accepted.map Command.commandId) := by
    rw [← mem_known_iff hs, ← validate_iff_valid, hrefused]
    exact Bool.false_ne_true
  obtain ⟨judged, hjudged, hadmitted⟩ := hs.judged
  refine ⟨?_, ?_, judged ++ [cmd], ?_, ?_⟩
  · rw [hknown, haccepted]
    exact hs.known
  · rw [haccepted]
    exact hs.distinct
  · rw [hmessages, hnothing, hjudged, hreading, List.append_nil]
  · rw [haccepted, admitted_filter_append, ← hadmitted, if_neg hnot, List.append_nil]

theorem filtered_turn (hturn : Turn s action s') (hs : Filtered s) : Filtered s' := by
  cases hturn with
  | idle => exact hs
  | ends => exact hs.congr rfl rfl fun _ => id
  | @receive casts nowMs j cmd hmain hparse =>
      refine hs.congr ?_ rfl fun judged hmessages => ?_
      · simp [accepted, hmain, MainStage.unpushed]
      · rw [hmain] at hmessages
        simp [hmessages, MainStage.unjudged]
  | accept hmain hvalid =>
      refine hs.accept (by rw [hmain]; rfl) hvalid ?_ rfl rfl rfl
      simp [accepted, hmain, MainStage.unpushed]
  | refuse hmain hrefused =>
      refine hs.refuse (by rw [hmain]; rfl) hrefused ?_ rfl rfl rfl
      simp [accepted, answer, hmain, MainStage.unpushed]
  | @push n cmd hmain =>
      refine hs.congr ?_ rfl fun judged hmessages => ?_
      · have hone : [(⟨some n, cmd⟩ : Entry)].filter Entry.isInbound = [⟨some n, cmd⟩] := rfl
        simp [accepted, enqueue, hmain, MainStage.unpushed, hone]
      · rw [hmain] at hmessages
        exact hmessages
  | status clocks m =>
      refine hs.congr ?_ rfl fun _ => id
      have hnone : ((s.subscriber.handleMessage clocks m).2.toList.map fun cmd =>
          (⟨none, cmd⟩ : Entry)).filter Entry.isInbound = [] := by
        rw [List.filter_eq_nil_iff]
        simp [Entry.isInbound]
      simp only [accepted, enqueue, List.filter_append, hnone, List.append_nil]
  | pop hcurrent hqueue => exact hs.congr rfl rfl fun _ => id
  | process hcurrent hrun => exact hs.congr rfl rfl fun _ => id

/-! ## Main theorem -/

/-- The invariant of the pipeline. -/
structure Inv (s : Pipeline) : Prop where
  fifo : Fifo s
  placed : Placed s
  told : Told s
  filtered : Filtered s

theorem inv_start (environment : Option String) : Inv (start environment) where
  fifo := rfl
  placed n := by simp [places, start, MainStage.number]
  told := ⟨fun n => Nat.le_refl _, fun a ha => absurd ha List.not_mem_nil⟩
  filtered := ⟨rfl, List.nodup_nil, [], rfl, rfl⟩

theorem inv_turn (hturn : Turn s action s') (hs : Inv s) : Inv s' :=
  ⟨fifo_turn hturn hs.fifo, placed_turn hturn hs.placed, told_turn hturn hs.told,
    filtered_turn hturn hs.filtered⟩

theorem inv_run (environment : Option String) (actions : List Action) :
    Inv (run step (start environment) actions) :=
  run_induction (fun s action => inv_turn (turn_step s action)) (inv_start environment) actions

/-- A processed command has been pushed. -/
theorem Fifo.countP_processed_le (hs : Fifo s) (n : ℕ) :
    s.processed.countP (Entry.isFor n) ≤ s.pushed.countP (Entry.isFor n) := by
  rw [← hs, List.append_assoc, List.countP_append]
  exact Nat.le_add_right _ _

/-- No message is both refused and processed. -/
theorem Inv.count_le_one (hs : Inv s) (n : ℕ) :
    s.refused.count n + s.processed.countP (Entry.isFor n) ≤ 1 := by
  have hplaced := hs.placed n
  have hle := hs.fifo.countP_processed_le n
  unfold places at hplaced
  split_ifs at hplaced <;> omega

/-- **At most once, in order.**  In every reachable state the pipeline is an at-most-once
queue. -/
theorem atMostOnce_run (environment : Option String) (actions : List Action) :
    AtMostOnce (run step (start environment) actions) := by
  have hs := inv_run environment actions
  generalize run step (start environment) actions = s at hs
  refine ⟨hs.fifo, ?_, fun n => (hs.told.count n).trans (hs.count_le_one n),
    fun a ha n hn hrefused => ?_, fun a ha n hn hnot => ?_, hs.filtered.judged,
    fun cmd hfalse => ?_, fun cmd hvalid hnew => ?_⟩
  · -- what has been processed is a part of what has been accepted
    refine List.Nodup.sublist ?_ hs.filtered.distinct
    have hsublist : ((s.processed ++ s.current.toList).filter Entry.isInbound).Sublist
        (s.pushed.filter Entry.isInbound) := by
      rw [← hs.fifo, List.filter_append _ s.queue]
      exact List.sublist_append_left _ _
    have hmap := (hsublist.map Entry.cmd).trans (List.sublist_append_left _ s.main.unpushed)
    have hids := hmap.map Command.commandId
    rwa [List.map_map] at hids
  · rcases hs.told.status a ha n hn with ⟨hstatus, -⟩ | ⟨-, entry, hentry, hmessage⟩
    · exact hstatus
    · -- a message that is refused is not processed
      have hone := hs.count_le_one n
      have hcount := List.count_pos_iff.mpr hrefused
      have hprocessed : 0 < s.processed.countP (Entry.isFor n) :=
        List.countP_pos_iff.mpr ⟨entry, hentry, by simpa [Entry.isFor] using hmessage⟩
      omega
  · rcases hs.told.status a ha n hn with ⟨-, hmem⟩ | hprocessed
    · exact absurd hmem hnot
    · exact hprocessed
  · rw [validate_snd, hfalse]
    rfl
  · exact (validate_iff_valid _ _).mpr ⟨hvalid, mt (mem_known_iff hs.filtered).mp hnew⟩

end Pipeline

end OroEdge.Executor
