import OroEdge.Executor.Admission
import OroEdge.Executor.StatusSubscriber
import OroEdge.Executor.Worker
import OroEdge.Lib.Run

/-!
# The threads of the command executor

Three threads share the `CommandQueue`.  The main thread parses a message, validates the
command, and either answers that it is rejected or pushes it; the status subscriber pushes
the commands of manual events; the worker pops a command, runs its handler, answers and
logs.  Each access to the queue is under its mutex, so an action is one turn of one thread:

```text
receive     main, waiting for a message        parse
validate    main, with a parsed command        validate, and answer if it is refused
push        main, with a valid command         queue.push
status      the subscriber                     handle_message
pop         the worker, without a command      queue.pop
process     the worker, with a command         the handler, the callback and the logger
```

An exception that leaves a thread ends the process.  The fields from `messages` on keep the
history, for the statements only.

The queue needs no model of its mutex beyond this, since each of its operations is one critical
section and no thread holds two of them.  What is not atomic is the way of a message through the
main thread: between `receive`, `validate` and `push` the other threads take their turns, which
is why the stage of the main thread is a field of the state.

`Turn` says once what a step can do, with a case for each kind of turn and what it changes
written out, and `turn_step` that every step is one of them.  All invariants of the pipeline are
proved by cases on it, so that none of them unfolds `step`.
-/

namespace OroEdge.Executor

open OroEdge.Lib CommandDispatcher

/-- A message that has been parsed: the time, its JSON, and its command. -/
structure Message where
  nowMs : ℤ
  json : Json
  cmd : Command

/-- A command in the queue, with the number of its message; the commands of the subscriber
have none. -/
structure Entry where
  message : Option ℕ
  cmd : Command

/-- What the callback has sent for a command. -/
structure Answer where
  message : Option ℕ
  status : CommandStatus
  response : Json

/-- Where the main thread is in a turn of its loop. -/
inductive MainStage
  | waiting
  | parsed (n : ℕ) (m : Message)
  | accepted (n : ℕ) (cmd : Command)

/-- The main loop, the status subscriber and the worker, with the queue between them.  What has been
received, refused, pushed, handled and answered is kept for the statements. -/
structure Pipeline where
  running : Bool
  activeCommandIds : List String
  main : MainStage
  subscriber : StatusSubscriber
  queue : List Entry
  worker : Worker
  current : Option Entry
  /-- The messages that have been parsed, and the numbers of those that were refused. -/
  messages : List Message
  refused : List ℕ
  pushed : List Entry
  processed : List Entry
  answers : List Answer

namespace Pipeline

/-- Nothing has been received. -/
def start (environment : Option String) : Pipeline :=
  ⟨true, [], .waiting, .initial, [], .construct environment, none, [], [], [], [], []⟩

/-- The steps of the two threads.  Each takes what it needs of the clocks, the bus and the peers. -/
inductive Action
  /-- `none` is a text that is not JSON. -/
  | receive (casts : FloatCasts) (nowMs : ℤ) (text : Option Json)
  | validate (casts : FloatCasts) (nowMs : ℕ)
  | push
  | status (clocks : Clocks) (m : StatusMessage)
  | pop
  | process (e : Surroundings)

/-- The result of a command that has been refused. -/
def validationFailed : Json :=
  .obj [("reason", .str "Validation failed"), ("status", .str "REJECTED")]

/-- `queue.push`. -/
def enqueue (s : Pipeline) (entries : List Entry) : Pipeline :=
  { s with queue := s.queue ++ entries, pushed := s.pushed ++ entries }

/-- The responses to one message, with their status. -/
def answer (s : Pipeline) (message : Option ℕ) (status : CommandStatus) (sent : List Json) :
    Pipeline :=
  { s with answers := s.answers ++ sent.map fun response => ⟨message, status, response⟩ }

/-- A message is parsed.  An exception ends the main loop, since nothing catches it there. -/
def receive (s : Pipeline) (casts : FloatCasts) (nowMs : ℤ) (j : Json) : Pipeline :=
  match parse casts nowMs j with
  | .rejected => s
  | .threw => { s with running := false }
  | .parsed cmd =>
      { s with
        main := .parsed s.messages.length ⟨nowMs, j, cmd⟩
        messages := s.messages ++ [⟨nowMs, j, cmd⟩] }

/-- `validate`, and the answer to a command that is refused. -/
def judge (s : Pipeline) (casts : FloatCasts) (nowMs : ℕ) (n : ℕ) (cmd : Command) : Pipeline :=
  let verdict := validate s.activeCommandIds cmd
  let s := { s with activeCommandIds := verdict.2 }
  if verdict.1 then { s with main := .accepted n cmd }
  else
    { s with main := .waiting, refused := s.refused ++ [n] }.answer (some n) .rejected
      (respond casts nowMs cmd .rejected validationFailed).toList

/-- The handler of the current command, the callback and the logger. -/
def process (s : Pipeline) (e : Surroundings) (entry : Entry) : Pipeline :=
  match runHandler e s.worker entry.cmd with
  | none => { s with running := false }
  | some h =>
      let stepped := conclude e h
      { s with
        running := stepped.next.isSome
        worker := h.worker
        current := none
        processed := s.processed ++ [entry] }.answer entry.message h.execution.status stepped.sent

/-- A step does nothing where its thread is not at that point, or the process has ended. -/
def step (s : Pipeline) (action : Action) : Pipeline :=
  if s.running then
    match action with
    | .receive casts nowMs text =>
        match s.main, text with
        | .waiting, some j => s.receive casts nowMs j
        | _, _ => s
    | .validate casts nowMs =>
        match s.main with
        | .parsed n m => s.judge casts nowMs n m.cmd
        | _ => s
    | .push =>
        match s.main with
        | .accepted n cmd => { s with main := .waiting }.enqueue [⟨some n, cmd⟩]
        | _ => s
    | .status clocks m =>
        let handled := s.subscriber.handleMessage clocks m
        { s with subscriber := handled.1 }.enqueue (handled.2.toList.map fun cmd => ⟨none, cmd⟩)
    | .pop =>
        match s.current, s.queue with
        | none, entry :: rest => { s with current := some entry, queue := rest }
        | _, _ => s
    | .process e =>
        match s.current with
        | some entry => s.process e entry
        | none => s
  else s

/-! ## What an action does -/

/-- A turn of one of the threads, or none. -/
inductive Turn (s : Pipeline) : Action → Pipeline → Prop
  | idle (action : Action) : Turn s action s
  | ends (action : Action) : Turn s action { s with running := false }
  | receive {casts : FloatCasts} {nowMs : ℤ} {j : Json} {cmd : Command}
      (hmain : s.main = .waiting) (hparse : parse casts nowMs j = .parsed cmd) :
      Turn s (.receive casts nowMs (some j)) { s with
        main := .parsed s.messages.length ⟨nowMs, j, cmd⟩
        messages := s.messages ++ [⟨nowMs, j, cmd⟩] }
  | accept {casts : FloatCasts} {nowMs n : ℕ} {m : Message} (hmain : s.main = .parsed n m)
      (hvalid : (validate s.activeCommandIds m.cmd).1 = true) :
      Turn s (.validate casts nowMs) { s with
        main := .accepted n m.cmd
        activeCommandIds := m.cmd.commandId :: s.activeCommandIds }
  | refuse {casts : FloatCasts} {nowMs n : ℕ} {m : Message} (hmain : s.main = .parsed n m)
      (hrefused : (validate s.activeCommandIds m.cmd).1 = false) :
      Turn s (.validate casts nowMs)
        ({ s with main := .waiting, refused := s.refused ++ [n] }.answer (some n)
          .rejected (respond casts nowMs m.cmd .rejected validationFailed).toList)
  | push {n : ℕ} {cmd : Command} (hmain : s.main = .accepted n cmd) :
      Turn s .push ({ s with main := .waiting }.enqueue [⟨some n, cmd⟩])
  | status (clocks : Clocks) (m : StatusMessage) :
      Turn s (.status clocks m)
        ({ s with subscriber := (s.subscriber.handleMessage clocks m).1 }.enqueue
          ((s.subscriber.handleMessage clocks m).2.toList.map fun cmd => ⟨none, cmd⟩))
  | pop {entry : Entry} {rest : List Entry} (hcurrent : s.current = none)
      (hqueue : s.queue = entry :: rest) :
      Turn s .pop { s with current := some entry, queue := rest }
  | process {e : Surroundings} {entry : Entry} {h : Handled} (hcurrent : s.current = some entry)
      (hrun : runHandler e s.worker entry.cmd = some h) :
      Turn s (.process e) ({ s with
        running := (conclude e h).next.isSome
        worker := h.worker
        current := none
        processed := s.processed ++ [entry] }.answer entry.message h.execution.status
          (conclude e h).sent)

theorem turn_receive {s : Pipeline} {casts : FloatCasts} {nowMs : ℤ} {j : Json}
    (hmain : s.main = .waiting) :
    Turn s (.receive casts nowMs (some j)) (s.receive casts nowMs j) := by
  unfold receive
  cases hparse : parse casts nowMs j with
  | rejected => exact .idle _
  | threw => exact .ends _
  | parsed cmd => exact .receive hmain hparse

theorem turn_judge {s : Pipeline} {casts : FloatCasts} {nowMs n : ℕ} {m : Message}
    (hmain : s.main = .parsed n m) :
    Turn s (.validate casts nowMs) (s.judge casts nowMs n m.cmd) := by
  have hids := validate_snd s.activeCommandIds m.cmd
  cases hverdict : (validate s.activeCommandIds m.cmd).1 with
  | true =>
      rw [hverdict, if_pos rfl] at hids
      simp only [judge, hverdict, hids, if_true]
      exact .accept hmain hverdict
  | false =>
      rw [hverdict, if_neg Bool.false_ne_true] at hids
      simp only [judge, hverdict, hids, Bool.false_eq_true, if_false]
      exact .refuse hmain hverdict

theorem turn_process {s : Pipeline} {e : Surroundings} {entry : Entry}
    (hcurrent : s.current = some entry) : Turn s (.process e) (s.process e entry) := by
  unfold process
  cases hrun : runHandler e s.worker entry.cmd with
  | none => exact .ends _
  | some h => exact .process hcurrent hrun

theorem turn_step (s : Pipeline) (action : Action) : Turn s action (step s action) := by
  unfold step
  split
  · cases action with
    | receive casts nowMs text =>
        simp only []
        split
        · rename_i j hmain
          exact turn_receive hmain
        · exact .idle _
    | validate casts nowMs =>
        simp only []
        split
        · rename_i n m hmain
          exact turn_judge hmain
        · exact .idle _
    | push =>
        simp only []
        split
        · rename_i n cmd hmain
          exact .push hmain
        · exact .idle _
    | status clocks m => exact .status clocks m
    | pop =>
        simp only []
        split
        · rename_i entry rest hcurrent hqueue
          exact .pop hcurrent hqueue
        · exact .idle _
    | process e =>
        simp only []
        split
        · rename_i entry hcurrent
          exact turn_process hcurrent
        · exact .idle _
  · exact .idle _

end Pipeline

end OroEdge.Executor
