import OroEdge.Lib.Run

/-!
# Messages of several parts

A queue holds the parts of messages in a row, each with a mark that says whether another part of
its message follows.  `receive` takes a part, and with it the next one if the mark says so.

A reader of this kind keeps messages apart, however many parts they have: the pairs that it
takes are the pairs of the messages, one message after the other (`received_pairs`).

The point of the marks is what becomes of a message with more parts than are read at once.  A
reader that takes a fixed number of parts, whatever their marks, is thrown off by it for ever
after: it reads the last part of one message as the first of the next.  A reader that looks at
the mark never takes a part of two messages, so the rest of a long message is read as pairs of
its own, and the next message starts afresh.

The invariant (`Reader.Apart`) says it of a reader between two reads: what is in the queue are
the ends of the messages that have come and are not read up, and what has been read are the
pairs before them.  A message that arrives adds to both sides, and a read takes one pair from
the front, for which `exists_ends` finds the message to which it belongs.
-/

namespace OroEdge.Lib.Multipart

variable {Part : Type*}

/-- The parts of a message, as they stand in the queue. -/
def marked : List Part → List (Part × Bool)
  | [] => []
  | part :: rest => (part, !rest.isEmpty) :: marked rest

/-- The pairs of a message; a last part without a second one is dropped. -/
def pairs : List Part → List (Part × Part)
  | first :: second :: rest => (first, second) :: pairs rest
  | _ => []

/-- What is read, and the queue that is left. -/
def receive : List (Part × Bool) → Option (Part × Part) × List (Part × Bool)
  | (first, true) :: (second, _) :: rest => (some (first, second), rest)
  | _ :: rest => (none, rest)
  | [] => (none, [])

/-- A queue, and what has come and been read so far. -/
structure Reader (Part : Type*) where
  queue : List (Part × Bool)
  arrived : List (List Part)
  received : List (Part × Part)

namespace Reader

def empty : Reader Part := ⟨[], [], []⟩

/-- A message arrives whole. -/
def arrive (r : Reader Part) (message : List Part) : Reader Part :=
  { r with queue := r.queue ++ marked message, arrived := r.arrived ++ [message] }

/-- The next message is received, if there is one. -/
def read (r : Reader Part) : Reader Part :=
  { r with queue := (receive r.queue).2, received := r.received ++ (receive r.queue).1.toList }

/-- The queue holds ends of messages, and the pairs of these are still to be read. -/
def Apart (r : Reader Part) : Prop :=
  ∃ ends : List (List Part), r.queue = ends.flatMap marked ∧
    r.received ++ ends.flatMap pairs = r.arrived.flatMap pairs

theorem apart_empty : (empty : Reader Part).Apart := ⟨[], rfl, rfl⟩

theorem Apart.arrive {r : Reader Part} (hr : r.Apart) (message : List Part) :
    (r.arrive message).Apart := by
  obtain ⟨ends, hqueue, hpairs⟩ := hr
  refine ⟨ends ++ [message], ?_, ?_⟩
  · rw [Reader.arrive, hqueue, List.flatMap_append, List.flatMap_singleton]
  · rw [Reader.arrive, List.flatMap_append, ← List.append_assoc, hpairs, List.flatMap_append]

end Reader

/-- The first message that has a part left loses one or two. -/
theorem exists_ends (ends : List (List Part)) :
    ∃ rest : List (List Part), (receive (ends.flatMap marked)).2 = rest.flatMap marked ∧
      (receive (ends.flatMap marked)).1.toList ++ rest.flatMap pairs = ends.flatMap pairs := by
  induction ends with
  | nil => exact ⟨[], rfl, rfl⟩
  | cons message ends ih =>
      cases message with
      | nil => exact ih
      | cons first tail =>
          cases tail with
          | nil => exact ⟨ends, rfl, rfl⟩
          | cons second tail => exact ⟨tail :: ends, rfl, rfl⟩

theorem Reader.Apart.read {r : Reader Part} (hr : r.Apart) : r.read.Apart := by
  obtain ⟨ends, hqueue, hpairs⟩ := hr
  obtain ⟨rest, hrest, hsplit⟩ := exists_ends ends
  refine ⟨rest, ?_, ?_⟩
  · rw [Reader.read, hqueue, hrest]
  · rw [Reader.read, hqueue, List.append_assoc, hsplit, hpairs]

/-- What has been read are pairs of the messages, in their order, and none is left out. -/
theorem Reader.Apart.prefix_pairs {r : Reader Part} (hr : r.Apart) :
    r.received <+: r.arrived.flatMap pairs := by
  obtain ⟨ends, -, hpairs⟩ := hr
  exact ⟨_, hpairs⟩

/-- Once the queue is empty, all pairs have been read. -/
theorem Reader.Apart.received_eq {r : Reader Part} (hr : r.Apart) (hempty : r.queue = []) :
    r.received = r.arrived.flatMap pairs := by
  obtain ⟨ends, hqueue, hpairs⟩ := hr
  rw [hempty, eq_comm, List.flatMap_eq_nil_iff] at hqueue
  have hnil : ends.flatMap pairs = [] := by
    rw [List.flatMap_eq_nil_iff]
    intro message hmessage
    cases message with
    | nil => rfl
    | cons part rest => cases hqueue _ hmessage
  rw [← hpairs, hnil, List.append_nil]

end OroEdge.Lib.Multipart
