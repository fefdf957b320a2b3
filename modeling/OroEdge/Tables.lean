import OroEdge.Lib.Sql

/-!
# Rows of the edge database

The columns that some statement of the services reads.  Timestamps are
microseconds since the epoch.  The rows of `oro_base_signals` have a unique row
`id`, given by the database; `signal_id` is the nullable number of the signal
type.

Rows are shared by all services: the nodes insert signals and events, the jobs read them and
insert events, notifications and summaries, and the cleanup deletes.  What is modelled of a row
are the columns that some modelled statement reads or writes; the others are constant, or
nothing depends on them.

A zone is a pair of functions between the time line of UTC and that of local time, which a
session of the database has, and a node has another.  Statements about days are for zones with a
fixed offset where that matters (`Zone.fixed`), and for any zone where it does not.
-/

namespace OroEdge

/-- The values of one inserted signal. -/
structure Signal where
  deviceId : String
  signalId : Option ℤ
  signalType : String
  valueNumeric : Option ℚ
  valueText : Option String
  valueBoolean : Option Bool
  observedAt : ℤ
  deriving DecidableEq, Repr

/-- A row of `oro_base_signals`. -/
structure SignalRow extends Signal where
  id : ℕ
  deriving DecidableEq, Repr

/-- A row of `oro_base_events`. -/
structure EventRow where
  deviceId : String
  eventType : String
  severity : Option String
  detectedAt : ℤ
  dedupeKey : String
  deriving DecidableEq, Repr

/-- `AT TIME ZONE`, in both directions: an instant as local wall-clock time, and
the instant of a local wall-clock time. -/
structure Zone where
  toLocal : ℤ → ℤ
  toUtc : ℤ → ℤ

/-- A zone with a fixed offset from UTC, in microseconds. -/
def Zone.fixed (offset : ℤ) : Zone := ⟨fun instant => instant + offset, fun wall => wall - offset⟩

end OroEdge
