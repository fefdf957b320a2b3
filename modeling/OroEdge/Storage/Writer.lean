import OroEdge.Lib.Run
import OroEdge.Lib.Word

/-!
# The storage writer

`StorageWriter` keeps one PostgreSQL connection, the statements registered
through `prepare`, and the time of the last reconnection attempt.  libpqxx and
the server are the environment: each attempt to connect has an outcome, and an
open connection may be lost between two calls.

Steady-clock time points are signed 64-bit nanosecond counts, and their
difference wraps (`wrap64`).

The registry of statements is kept beside the connection so that a new session can be given all
of them again: `prepare` stores the query first and prepares it where there is a connection, and
`connect` prepares all that are stored.  Since `pqxx::connection::prepare` throws for a name
that a session knows, and the exception is caught and logged, it is the first query of a name
that a session runs.

Attempts to connect are throttled by the time of the last one, which is set before the attempt
is made, so that it also counts if the attempt fails.  Which attempts are made over the life of
a writer is the subject of `OroEdge.Storage.Reconnect`, and which statements a session has that
of `OroEdge.Storage.Statements`.
-/

namespace OroEdge.Storage

open OroEdge.Lib

/-- What `std::make_unique<pqxx::connection>` does: it opens a connection, it
returns one that is not open, or it throws. -/
inductive ConnectOutcome
  | opened
  | notOpen
  | threw
  deriving DecidableEq, Repr

/-- A libpqxx connection, with the statements prepared on its session. -/
structure Connection where
  isOpen : Bool
  prepared : List (String × String)
  deriving DecidableEq, Repr

/-- `pqxx::connection::prepare`; `none` is a thrown exception.  A name can be
prepared once on a session. -/
def Connection.prepare (conn : Connection) (name query : String) : Option Connection :=
  if conn.isOpen ∧ name ∉ conn.prepared.map Prod.fst then
    some { conn with prepared := conn.prepared ++ [(name, query)] }
  else
    none

/-- `std::chrono::seconds(5)` in nanoseconds. -/
def throttleNanos : ℤ := 5000000000

/-- The members of the writer; there is no connection after a failed attempt. -/
structure StorageWriter where
  conn : Option Connection
  lastReconnectAttempt : ℤ
  preparedQueries : List (String × String)
  deriving DecidableEq, Repr

namespace StorageWriter

/-- `conn_ && conn_->is_open()`. -/
def connected (w : StorageWriter) : Bool := w.conn.any Connection.isOpen

/-- `prepared_queries_[name] = query`. -/
def setQuery (queries : List (String × String)) (name query : String) : List (String × String) :=
  if name ∈ queries.map Prod.fst then
    queries.map fun entry => if entry.1 = name then (name, query) else entry
  else
    queries ++ [(name, query)]

/-- One statement on the current session; a thrown exception is caught and logged. -/
def prepareOn (conn : Connection) (entry : String × String) : Connection :=
  (conn.prepare entry.1 entry.2).getD conn

/-- All stored queries are prepared on the connection. -/
def prepareStatements (w : StorageWriter) : StorageWriter :=
  { w with conn := w.conn.map fun conn => w.preparedQueries.foldl prepareOn conn }

/-- The query is stored, and prepared at once if there is a connection. -/
def prepare (w : StorageWriter) (name query : String) : StorageWriter :=
  let w := { w with preparedQueries := setQuery w.preparedQueries name query }
  if w.connected then
    { w with conn := w.conn.map fun conn => prepareOn conn (name, query) }
  else
    w

/-- A throwing attempt leaves the old `conn_` in place. -/
def connect (w : StorageWriter) : ConnectOutcome → StorageWriter
  | .opened => prepareStatements { w with conn := some ⟨true, []⟩ }
  | .notOpen => { w with conn := some ⟨false, []⟩ }
  | .threw => w

/-- The constructor: `last_reconnect_attempt_` starts at `time_point::min()`. -/
def construct (outcome : ConnectOutcome) : StorageWriter :=
  connect ⟨none, int64Min, []⟩ outcome

/-- `now - last_reconnect_attempt_ < std::chrono::seconds(5)`. -/
def throttled (w : StorageWriter) (now : ℤ) : Bool :=
  wrap64 (now - w.lastReconnectAttempt) < throttleNanos

/-- Whether `ensure_connection` reaches its call of `connect`. -/
def attempts (w : StorageWriter) (now : ℤ) : Bool := !w.connected && !w.throttled now

/-- `outcome` is what an attempt would meet; without an attempt it is not read. -/
def ensureConnection (w : StorageWriter) (now : ℤ) (outcome : ConnectOutcome) : StorageWriter :=
  if w.connected then w
  else if w.throttled now then w
  else connect { w with lastReconnectAttempt := now } outcome

/-- The server or the network closes the session. -/
def lose (w : StorageWriter) : StorageWriter :=
  { w with conn := w.conn.map fun conn => { conn with isOpen := false } }

end StorageWriter

/-! ## The life of a writer -/

/-- What happens to a writer after its construction. -/
inductive Event
  | ensure (now : ℤ) (outcome : ConnectOutcome)
  | prepare (name query : String)
  | lose
  deriving DecidableEq, Repr

def step (w : StorageWriter) : Event → StorageWriter
  | .ensure now outcome => w.ensureConnection now outcome
  | .prepare name query => w.prepare name query
  | .lose => w.lose

/-! ### The time of the last attempt -/

@[simp] theorem connect_lastReconnectAttempt (w : StorageWriter) (outcome : ConnectOutcome) :
    (w.connect outcome).lastReconnectAttempt = w.lastReconnectAttempt := by
  cases outcome <;> rfl

@[simp] theorem construct_lastReconnectAttempt (outcome : ConnectOutcome) :
    (StorageWriter.construct outcome).lastReconnectAttempt = int64Min := by
  simp [StorageWriter.construct]

@[simp] theorem prepare_lastReconnectAttempt (w : StorageWriter) (name query : String) :
    (w.prepare name query).lastReconnectAttempt = w.lastReconnectAttempt := by
  simp only [StorageWriter.prepare]
  split <;> rfl

@[simp] theorem lose_lastReconnectAttempt (w : StorageWriter) :
    w.lose.lastReconnectAttempt = w.lastReconnectAttempt := rfl

/-! ### The connection -/

@[simp] theorem prepareOn_isOpen (conn : Connection) (entry : String × String) :
    (StorageWriter.prepareOn conn entry).isOpen = conn.isOpen := by
  unfold StorageWriter.prepareOn Connection.prepare
  split <;> rfl

@[simp] theorem construct_connected (outcome : ConnectOutcome) :
    (StorageWriter.construct outcome).connected = decide (outcome = .opened) := by
  cases outcome <;> simp [StorageWriter.construct, StorageWriter.connect] <;> rfl

@[simp] theorem prepare_connected (w : StorageWriter) (name query : String) :
    (w.prepare name query).connected = w.connected := by
  cases hconn : w.conn with
  | none => simp [StorageWriter.prepare, StorageWriter.connected, hconn]
  | some conn =>
      cases hopen : conn.isOpen <;>
        simp [StorageWriter.prepare, StorageWriter.connected, hconn, hopen]

@[simp] theorem lose_connected (w : StorageWriter) : w.lose.connected = false := by
  cases hconn : w.conn <;> simp [StorageWriter.lose, StorageWriter.connected, hconn]

end OroEdge.Storage
