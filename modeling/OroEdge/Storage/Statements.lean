import OroEdge.Storage.Writer
import Mathlib.Data.List.Induction

/-!
# Prepared statements and reconnection

The registry `prepared_queries_` of a writer is meant to say what is prepared on its
connection.  Two facts hold in every run: the registry has the query that was registered
last under each name (`mem_preparedQueries_iff`), and an open connection has the names of
the registry (`sameNames_run`).

The queries may differ.  A name that is registered with another query on an open connection
is changed in the registry, but `pqxx::connection::prepare` throws, and the session keeps the
old query until the next reconnection.  `survivesReconnection_iff` says that nothing else
parts the two.

The two parts of the statement have different proofs.  That the names agree is an invariant of
every history: a session starts with the whole registry, and a name that is stored later is
prepared at once (`sameNames_operate`).  That the queries agree is not, since a session keeps
the first query of a name and the registry the last (`mem_prepareOn_iff`, `mem_setQuery_iff`). 
It is one of the histories in which no `prepare` changes a query on an open connection, and in
every other one it fails at that very point (`keepsQuery_of_sameQueries`).

Both are cases of one rule about what an open connection and the registry keep (`OnOpen`): it
has to hold for a new session with all statements, and to survive one more `prepare`.
-/

namespace OroEdge.Storage

open OroEdge.Lib StorageWriter

/-! ## Histories -/

/-- A call of `connect`, or what else happens to a writer. -/
inductive Operation
  | connect (outcome : ConnectOutcome)
  | event (event : Event)
  deriving DecidableEq, Repr

/-- One operation. -/
def operate (w : StorageWriter) : Operation → StorageWriter
  | .connect outcome => w.connect outcome
  | .event event => step w event

/-- The query that was registered last under the name. -/
def lastRegistered (history : List Operation) (name : String) : Option String :=
  history.foldl (fun last operation =>
    match operation with
    | .event (.prepare name' query) => if name' = name then some query else last
    | _ => last) none

/-- On an open connection the names of the registry are prepared, each with the query that was
registered last. -/
def RunsLastRegistered (w : StorageWriter) (history : List Operation) : Prop :=
  ∀ conn, w.conn = some conn → conn.isOpen = true →
    (∀ name, name ∈ conn.prepared.map Prod.fst ↔ name ∈ w.preparedQueries.map Prod.fst) ∧
    ∀ name query, (name, query) ∈ conn.prepared → lastRegistered history name = some query

/-- This holds at every point of the history. -/
def SurvivesReconnection (outcome : ConnectOutcome) (history : List Operation) : Prop :=
  ∀ earlier later, history = earlier ++ later →
    RunsLastRegistered (run operate (construct outcome) earlier) earlier

/-- A name that is registered again on an open connection keeps its query. -/
def KeepsQuery (w : StorageWriter) : Operation → Prop
  | .event (.prepare name query) =>
      w.connected = true → ∀ old, (name, old) ∈ w.preparedQueries → old = query
  | _ => True

/-! ## The registry -/

theorem mem_setQuery_iff {queries : List (String × String)} {name query name' query' : String} :
    (name', query') ∈ setQuery queries name query ↔
      (name' = name ∧ query' = query) ∨ (name' ≠ name ∧ (name', query') ∈ queries) := by
  unfold setQuery
  split
  · rename_i hused
    obtain ⟨⟨key, old⟩, hmem, rfl⟩ := List.mem_map.mp hused
    rw [List.mem_map]
    constructor
    · rintro ⟨entry, hentry, heq⟩
      split at heq
      · obtain ⟨rfl, rfl⟩ := Prod.mk.inj heq
        exact Or.inl ⟨rfl, rfl⟩
      · rename_i hne
        subst heq
        exact Or.inr ⟨hne, hentry⟩
    · rintro (⟨rfl, rfl⟩ | ⟨hne, hentry⟩)
      · exact ⟨(_, old), hmem, if_pos rfl⟩
      · exact ⟨(name', query'), hentry, if_neg hne⟩
  · rename_i hunused
    rw [List.mem_append, List.mem_singleton, Prod.mk.injEq]
    constructor
    · rintro (hentry | hnew)
      · refine Or.inr ⟨?_, hentry⟩
        rintro rfl
        exact hunused (List.mem_map.mpr ⟨_, hentry, rfl⟩)
      · exact Or.inl hnew
    · rintro (hnew | ⟨-, hentry⟩)
      · exact Or.inr hnew
      · exact Or.inl hentry

theorem mem_map_fst_iff {queries : List (String × String)} {name : String} :
    name ∈ queries.map Prod.fst ↔ ∃ query, (name, query) ∈ queries := by
  constructor
  · intro hmem
    obtain ⟨⟨key, query⟩, hentry, rfl⟩ := List.mem_map.mp hmem
    exact ⟨query, hentry⟩
  · rintro ⟨query, hentry⟩
    exact List.mem_map.mpr ⟨_, hentry, rfl⟩

theorem mem_names_setQuery_iff {queries : List (String × String)} {name query name' : String} :
    name' ∈ (setQuery queries name query).map Prod.fst ↔
      name' = name ∨ name' ∈ queries.map Prod.fst := by
  simp only [mem_map_fst_iff, mem_setQuery_iff]
  constructor
  · rintro ⟨query', ⟨rfl, -⟩ | ⟨-, hentry⟩⟩
    · exact Or.inl rfl
    · exact Or.inr ⟨query', hentry⟩
  · rintro (rfl | ⟨query', hentry⟩)
    · exact ⟨query, Or.inl ⟨rfl, rfl⟩⟩
    · by_cases hsame : name' = name
      · exact ⟨query, Or.inl ⟨hsame, rfl⟩⟩
      · exact ⟨query', Or.inr ⟨hsame, hentry⟩⟩

@[simp] theorem connect_preparedQueries (w : StorageWriter) (outcome : ConnectOutcome) :
    (w.connect outcome).preparedQueries = w.preparedQueries := by
  cases outcome <;> rfl

@[simp] theorem ensureConnection_preparedQueries (w : StorageWriter) (now : ℤ)
    (outcome : ConnectOutcome) :
    (w.ensureConnection now outcome).preparedQueries = w.preparedQueries := by
  unfold ensureConnection
  split
  · rfl
  · split
    · rfl
    · rw [connect_preparedQueries]

@[simp] theorem lose_preparedQueries (w : StorageWriter) :
    w.lose.preparedQueries = w.preparedQueries := rfl

@[simp] theorem prepare_preparedQueries (w : StorageWriter) (name query : String) :
    (w.prepare name query).preparedQueries = setQuery w.preparedQueries name query := by
  unfold StorageWriter.prepare
  dsimp only
  split <;> rfl

theorem lastRegistered_append_singleton (history : List Operation) (operation : Operation)
    (name : String) : lastRegistered (history ++ [operation]) name =
      match operation with
      | .event (.prepare name' query) =>
          if name' = name then some query else lastRegistered history name
      | _ => lastRegistered history name := by
  unfold lastRegistered
  rw [List.foldl_append]
  rfl

/-- The registry has the query that was registered last. -/
theorem mem_preparedQueries_iff (outcome : ConnectOutcome) (history : List Operation)
    (name query : String) :
    (name, query) ∈ (run operate (construct outcome) history).preparedQueries ↔
      lastRegistered history name = some query := by
  induction history using List.reverseRecOn with
  | nil =>
      rw [run_nil, construct, connect_preparedQueries]
      exact iff_of_false List.not_mem_nil (Option.some_ne_none query).symm
  | append_singleton history operation ih =>
      rw [run_append, run_cons, run_nil, lastRegistered_append_singleton]
      cases operation with
      | connect outcome => rw [operate, connect_preparedQueries, ih]
      | event event =>
          cases event with
          | ensure now outcome => rw [operate, step, ensureConnection_preparedQueries, ih]
          | lose => rw [operate, step, lose_preparedQueries, ih]
          | prepare name' query' =>
              rw [operate, step, prepare_preparedQueries, mem_setQuery_iff, ih]
              show _ ↔ (if name' = name then some query' else lastRegistered history name) = _
              by_cases hsame : name' = name
              · rw [if_pos hsame, Option.some.injEq]
                constructor
                · rintro (⟨-, rfl⟩ | ⟨hne, -⟩)
                  · rfl
                  · exact absurd hsame.symm hne
                · rintro rfl
                  exact Or.inl ⟨hsame.symm, rfl⟩
              · rw [if_neg hsame]
                constructor
                · rintro (⟨rfl, -⟩ | ⟨-, hlast⟩)
                  · exact absurd rfl hsame
                  · exact hlast
                · exact fun hlast => Or.inr ⟨Ne.symm hsame, hlast⟩

/-! ## The session -/

section

variable {conn : Connection} (hopen : conn.isOpen = true)

include hopen

/-- A name is prepared once; the query that comes first stays. -/
theorem mem_prepareOn_iff {entry : String × String} (other : String × String) :
    other ∈ (prepareOn conn entry).prepared ↔
      other ∈ conn.prepared ∨ (entry.1 ∉ conn.prepared.map Prod.fst ∧ other = entry) := by
  unfold prepareOn Connection.prepare
  by_cases hnew : entry.1 ∉ conn.prepared.map Prod.fst
  · rw [if_pos ⟨hopen, hnew⟩, Option.getD_some, List.mem_append, List.mem_singleton]
    simp only [hnew, not_false_eq_true, true_and]
  · rw [if_neg fun hboth => hnew hboth.2, Option.getD_none]
    simp only [hnew, false_and, or_false]

theorem mem_names_prepareOn_iff {entry : String × String} (name : String) :
    name ∈ (prepareOn conn entry).prepared.map Prod.fst ↔
      name ∈ conn.prepared.map Prod.fst ∨ name = entry.1 := by
  simp only [List.mem_map, mem_prepareOn_iff hopen]
  constructor
  · rintro ⟨other, hmem | ⟨-, rfl⟩, rfl⟩
    · exact Or.inl ⟨other, hmem, rfl⟩
    · exact Or.inr rfl
  · rintro (⟨other, hmem, rfl⟩ | rfl)
    · exact ⟨other, Or.inl hmem, rfl⟩
    · by_cases hused : entry.1 ∈ conn.prepared.map Prod.fst
      · obtain ⟨other, hmem, hname⟩ := List.mem_map.mp hused
        exact ⟨other, Or.inl hmem, hname⟩
      · exact ⟨entry, Or.inr ⟨fun hmem => hused (List.mem_map.mpr hmem), rfl⟩, rfl⟩

end

/-- All statements of the registry, on a session. -/
theorem foldl_prepareOn (entries : List (String × String)) {conn : Connection}
    (hopen : conn.isOpen = true) :
    (∀ name, name ∈ (entries.foldl prepareOn conn).prepared.map Prod.fst ↔
      name ∈ conn.prepared.map Prod.fst ∨ name ∈ entries.map Prod.fst) ∧
    ∀ other ∈ (entries.foldl prepareOn conn).prepared, other ∈ conn.prepared ∨ other ∈ entries := by
  induction entries generalizing conn with
  | nil => exact ⟨fun name => by simp, fun other hmem => Or.inl hmem⟩
  | cons entry entries ih =>
      have hopen' : (prepareOn conn entry).isOpen = true := by
        rw [prepareOn_isOpen, hopen]
      obtain ⟨hnames, hentries⟩ := ih hopen'
      constructor
      · intro name
        rw [List.foldl_cons, hnames, mem_names_prepareOn_iff hopen, List.map_cons, List.mem_cons,
          or_assoc]
      · intro other hmem
        rcases hentries other hmem with hmem | hmem
        · rcases (mem_prepareOn_iff hopen other).mp hmem with hmem | ⟨-, rfl⟩
          · exact Or.inl hmem
          · exact Or.inr List.mem_cons_self
        · exact Or.inr (List.mem_cons_of_mem _ hmem)

/-! ## Runs -/

/-- What holds of an open connection and the registry. -/
def OnOpen (P : Connection → List (String × String) → Prop) (w : StorageWriter) : Prop :=
  ∀ conn, w.conn = some conn → conn.isOpen = true → P conn w.preparedQueries

/-- The connection has a statement for each stored query, and no others. -/
def SameNames (conn : Connection) (queries : List (String × String)) : Prop :=
  ∀ name, name ∈ conn.prepared.map Prod.fst ↔ name ∈ queries.map Prod.fst

/-- The statements of the connection are the stored ones. -/
def SameQueries (conn : Connection) (queries : List (String × String)) : Prop :=
  ∀ entry ∈ conn.prepared, entry ∈ queries

section

variable {w : StorageWriter}

theorem prepare_conn_eq (w : StorageWriter) (name query : String) :
    (w.prepare name query).conn = w.conn.map fun conn =>
      if conn.isOpen then prepareOn conn (name, query) else conn := by
  unfold StorageWriter.prepare connected
  cases hconn : w.conn with
  | none => simp
  | some conn =>
      cases hopen : conn.isOpen with
      | true => simp [hopen]
      | false => simp [hopen]

/-- The session after a `prepare`, if the connection is open. -/
theorem exists_of_prepare_conn {conn : Connection} {name query : String}
    (hconn : (w.prepare name query).conn = some conn) (hopen : conn.isOpen = true) :
    ∃ before, w.conn = some before ∧ before.isOpen = true ∧
      conn = prepareOn before (name, query) := by
  rw [prepare_conn_eq] at hconn
  obtain ⟨before, hbefore, hafter⟩ := Option.map_eq_some_iff.mp hconn
  cases hbeforeOpen : before.isOpen with
  | true =>
      rw [hbeforeOpen, if_pos rfl] at hafter
      exact ⟨before, hbefore, hbeforeOpen, hafter.symm⟩
  | false =>
      rw [hbeforeOpen, if_neg Bool.false_ne_true] at hafter
      rw [hafter, hopen] at hbeforeOpen
      exact absurd hbeforeOpen.symm Bool.false_ne_true

theorem ensureConnection_cases (w : StorageWriter) (now : ℤ) (outcome : ConnectOutcome) :
    w.ensureConnection now outcome = w ∨
      w.ensureConnection now outcome = connect { w with lastReconnectAttempt := now } outcome := by
  unfold ensureConnection
  split
  · exact Or.inl rfl
  · split
    · exact Or.inl rfl
    · exact Or.inr rfl

/-- A lost connection is not open. -/
theorem isOpen_of_lose {conn : Connection} (hconn : w.lose.conn = some conn) :
    conn.isOpen = false := by
  obtain ⟨before, -, rfl⟩ := Option.map_eq_some_iff.mp hconn
  rfl

/-! ### What every open connection and the registry keep

It has to hold of a fresh session with all statements of the registry, and to be kept by a
`prepare`. -/

section

variable {P : Connection → List (String × String) → Prop}
  (hfresh : ∀ queries, P (queries.foldl prepareOn ⟨true, []⟩) queries)

include hfresh

theorem OnOpen.connect (hopen : OnOpen P w) (outcome : ConnectOutcome) :
    OnOpen P (w.connect outcome) := by
  cases outcome with
  | threw => exact hopen
  | notOpen =>
      intro conn hconn hconnOpen
      obtain rfl := Option.some.inj hconn
      exact absurd hconnOpen Bool.false_ne_true
  | opened =>
      intro conn hconn _
      obtain rfl := Option.some.inj hconn
      exact hfresh w.preparedQueries

theorem onOpen_construct (outcome : ConnectOutcome) : OnOpen P (construct outcome) := by
  apply OnOpen.connect hfresh
  intro conn hconn
  exact absurd hconn (Option.some_ne_none conn).symm

theorem OnOpen.operate (hopen : OnOpen P w) {operation : Operation}
    (hprepare : ∀ name query, operation = .event (.prepare name query) →
      ∀ conn, w.conn = some conn → conn.isOpen = true → P conn w.preparedQueries →
        P (prepareOn conn (name, query)) (setQuery w.preparedQueries name query)) :
    OnOpen P (operate w operation) := by
  cases operation with
  | connect outcome => exact hopen.connect hfresh outcome
  | event event =>
      cases event with
      | ensure now outcome =>
          have hmoved : OnOpen P { w with lastReconnectAttempt := now } := hopen
          rw [Storage.operate, step]
          rcases ensureConnection_cases w now outcome with heq | heq
          · rw [heq]
            exact hopen
          · rw [heq]
            exact hmoved.connect hfresh outcome
      | lose =>
          intro conn hconn hconnOpen
          rw [isOpen_of_lose hconn] at hconnOpen
          exact absurd hconnOpen Bool.false_ne_true
      | prepare name query =>
          intro conn hconn hconnOpen
          obtain ⟨before, hbefore, hbeforeOpen, rfl⟩ := exists_of_prepare_conn hconn hconnOpen
          rw [Storage.operate, step, prepare_preparedQueries]
          exact hprepare name query rfl before hbefore hbeforeOpen
            (hopen before hbefore hbeforeOpen)

end

/-! ### Names and queries -/

theorem sameNames_fresh (queries : List (String × String)) :
    SameNames (queries.foldl prepareOn ⟨true, []⟩) queries := by
  intro name
  rw [(foldl_prepareOn queries rfl).1]
  exact or_iff_right List.not_mem_nil

theorem sameQueries_fresh (queries : List (String × String)) :
    SameQueries (queries.foldl prepareOn ⟨true, []⟩) queries := by
  intro entry hentry
  exact ((foldl_prepareOn queries rfl).2 entry hentry).resolve_left List.not_mem_nil

theorem sameNames_operate (hsame : OnOpen SameNames w) (operation : Operation) :
    OnOpen SameNames (operate w operation) := by
  apply hsame.operate sameNames_fresh
  intro name query _ conn _ hopen hnames name'
  rw [mem_names_setQuery_iff, mem_names_prepareOn_iff hopen, hnames, or_comm]

theorem sameQueries_operate {operation : Operation} (hkeeps : KeepsQuery w operation)
    (hsame : OnOpen SameQueries w) : OnOpen SameQueries (operate w operation) := by
  apply hsame.operate sameQueries_fresh
  rintro name query rfl conn hconn hopen hqueries entry hentry
  have hconnected : w.connected = true := by
    rw [connected, hconn]
    exact hopen
  rw [mem_setQuery_iff]
  rcases (mem_prepareOn_iff hopen entry).mp hentry with hold | ⟨-, rfl⟩
  · have hregistered := hqueries entry hold
    by_cases hname : entry.1 = name
    · subst hname
      exact Or.inl ⟨rfl, hkeeps hconnected entry.2 hregistered⟩
    · exact Or.inr ⟨hname, hregistered⟩
  · exact Or.inl ⟨rfl, rfl⟩

end

/-- In every run, an open connection has the names of the registry. -/
theorem sameNames_run (outcome : ConnectOutcome) (history : List Operation) :
    OnOpen SameNames (run operate (construct outcome) history) :=
  @run_induction _ _ operate (OnOpen SameNames)
    (fun _ operation hsame => sameNames_operate hsame operation) _
    (onOpen_construct sameNames_fresh outcome) history

theorem runsLastRegistered_iff (outcome : ConnectOutcome) (history : List Operation) :
    RunsLastRegistered (run operate (construct outcome) history) history ↔
      OnOpen SameQueries (run operate (construct outcome) history) := by
  constructor
  · intro hruns conn hconn hopen entry hentry
    exact (mem_preparedQueries_iff outcome history entry.1 entry.2).mpr
      ((hruns conn hconn hopen).2 entry.1 entry.2 hentry)
  · intro hsame conn hconn hopen
    refine ⟨sameNames_run outcome history conn hconn hopen, fun name query hentry => ?_⟩
    exact (mem_preparedQueries_iff outcome history name query).mp
      (hsame conn hconn hopen _ hentry)

theorem lastRegistered_unique {outcome : ConnectOutcome} {history : List Operation}
    {name query query' : String}
    (hquery : (name, query) ∈ (run operate (construct outcome) history).preparedQueries)
    (hquery' : (name, query') ∈ (run operate (construct outcome) history).preparedQueries) :
    query = query' := by
  rw [mem_preparedQueries_iff] at hquery hquery'
  exact Option.some.inj (hquery.symm.trans hquery')

/-- A `prepare` that changes a query of an open connection parts the registry from it. -/
theorem keepsQuery_of_sameQueries {outcome : ConnectOutcome} {history : List Operation}
    {operation : Operation}
    (hsame : OnOpen SameQueries (run operate (construct outcome) history))
    (hafter : OnOpen SameQueries (run operate (construct outcome) (history ++ [operation]))) :
    KeepsQuery (run operate (construct outcome) history) operation := by
  cases operation with
  | connect outcome => trivial
  | event event =>
      cases event with
      | ensure now outcome => trivial
      | lose => trivial
      | prepare name query =>
          intro hconnected old hold
          obtain ⟨conn, hconn, hopen⟩ := (Option.any_eq_true _ _).mp hconnected
          -- the name is prepared already, so that it keeps its query
          have hname : name ∈ conn.prepared.map Prod.fst := by
            rw [sameNames_run outcome history conn hconn hopen]
            exact mem_map_fst_iff.mpr ⟨old, hold⟩
          obtain ⟨kept, hkept⟩ := mem_map_fst_iff.mp hname
          have hconn' : (run operate (construct outcome)
              (history ++ [.event (.prepare name query)])).conn =
                some (prepareOn conn (name, query)) := by
            rw [run_append, run_cons, run_nil, operate, step, prepare_conn_eq, hconn,
              Option.map_some, if_pos hopen]
          have hstays := hafter _ hconn' (by rw [prepareOn_isOpen, hopen]) (name, kept)
            ((mem_prepareOn_iff hopen _).mpr (Or.inl hkept))
          rw [run_append, run_cons, run_nil, operate, step, prepare_preparedQueries,
            mem_setQuery_iff] at hstays
          have hchanged : kept = query := by
            rcases hstays with ⟨-, heq⟩ | ⟨hne, -⟩
            · exact heq
            · exact absurd rfl hne
          rw [← hchanged]
          exact lastRegistered_unique hold (hsame conn hconn hopen _ hkept)

/-- **The statements of a connection** are those of the registry in every state of a history,
exactly if no name is registered with another query while the connection is open. -/
theorem survivesReconnection_iff (outcome : ConnectOutcome) (history : List Operation) :
    SurvivesReconnection outcome history ↔
      AllSteps operate KeepsQuery (construct outcome) history := by
  constructor
  · intro hsurvives
    rw [allSteps_iff_forall_split]
    intro earlier operation later hsplit
    have hbefore := hsurvives earlier (operation :: later) hsplit
    have hafter := hsurvives (earlier ++ [operation]) later (by rw [hsplit, List.append_cons])
    rw [runsLastRegistered_iff] at hbefore hafter
    exact keepsQuery_of_sameQueries hbefore hafter
  · rintro hall earlier later rfl
    rw [runsLastRegistered_iff]
    exact @AllSteps.run_induction _ _ operate KeepsQuery (OnOpen SameQueries)
      (fun _ _ hkeeps hsame => sameQueries_operate hkeeps hsame) _
      (onOpen_construct sameQueries_fresh outcome) _ (AllSteps.append_iff.mp hall).1

/-- The second query of a name is registered, and the session runs the first one. -/
theorem not_survivesReconnection_changed : ¬ SurvivesReconnection .opened
    [.event (.prepare "insert_signal" "SELECT 1"),
      .event (.prepare "insert_signal" "SELECT 2")] := by
  intro hsurvives
  have hruns := hsurvives _ [] (List.append_nil _).symm
  have hentry := (hruns ⟨true, [("insert_signal", "SELECT 1")]⟩ (by decide +kernel) rfl).2
    "insert_signal" "SELECT 1" List.mem_cons_self
  exact absurd hentry (by decide +kernel)

end OroEdge.Storage
