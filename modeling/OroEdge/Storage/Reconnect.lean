import OroEdge.Storage.Writer

/-!
# When a lost connection is retried

The throttle of `ensure_connection` is meant to allow a reconnection attempt at
the first call that misses the connection, and afterwards once every five
seconds: `RetryLaw`.  The law is about the calls of a run, recorded by `calls`.

The code does not follow it.  `last_reconnect_attempt_` starts at
`time_point::min()`, and the distance from there to a clock reading in
`[0, 2^62]` wraps to a negative number, so the first call is throttled
(`throttled_of_int64Min`).  A throttled call does not move
`last_reconnect_attempt_`, hence every later call is throttled too, and a writer
that is once without a connection stays without one.  `followsRetryLaw_iff` says
that the law holds of exactly the runs in which no call misses the connection.
-/

namespace OroEdge.Storage

open OroEdge.Lib

/-- A clock reading of the supported range. -/
def ValidReading (now : ℤ) : Prop := 0 ≤ now ∧ now ≤ 4611686018427387904

/-- One `ensure_connection` call, as seen from outside. -/
structure Call where
  now : ℤ
  missing : Bool
  attempted : Bool
  deriving DecidableEq, Repr

/-- The `ensure_connection` calls of a run, oldest first. -/
def calls : StorageWriter → List Event → List Call
  | _, [] => []
  | w, .ensure now outcome :: rest =>
      ⟨now, !w.connected, w.attempts now⟩ :: calls (step w (.ensure now outcome)) rest
  | w, event :: rest => calls (step w event) rest

/-- The last of the calls that made an attempt. -/
def lastAttempt (earlier : List Call) : Option Call :=
  (earlier.filter Call.attempted).getLast?

/-- A call that misses the connection makes an attempt exactly when no earlier
call made one or the last such call is at least five seconds old. -/
def RetryLaw (earlier : List Call) (call : Call) : Prop :=
  call.missing →
    (call.attempted ↔ lastAttempt earlier = none ∨
      ∃ last ∈ lastAttempt earlier, throttleNanos ≤ call.now - last.now)

/-- Every call of the list obeys the law, given the calls before it. -/
def FollowsRetryLaw (history : List Call) : Prop :=
  ∀ earlier call later, history = earlier ++ call :: later → RetryLaw earlier call

/-- Every clock reading of the run is in range. -/
def ValidClock (events : List Event) : Prop :=
  ∀ now outcome, Event.ensure now outcome ∈ events → ValidReading now

/-- No call misses the connection: the constructor opened it, and no loss comes
before a call. -/
def NeverMissed (outcome : ConnectOutcome) (events : List Event) : Prop :=
  ∀ earlier now attempt later, events = earlier ++ .ensure now attempt :: later →
    outcome = .opened ∧ Event.lose ∉ earlier

/-! ## The throttle -/

/-- The distance from `time_point::min()` wraps, so the call is throttled. -/
theorem throttled_of_int64Min {w : StorageWriter} {now : ℤ}
    (hlast : w.lastReconnectAttempt = int64Min) (hnow : ValidReading now) :
    w.throttled now = true := by
  obtain ⟨hnow0, hnow1⟩ := hnow
  have hwrap : wrap64 (now - w.lastReconnectAttempt) = now + int64Min := by
    rw [hlast]
    exact wrap64_sub_int64Min hnow0 (by unfold int64Min; omega)
  simp only [StorageWriter.throttled, hwrap, decide_eq_true_eq]
  unfold int64Min throttleNanos
  omega

theorem attempts_of_int64Min {w : StorageWriter} {now : ℤ}
    (hlast : w.lastReconnectAttempt = int64Min) (hnow : ValidReading now) :
    w.attempts now = false := by
  simp [StorageWriter.attempts, throttled_of_int64Min hlast hnow]

/-- Without an attempt `ensure_connection` changes nothing. -/
theorem ensureConnection_of_int64Min {w : StorageWriter} {now : ℤ} (outcome : ConnectOutcome)
    (hlast : w.lastReconnectAttempt = int64Min) (hnow : ValidReading now) :
    w.ensureConnection now outcome = w := by
  unfold StorageWriter.ensureConnection
  rw [throttled_of_int64Min hlast hnow]
  split <;> rfl

/-! ## The calls of a run -/

/-- A call of a run from a fresh writer makes no attempt, and it misses the
connection exactly when the writer started without one or a loss came before. -/
theorem mem_calls_iff {events : List Event} {w : StorageWriter} {call : Call}
    (hlast : w.lastReconnectAttempt = int64Min) (hclock : ValidClock events) :
    call ∈ calls w events ↔ ∃ attempt earlier later,
      events = earlier ++ .ensure call.now attempt :: later ∧
        call = ⟨call.now, !(w.connected && decide (Event.lose ∉ earlier)), false⟩ := by
  induction events generalizing w with
  | nil => simp [calls]
  | cons event rest ih =>
      have hrest : ValidClock rest := fun now outcome hmem =>
        hclock now outcome (List.mem_cons_of_mem _ hmem)
      simp only [exists_split_cons_iff]
      cases event with
      | ensure now outcome =>
          have hnow : ValidReading now := hclock now outcome (List.mem_cons_self ..)
          -- throttled, the call leaves the writer as it is, so `ih` applies to `w` again
          rw [calls, step, ensureConnection_of_int64Min outcome hlast hnow,
            attempts_of_int64Min hlast hnow, List.mem_cons, ih hlast hrest]
          constructor
          · rintro (rfl | ⟨attempt, hlater⟩)
            · exact ⟨outcome, Or.inl (by simp)⟩
            · exact ⟨attempt, Or.inr (by simpa using hlater)⟩
          · rintro ⟨attempt, ⟨hensure, hcall⟩ | hlater⟩
            · obtain ⟨hnow, rfl⟩ := Event.ensure.inj hensure
              rw [hcall, ← hnow]
              simp
            · exact Or.inr ⟨attempt, by simpa using hlater⟩
      | prepare name query =>
          simp only [calls, step]
          rw [ih (by simpa using hlast) hrest]
          simp
      | lose =>
          -- every later call has this loss before it, and finds no connection
          simp only [calls, step]
          rw [ih (by simpa using hlast) hrest]
          simp

/-- Where no call makes an attempt, the law holds of exactly the histories in
which no call misses the connection. -/
theorem followsRetryLaw_iff_of_unattempted {history : List Call}
    (hnone : ∀ call ∈ history, call.attempted = false) :
    FollowsRetryLaw history ↔ ∀ call ∈ history, call.missing = false := by
  constructor
  · intro hlaw call hcall
    obtain ⟨earlier, later, hsplit⟩ := List.append_of_mem hcall
    have hlast : lastAttempt earlier = none := by
      have hfilter : earlier.filter Call.attempted = [] := by
        refine List.filter_eq_nil_iff.mpr fun other hother => ?_
        simp [hnone other (by rw [hsplit]; exact List.mem_append_left _ hother)]
      simp [lastAttempt, hfilter]
    by_contra hmissing
    -- the first call that misses the connection should have made an attempt
    have hattempted := (hlaw earlier call later hsplit (by simpa using hmissing)).mpr
      (Or.inl hlast)
    simp [hnone call hcall] at hattempted
  · intro hmissing earlier call later hsplit hcall
    have hmem : call ∈ history := by
      rw [hsplit]
      simp
    simp [hmissing call hmem] at hcall

/-- **The retry law holds of exactly the runs that never need it.**  From any
construction, a run obeys the law if and only if no `ensure_connection` call is
made while the connection is missing or closed. -/
theorem followsRetryLaw_iff (outcome : ConnectOutcome) (events : List Event)
    (hclock : ValidClock events) :
    FollowsRetryLaw (calls (StorageWriter.construct outcome) events) ↔
      NeverMissed outcome events := by
  have hlast := construct_lastReconnectAttempt outcome
  have hunattempted : ∀ call ∈ calls (StorageWriter.construct outcome) events,
      call.attempted = false := by
    intro call hcall
    obtain ⟨_, _, _, _, hcall⟩ := (mem_calls_iff hlast hclock).mp hcall
    rw [hcall]
  rw [followsRetryLaw_iff_of_unattempted hunattempted]
  constructor
  · intro hmissing earlier now attempt later hsplit
    have hcall := hmissing ⟨now, _, false⟩
      ((mem_calls_iff hlast hclock).mpr ⟨attempt, earlier, later, hsplit, rfl⟩)
    simpa only [construct_connected, Bool.not_eq_false', Bool.and_eq_true,
      decide_eq_true_eq] using hcall
  · intro hnever call hcall
    obtain ⟨attempt, earlier, later, hsplit, hcall⟩ := (mem_calls_iff hlast hclock).mp hcall
    obtain ⟨hopened, hlose⟩ := hnever earlier call.now attempt later hsplit
    rw [hcall]
    simp [hopened, hlose]

/-- A connection that is open at every call: the loss comes after the last one. -/
theorem followsRetryLaw_open_run :
    FollowsRetryLaw (calls (StorageWriter.construct .opened) [.ensure 7 .threw, .lose]) := by
  refine (followsRetryLaw_iff .opened [.ensure 7 .threw, .lose] ?_).mpr ?_
  · intro now outcome hmem
    obtain ⟨rfl, rfl⟩ : now = 7 ∧ outcome = .threw := by simpa using hmem
    exact ⟨by decide, by decide⟩
  · intro earlier now attempt later hsplit
    cases earlier with
    | nil => simp
    | cons first rest =>
        obtain ⟨_, hrest⟩ := List.cons.inj hsplit
        cases rest <;> simp at hrest

/-- The database is down when the node starts and up one hour later: the second
write still does not reconnect. -/
theorem not_followsRetryLaw_late_database :
    ValidReading 0 ∧ ValidReading 3600000000000 ∧
      ¬ FollowsRetryLaw (calls (StorageWriter.construct .threw)
        [.ensure 0 .threw, .ensure 3600000000000 .opened]) := by
  refine ⟨⟨by decide, by decide⟩, ⟨by decide, by decide⟩, fun hlaw => ?_⟩
  -- no attempt came before the second call, so the law asks for one
  have hsecond : (true : Bool) = true → _ :=
    hlaw [⟨0, true, false⟩] ⟨3600000000000, true, false⟩ [] (by decide)
  have hattempted := (hsecond rfl).mpr (Or.inl (by decide))
  exact absurd hattempted (by decide)

end OroEdge.Storage
