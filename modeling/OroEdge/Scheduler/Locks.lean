import OroEdge.Lib.Lease
import OroEdge.Lib.Run
import Mathlib.Algebra.Order.Ring.Int

/-!
# Job locks

`LockManager` keeps the locks in the table `stm_job_locks`, with one row for a job.  Its three
statements are atomic, and `NOW()` is the clock of the database, in microseconds.  The
instances are told apart by their owner ids; nothing stops an instance whose lock has
expired, or makes it notice.

For each job, the table is the register of a lease, and the statements are its moves
(`move_view`).  So a lock excludes the other instances until it expires
(`lockWindow_run`).

The model is as fine as the failures are: a statement may be lost on its way, or be executed and
its answer be lost, and then the instance and the table know different things (`Delivery`). 
What an instance has been told is a part of the state, since the property is about what
instances believe.

The proof has two levels.  For a single job, `view` forgets the names of the columns, and what
is left is a lease in the sense of `OroEdge.Lib.Lease`; each of the three functions is one of
its moves, or shows nothing, for the job itself and for every other job.  Exclusion is then that
of leases.  The second part is about an instance whose lock has been taken over: it does not own
the row any more, and nobody becomes the owner of a row but by being granted the lock
(`owner?_step_ne`), so its late `release` and `extend` change nothing.
-/

namespace OroEdge.Scheduler

open OroEdge.Lib

/-! ## The statements -/

/-- A row of `stm_job_locks`, without the name of its job. -/
structure LockRow where
  lockKey : String
  lockedAt : ℤ
  lockedUntil : ℤ
  owner : String
  deriving DecidableEq, Repr

/-- `NOW() + (seconds || ' seconds')::interval`. -/
def secondsFrom (now seconds : ℤ) : ℤ := now + 1000000 * seconds

/-- `stm_lock_acquire`: the row of the job after it, and whether a row is returned. -/
def lockAcquire (now : ℤ) (lockKey : String) (ttlSeconds : ℤ) (owner : String) :
    Option LockRow → Option LockRow × Bool
  | none => (some ⟨lockKey, now, secondsFrom now ttlSeconds, owner⟩, true)
  | some row =>
      if row.lockedUntil < now then
        (some ⟨lockKey, now, secondsFrom now ttlSeconds, owner⟩, true)
      else (some row, false)

/-- `stm_lock_release`. -/
def lockRelease (owner : String) (row : Option LockRow) : Option LockRow :=
  row.filter fun row => row.owner ≠ owner

/-- `stm_lock_extend`. -/
def lockExtend (now additionalSeconds : ℤ) (owner : String) (row : Option LockRow) :
    Option LockRow :=
  row.map fun row =>
    if row.owner = owner then { row with lockedUntil := secondsFrom now additionalSeconds }
    else row

/-! ## The lock manager -/

/-- What becomes of a statement: it is executed, it is not, or it is and the reply is lost. -/
inductive Delivery
  | executed
  | failed
  | unheard
  deriving DecidableEq, Repr

/-- The clock, the table, and the instances that have crashed.  `granted` is for the statements
only: for a job and an owner, the end of the lock that the owner has been granted and has not
released. -/
structure Locks where
  now : ℤ
  table : String → Option LockRow
  crashed : List String
  granted : String → String → Option ℤ

namespace Locks

/-- No calls have been made. -/
def start (table : String → Option LockRow) (now : ℤ) : Locks := ⟨now, table, [], fun _ _ => none⟩

def setRow (s : Locks) (jobName : String) (row : Option LockRow) : Locks :=
  { s with table := Function.update s.table jobName row }

/-- What an owner has been told about a job. -/
def setGranted (s : Locks) (jobName owner : String) (lockedUntil : Option ℤ) : Locks :=
  { s with
    granted := Function.update s.granted jobName
      (Function.update (s.granted jobName) owner lockedUntil) }

/-- `LockManager::try_acquire`. -/
def tryAcquire (s : Locks) (owner jobName : String) (ttlSeconds nowMs : ℤ) (delivery : Delivery) :
    Locks × Bool :=
  let acquired := lockAcquire s.now (owner ++ "_" ++ toString nowMs) ttlSeconds owner
    (s.table jobName)
  match delivery with
  | .failed => (s, false)
  | .unheard => (s.setRow jobName acquired.1, false)
  | .executed =>
      if acquired.2 then
        ((s.setRow jobName acquired.1).setGranted jobName owner
          (some (secondsFrom s.now ttlSeconds)), true)
      else (s, false)

/-- `LockManager::release`. -/
def release (s : Locks) (owner jobName : String) (delivery : Delivery) : Locks :=
  if delivery = .failed then s
  else (s.setRow jobName (lockRelease owner (s.table jobName))).setGranted jobName owner none

/-- `LockManager::extend`.  A lock that is granted is extended with the row. -/
def extend (s : Locks) (owner jobName : String) (additionalSeconds : ℤ) (delivery : Delivery) :
    Locks :=
  if delivery = .failed then s
  else
    let s' := s.setRow jobName (lockExtend s.now additionalSeconds owner (s.table jobName))
    if (s.table jobName).map LockRow.owner = some owner then
      s'.setGranted jobName owner
        ((s.granted jobName owner).map fun _ => secondsFrom s.now additionalSeconds)
    else s'

/-- The calls of the owners, their crashes, and the time that passes. -/
inductive Action
  | tryAcquire (owner jobName : String) (ttlSeconds nowMs : ℤ) (delivery : Delivery)
  | release (owner jobName : String) (delivery : Delivery)
  | extend (owner jobName : String) (additionalSeconds : ℤ) (delivery : Delivery)
  | crash (owner : String)
  | advance (micros : ℕ)

/-- An instance that has crashed does nothing more; its lock stays. -/
def step (s : Locks) : Action → Locks
  | .tryAcquire owner jobName ttlSeconds nowMs delivery =>
      if owner ∈ s.crashed then s else (s.tryAcquire owner jobName ttlSeconds nowMs delivery).1
  | .release owner jobName delivery =>
      if owner ∈ s.crashed then s else s.release owner jobName delivery
  | .extend owner jobName additionalSeconds delivery =>
      if owner ∈ s.crashed then s else s.extend owner jobName additionalSeconds delivery
  | .crash owner => { s with crashed := owner :: s.crashed }
  | .advance micros => { s with now := s.now + micros }

/-! ## A job's row is a lease -/

/-- A row is a lease of its job. -/
def lease (row : LockRow) : Lease String ℤ := ⟨row.owner, row.lockedUntil⟩

/-- What the locks are for one job. -/
def view (s : Locks) (jobName : String) : Leasing String ℤ :=
  ⟨s.now, (s.table jobName).map lease, s.granted jobName⟩

theorem view_setRow_self (s : Locks) (jobName : String) (row : Option LockRow) :
    (s.setRow jobName row).view jobName = (s.view jobName).setLease (row.map lease) := by
  simp [view, setRow, Leasing.setLease]

theorem view_setRow_of_ne (s : Locks) {jobName other : String} (hne : other ≠ jobName)
    (row : Option LockRow) : (s.setRow jobName row).view other = s.view other := by
  simp [view, setRow, hne]

theorem view_setGranted_self (s : Locks) (jobName owner : String) (lockedUntil : Option ℤ) :
    (s.setGranted jobName owner lockedUntil).view jobName =
      (s.view jobName).rely owner lockedUntil := by
  simp [view, setGranted, Leasing.rely]

theorem view_setGranted_of_ne (s : Locks) {jobName other : String} (hne : other ≠ jobName)
    (owner : String) (lockedUntil : Option ℤ) :
    (s.setGranted jobName owner lockedUntil).view other = s.view other := by
  simp [view, setGranted, hne]

/-! ### What the statements do to a row -/

theorem lockAcquire_cases (now : ℤ) (lockKey : String) (ttlSeconds : ℤ) (owner : String)
    (row : Option LockRow) :
    (∀ held ∈ row, held.lockedUntil < now) ∧ lockAcquire now lockKey ttlSeconds owner row =
        (some ⟨lockKey, now, secondsFrom now ttlSeconds, owner⟩, true) ∨
      lockAcquire now lockKey ttlSeconds owner row = (row, false) := by
  cases row with
  | none => exact Or.inl ⟨fun held hheld => (by cases hheld), rfl⟩
  | some held =>
      by_cases hexpired : held.lockedUntil < now
      · refine Or.inl ⟨fun other hother => ?_, if_pos hexpired⟩
        cases hother
        exact hexpired
      · exact Or.inr (if_neg hexpired)

/-- Only a row of the owner is released. -/
theorem lockRelease_of_ne {owner : String} {row : Option LockRow}
    (hne : row.map LockRow.owner ≠ some owner) : lockRelease owner row = row := by
  cases row with
  | none => rfl
  | some held =>
      have hne : held.owner ≠ owner := by simpa using hne
      simp [lockRelease, Option.filter, hne]

/-- Only a row of the owner is extended. -/
theorem lockExtend_of_ne {now additionalSeconds : ℤ} {owner : String} {row : Option LockRow}
    (hne : row.map LockRow.owner ≠ some owner) :
    lockExtend now additionalSeconds owner row = row := by
  cases row with
  | none => rfl
  | some held =>
      have hne : held.owner ≠ owner := by simpa using hne
      simp [lockExtend, hne]

/-! ### The functions of the lock manager are moves -/

section

variable (s : Locks) (owner : String) {jobName job : String} (delivery : Delivery)

theorem move_of_view_eq {s s' : Locks} (hsame : s'.view job = s.view job) :
    (s.view job).Move (s'.view job) := by
  rw [hsame]
  exact .idle

/-- A row that is written back leaves the view. -/
theorem view_setRow_table (jobName job : String) :
    (s.setRow jobName (s.table jobName)).view job = s.view job := by
  simp [setRow]

theorem view_tryAcquire_of_ne (hne : job ≠ jobName) (ttlSeconds nowMs : ℤ) :
    (s.tryAcquire owner jobName ttlSeconds nowMs delivery).1.view job = s.view job := by
  unfold tryAcquire
  cases delivery with
  | failed => rfl
  | unheard => exact view_setRow_of_ne s hne _
  | executed =>
      dsimp only
      split_ifs
      · rw [view_setGranted_of_ne _ hne, view_setRow_of_ne _ hne]
      · rfl

theorem view_release_of_ne (hne : job ≠ jobName) :
    (s.release owner jobName delivery).view job = s.view job := by
  unfold release
  split_ifs
  · rfl
  · rw [view_setGranted_of_ne _ hne, view_setRow_of_ne _ hne]

theorem view_extend_of_ne (hne : job ≠ jobName) (additionalSeconds : ℤ) :
    (s.extend owner jobName additionalSeconds delivery).view job = s.view job := by
  unfold extend
  split_ifs
  · rfl
  · rw [view_setGranted_of_ne _ hne, view_setRow_of_ne _ hne]
  · exact view_setRow_of_ne s hne _

theorem move_tryAcquire_self (ttlSeconds nowMs : ℤ) :
    (s.view job).Move ((s.tryAcquire owner job ttlSeconds nowMs delivery).1.view job) := by
  unfold tryAcquire
  rcases lockAcquire_cases s.now (owner ++ "_" ++ toString nowMs) ttlSeconds owner
    (s.table job) with ⟨hexpired, hacquired⟩ | hacquired
  · have hexpired : ∀ l ∈ (s.view job).lease, l.expiry < (s.view job).now := by
      rintro l hl
      obtain ⟨row, hrow, rfl⟩ := Option.map_eq_some_iff.mp hl
      exact hexpired row hrow
    rw [hacquired]
    cases delivery with
    | failed => exact .idle
    | unheard =>
        show (s.view job).Move ((s.setRow job (some _)).view job)
        rw [view_setRow_self]
        exact .unheard owner _ hexpired
    | executed =>
        show (s.view job).Move (((s.setRow job (some _)).setGranted job owner _).view job)
        rw [view_setGranted_self, view_setRow_self]
        exact .grant owner _ hexpired
  · rw [hacquired]
    cases delivery with
    | failed => exact .idle
    | unheard =>
        show (s.view job).Move ((s.setRow job (s.table job)).view job)
        rw [view_setRow_table]
        exact .idle
    | executed => exact .idle

theorem move_release_self : (s.view job).Move ((s.release owner job delivery).view job) := by
  unfold release
  split_ifs
  · exact .idle
  · rw [view_setGranted_self]
    by_cases howner : (s.table job).map LockRow.owner = some owner
    · obtain ⟨row, hrow, hrowOwner⟩ := Option.map_eq_some_iff.mp howner
      have hheld : (s.view job).lease = some ⟨owner, row.lockedUntil⟩ := by
        simp [view, lease, hrow, hrowOwner]
      have hnone : lockRelease owner (s.table job) = none := by
        simp [lockRelease, hrow, hrowOwner]
      rw [hnone, view_setRow_self]
      exact .release hheld
    · rw [lockRelease_of_ne howner, view_setRow_table]
      exact .forget owner

theorem move_extend_self (additionalSeconds : ℤ) :
    (s.view job).Move ((s.extend owner job additionalSeconds delivery).view job) := by
  unfold extend
  by_cases hfailed : delivery = .failed
  · rw [if_pos hfailed]
    exact .idle
  rw [if_neg hfailed]
  by_cases howner : (s.table job).map LockRow.owner = some owner
  · obtain ⟨row, hrow, hrowOwner⟩ := Option.map_eq_some_iff.mp howner
    have hheld : (s.view job).lease = some ⟨owner, row.lockedUntil⟩ := by
      simp [view, lease, hrow, hrowOwner]
    have hextended : (lockExtend s.now additionalSeconds owner (s.table job)).map lease =
        some ⟨owner, secondsFrom s.now additionalSeconds⟩ := by
      simp [lockExtend, lease, hrow, hrowOwner]
    rw [if_pos howner, view_setGranted_self, view_setRow_self, hextended]
    exact .renew _ hheld
  · rw [if_neg howner, lockExtend_of_ne howner, view_setRow_table]
    exact .idle

/-! For any job, they are moves of its lease. -/

theorem move_tryAcquire (jobName job : String) (ttlSeconds nowMs : ℤ) :
    (s.view job).Move ((s.tryAcquire owner jobName ttlSeconds nowMs delivery).1.view job) := by
  by_cases hjob : job = jobName
  · subst hjob
    exact move_tryAcquire_self s owner delivery ttlSeconds nowMs
  · exact move_of_view_eq (view_tryAcquire_of_ne s owner delivery hjob ttlSeconds nowMs)

theorem move_release (jobName job : String) :
    (s.view job).Move ((s.release owner jobName delivery).view job) := by
  by_cases hjob : job = jobName
  · subst hjob
    exact move_release_self s owner delivery
  · exact move_of_view_eq (view_release_of_ne s owner delivery hjob)

theorem move_extend (jobName job : String) (additionalSeconds : ℤ) :
    (s.view job).Move ((s.extend owner jobName additionalSeconds delivery).view job) := by
  by_cases hjob : job = jobName
  · subst hjob
    exact move_extend_self s owner delivery additionalSeconds
  · exact move_of_view_eq (view_extend_of_ne s owner delivery hjob additionalSeconds)

end

/-- A step of the locks is a move of the lease of every job. -/
theorem move_view (s : Locks) (action : Action) (job : String) :
    (s.view job).Move ((s.step action).view job) := by
  cases action with
  | tryAcquire owner jobName ttlSeconds nowMs delivery =>
      simp only [step]
      split_ifs
      · exact .idle
      · exact move_tryAcquire s owner delivery jobName job ttlSeconds nowMs
  | release owner jobName delivery =>
      simp only [step]
      split_ifs
      · exact .idle
      · exact move_release s owner delivery jobName job
  | extend owner jobName additionalSeconds delivery =>
      simp only [step]
      split_ifs
      · exact .idle
      · exact move_extend s owner delivery jobName job additionalSeconds
  | crash owner => exact .idle
  | advance micros => exact .advance (Int.le_add_of_nonneg_right (Int.natCast_nonneg micros))

/-! ### What the others have been granted -/

theorem granted_setGranted_self (s : Locks) (jobName owner : String) (lockedUntil : Option ℤ) :
    (s.setGranted jobName owner lockedUntil).granted jobName owner = lockedUntil := by
  simp [setGranted]

theorem granted_setGranted_of_ne (s : Locks) (jobName : String) {owner other : String}
    (hne : other ≠ owner) (lockedUntil : Option ℤ) (job : String) :
    (s.setGranted jobName owner lockedUntil).granted job other = s.granted job other := by
  by_cases hjob : job = jobName
  · subst hjob
    simp [setGranted, hne]
  · simp [setGranted, hjob]

section

variable (s : Locks) (owner jobName : String) (delivery : Delivery)

/-- An instance that acquires a lock leaves the clock, and what the others have been granted. -/
theorem tryAcquire_frame (ttlSeconds nowMs : ℤ) :
    (s.tryAcquire owner jobName ttlSeconds nowMs delivery).1.now = s.now ∧
      ∀ job, ∀ other ≠ owner,
        (s.tryAcquire owner jobName ttlSeconds nowMs delivery).1.granted job other =
          s.granted job other := by
  unfold tryAcquire
  cases delivery with
  | failed => exact ⟨rfl, fun _ _ _ => rfl⟩
  | unheard => exact ⟨rfl, fun _ _ _ => rfl⟩
  | executed =>
      dsimp only
      split_ifs
      · exact ⟨rfl, fun job _ hne => granted_setGranted_of_ne _ jobName hne _ job⟩
      · exact ⟨rfl, fun _ _ _ => rfl⟩

theorem release_frame : (s.release owner jobName delivery).now = s.now ∧
    ∀ job, ∀ other ≠ owner,
      (s.release owner jobName delivery).granted job other = s.granted job other := by
  unfold release
  split_ifs
  · exact ⟨rfl, fun _ _ _ => rfl⟩
  · exact ⟨rfl, fun job _ hne => granted_setGranted_of_ne _ jobName hne _ job⟩

/-- The lock that is acquired is granted. -/
theorem granted_of_tryAcquire {ttlSeconds nowMs : ℤ}
    (hacquired : (s.tryAcquire owner jobName ttlSeconds nowMs delivery).2 = true) :
    (s.tryAcquire owner jobName ttlSeconds nowMs delivery).1.granted jobName owner =
      some (secondsFrom s.now ttlSeconds) := by
  unfold tryAcquire at hacquired ⊢
  cases delivery with
  | failed => cases hacquired
  | unheard => cases hacquired
  | executed =>
      dsimp only at hacquired ⊢
      split_ifs at hacquired ⊢
      exact granted_setGranted_self _ jobName owner _

end

/-! ## Mutual exclusion -/

/-- What the instances rely on is in the table. -/
def Backed (s : Locks) : Prop := ∀ jobName, (s.view jobName).Backed

theorem backed_start (table : String → Option LockRow) (now : ℤ) : (start table now).Backed :=
  fun _ _ _ hgranted => by cases hgranted

theorem backed_run {s : Locks} (hbacked : s.Backed) (actions : List Action) :
    (run step s actions).Backed :=
  run_induction (fun s action hbacked jobName => (move_view s action jobName).backed
    (hbacked jobName)) hbacked actions

/-- For a job, at most one instance has a lock that it has not released, and that has not
expired. -/
def Exclusive (s : Locks) : Prop :=
  ∀ jobName first second e e', s.granted jobName first = some e → s.now ≤ e →
    s.granted jobName second = some e' → s.now ≤ e' → first = second

theorem Backed.exclusive {s : Locks} (hbacked : s.Backed) : s.Exclusive :=
  fun jobName _ _ _ _ hfirst hle hsecond hle' =>
    (hbacked jobName).exclusive hfirst hle hsecond hle'

/-! ## Locks that have been taken over -/

/-- The owner in the row of a job. -/
def owner? (s : Locks) (jobName : String) : Option String := (s.table jobName).map LockRow.owner

/-- The action is an attempt of the owner to acquire the lock, and the database grants it. -/
def Action.Acquires (owner jobName : String) (s : Locks) : Action → Prop
  | .tryAcquire owner' jobName' _ _ delivery => owner' = owner ∧ jobName' = jobName ∧
      delivery ≠ .failed ∧ ∀ held ∈ s.table jobName, held.lockedUntil < s.now
  | _ => False

/-- The action is a release or an extension of the lock by the owner. -/
def Action.Returns (owner jobName : String) : Action → Prop
  | .release owner' jobName' _ => owner' = owner ∧ jobName' = jobName
  | .extend owner' jobName' _ _ => owner' = owner ∧ jobName' = jobName
  | _ => False

/-- The lock of the owner has been taken over by another instance, and the owner has not been
granted it since, however often it has tried. -/
def TakenOver (s : Locks) (owner jobName : String) (actions : List Action) : Prop :=
  ∃ earlier takeOver later, actions = earlier ++ takeOver :: later ∧
    (run step s earlier).owner? jobName = some owner ∧
    (∃ taker ≠ owner, (run step s (earlier ++ [takeOver])).owner? jobName = some taker) ∧
    AllSteps step (fun s action => ¬ action.Acquires owner jobName s)
      (run step s (earlier ++ [takeOver])) later

/-- Who does not own the row does not change the table. -/
theorem table_of_returns {s : Locks} {owner jobName : String}
    (hne : s.owner? jobName ≠ some owner) {action : Action}
    (hreturns : action.Returns owner jobName) : (s.step action).table = s.table := by
  have hrow : s.setRow jobName (s.table jobName) = s := by simp [setRow]
  cases action with
  | release owner' jobName' delivery =>
      obtain ⟨rfl, rfl⟩ := hreturns
      simp only [step, release]
      split_ifs
      · rfl
      · rfl
      · rw [lockRelease_of_ne hne, hrow]
        rfl
  | extend owner' jobName' additionalSeconds delivery =>
      obtain ⟨rfl, rfl⟩ := hreturns
      simp only [step, extend, lockExtend_of_ne hne, hrow]
      split_ifs <;> rfl
  | _ => cases hreturns

theorem owner?_setRow (s : Locks) (jobName job : String) (row : Option LockRow) :
    (s.setRow jobName row).owner? job =
      if job = jobName then row.map LockRow.owner else s.owner? job := by
  unfold owner? setRow
  by_cases hjob : job = jobName
  · subst hjob
    simp
  · simp [hjob]

/-- An attempt to acquire the lock leaves the row, or is granted and puts the owner into it. -/
theorem owner?_tryAcquire (s : Locks) (owner jobName : String) (ttlSeconds nowMs : ℤ)
    (delivery : Delivery) (job : String) :
    (s.tryAcquire owner jobName ttlSeconds nowMs delivery).1.owner? job = s.owner? job ∨
      (job = jobName ∧ delivery ≠ .failed ∧ (∀ held ∈ s.table jobName, held.lockedUntil < s.now) ∧
        (s.tryAcquire owner jobName ttlSeconds nowMs delivery).1.owner? job = some owner) := by
  unfold tryAcquire
  have hset : ∀ row, row = s.table jobName ∨
      (∀ held ∈ s.table jobName, held.lockedUntil < s.now) ∧ row.map LockRow.owner = some owner →
      (s.setRow jobName row).owner? job = s.owner? job ∨
        (job = jobName ∧ (∀ held ∈ s.table jobName, held.lockedUntil < s.now) ∧
          (s.setRow jobName row).owner? job = some owner) := by
    intro row hrow
    rw [owner?_setRow]
    by_cases hjob : job = jobName
    · rw [if_pos hjob]
      rcases hrow with rfl | ⟨hfree, hrow⟩
      · exact Or.inl (by rw [hjob]; rfl)
      · exact Or.inr ⟨hjob, hfree, hrow⟩
    · exact Or.inl (if_neg hjob)
  have hrow : (lockAcquire s.now (owner ++ "_" ++ toString nowMs) ttlSeconds owner
      (s.table jobName)).1 = s.table jobName ∨
        (∀ held ∈ s.table jobName, held.lockedUntil < s.now) ∧
          (lockAcquire s.now (owner ++ "_" ++ toString nowMs) ttlSeconds owner
            (s.table jobName)).1.map LockRow.owner = some owner := by
    rcases lockAcquire_cases s.now (owner ++ "_" ++ toString nowMs) ttlSeconds owner
      (s.table jobName) with ⟨hfree, hacquired⟩ | hacquired
    · exact Or.inr ⟨hfree, by rw [hacquired]; rfl⟩
    · exact Or.inl (by rw [hacquired])
  cases delivery with
  | failed => exact Or.inl rfl
  | unheard => exact (hset _ hrow).imp_right fun ⟨hjob, hrest⟩ => ⟨hjob, by decide, hrest⟩
  | executed =>
      dsimp only
      split_ifs
      · exact (hset _ hrow).imp_right fun ⟨hjob, hrest⟩ => ⟨hjob, by decide, hrest⟩
      · exact Or.inl rfl

theorem owner?_release (s : Locks) (owner jobName : String) (delivery : Delivery) (job : String) :
    (s.release owner jobName delivery).owner? job = s.owner? job ∨
      (s.release owner jobName delivery).owner? job = none := by
  unfold release
  split_ifs
  · exact Or.inl rfl
  · show (s.setRow jobName (lockRelease owner (s.table jobName))).owner? job = _ ∨
      (s.setRow jobName (lockRelease owner (s.table jobName))).owner? job = none
    rw [owner?_setRow]
    by_cases hjob : job = jobName
    · subst hjob
      rw [if_pos rfl]
      by_cases howner : s.owner? job = some owner
      · obtain ⟨row, hrow, hrowOwner⟩ := Option.map_eq_some_iff.mp howner
        exact Or.inr (by simp [lockRelease, hrow, hrowOwner])
      · exact Or.inl (by rw [lockRelease_of_ne howner]; rfl)
    · exact Or.inl (if_neg hjob)

theorem owner?_extend (s : Locks) (owner jobName : String) (additionalSeconds : ℤ)
    (delivery : Delivery) (job : String) :
    (s.extend owner jobName additionalSeconds delivery).owner? job = s.owner? job := by
  have hkept : (lockExtend s.now additionalSeconds owner (s.table jobName)).map LockRow.owner =
      s.owner? jobName := by
    unfold lockExtend owner?
    cases s.table jobName with
    | none => rfl
    | some row => by_cases hrow : row.owner = owner <;> simp [hrow]
  have hset : (s.setRow jobName (lockExtend s.now additionalSeconds owner
      (s.table jobName))).owner? job = s.owner? job := by
    rw [owner?_setRow, hkept]
    split_ifs with hjob
    · rw [hjob]
    · rfl
  unfold extend
  split_ifs
  · rfl
  · exact hset
  · exact hset

/-- Nobody becomes the owner of a row but by being granted the lock. -/
theorem owner?_step_ne {s : Locks} {owner jobName : String}
    (hne : s.owner? jobName ≠ some owner) {action : Action}
    (hnot : ¬ action.Acquires owner jobName s) : (s.step action).owner? jobName ≠ some owner := by
  cases action with
  | tryAcquire owner' jobName' ttlSeconds nowMs delivery =>
      simp only [step]
      split_ifs
      · exact hne
      rcases owner?_tryAcquire s owner' jobName' ttlSeconds nowMs delivery jobName with
        hsame | ⟨hjob, hreached, hfree, howner⟩
      · rw [hsame]
        exact hne
      · rw [howner]
        subst hjob
        exact fun hsame => hnot ⟨Option.some.inj hsame, rfl, hreached, hfree⟩
  | release owner' jobName' delivery =>
      simp only [step]
      split_ifs
      · exact hne
      rcases owner?_release s owner' jobName' delivery jobName with hsame | hnone
      · rw [hsame]
        exact hne
      · rw [hnone]
        exact Option.some_ne_none owner |>.symm
  | extend owner' jobName' additionalSeconds delivery =>
      simp only [step]
      split_ifs
      · exact hne
      rw [owner?_extend]
      exact hne
  | crash owner' => exact hne
  | advance micros => exact hne

theorem TakenOver.owner?_ne {s : Locks} {owner jobName : String} {actions : List Action}
    (htaken : TakenOver s owner jobName actions) :
    (run step s actions).owner? jobName ≠ some owner := by
  obtain ⟨earlier, takeOver, later, rfl, -, ⟨taker, hne, htaker⟩, hlater⟩ := htaken
  have hstart : (run step s (earlier ++ [takeOver])).owner? jobName ≠ some owner := by
    rw [htaker]
    exact fun hsame => hne (Option.some.inj hsame)
  rw [List.append_cons, run_append]
  have hstep : ∀ (s : Locks) (action : Action), ¬ action.Acquires owner jobName s →
      s.owner? jobName ≠ some owner → (s.step action).owner? jobName ≠ some owner :=
    fun _ _ hnot hother => owner?_step_ne hother hnot
  exact AllSteps.run_induction hstep hstart hlater

/-! ## Main theorem -/

/-- **The lock window.**  In every run, at most one instance has a lock of a job that it has not
released and that has not expired; and an instance whose lock has been taken over changes no
row by a release or an extension. -/
theorem lockWindow_run (table : String → Option LockRow) (now : ℤ) (actions : List Action) :
    (run step (start table now) actions).Exclusive ∧
      ∀ owner jobName, TakenOver (start table now) owner jobName actions →
        ∀ action : Action, action.Returns owner jobName →
          ((run step (start table now) actions).step action).table =
            (run step (start table now) actions).table :=
  ⟨(backed_run (backed_start table now) actions).exclusive,
    fun _ _ htaken _ hreturns => table_of_returns htaken.owner?_ne hreturns⟩

/-! ### A lock is taken over -/

/-- The lock of `a` expires, and `b` acquires it. -/
def takeOver : List Action :=
  [.tryAcquire "a" "data_cleanup" 150 0 .executed, .advance 151000000,
    .tryAcquire "b" "data_cleanup" 150 151000 .executed]

theorem lockWindow_takeOver :
    (run step (start (fun _ => none) 0) (takeOver ++ [.release "a" "data_cleanup" .executed])).owner?
      "data_cleanup" = some "b" ∧
    ((run step (start (fun _ => none) 0) takeOver).step
        (.release "a" "data_cleanup" .executed)).table =
      (run step (start (fun _ => none) 0) takeOver).table := by
  have htaken : TakenOver (start (fun _ => none) 0) "a" "data_cleanup" takeOver :=
    ⟨takeOver.take 2, .tryAcquire "b" "data_cleanup" 150 151000 .executed, [], rfl, by decide,
      ⟨"b", by decide, by decide⟩, trivial⟩
  exact ⟨by decide, (lockWindow_run (fun _ => none) 0 takeOver).2 "a" "data_cleanup" htaken
    (.release "a" "data_cleanup" .executed) ⟨rfl, rfl⟩⟩

end Locks

end OroEdge.Scheduler
