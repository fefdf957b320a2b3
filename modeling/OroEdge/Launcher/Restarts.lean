import OroEdge.Launcher.Shutdown
import Mathlib.Data.List.Perm.Subperm

/-!
# Restarts

A node is started again when it has exited, after a backoff that is counted from its last start,
and at most `maxRestarts` times (`restarts_after`).  A node whose first start has failed, or
that has no restart left, is not started again (`leftAlone_after`).

The number of restarts of an entry is raised before the backoff starts and is never lowered, so
each start of a node has a number of its own (`Recorded.nodup_restarts`), and there are at most
`maxRestarts + 1` of them.  What is proved of two starts that follow on each other needs,
besides, what the main thread has already checked on its way to `Popen`: at each stage of a
start, the last start is old enough, or the deadline says how long is still to be waited
(`Due`).  That is the invariant of a run, `Budgeted`, and a step of the main thread either keeps
its promise or passes it on to its next stage.

A node that is left alone stays so because nobody is about to start it: `main` has passed it,
and the monitor looks at nodes only that have had a process and have restarts left
(`LeftAlone.go`).  A process of another node that exits, a signal and the clock do not matter.
-/

namespace OroEdge.Launcher

open OroEdge.Lib ProcessManager

/-- Two starts of a node have the backoff of the second between them. -/
def Spaced (first second : Launch) : Prop :=
  first.name = second.name →
    first.restarts < second.restarts ∧ first.time + backoff second.restarts ≤ second.time

/-- The next start of the node is a new restart. -/
def Fresh (s : ProcessManager) (name : String) : Prop :=
  ∀ launch ∈ s.launches, launch.name = name → launch.restarts < (s.info name).restarts

/-- What the main thread knows about the node that it starts. -/
def Due (s : ProcessManager) : Stage → Prop
  | .starting name _ => Fresh s name
  | .waiting name deadline _ =>
      Fresh s name ∧ deadline = (s.info name).lastStart + backoff (s.info name).restarts
  | .spawning name _ => Fresh s name ∧ ((s.info name).restarts = 0 ∨
      (s.info name).lastStart + backoff (s.info name).restarts ≤ s.now)
  | _ => True

/-- The entries of the nodes and what has been started. -/
structure Recorded (s : ProcessManager) : Prop where
  spaced : s.launches.Pairwise Spaced
  bounded : ∀ name, (s.info name).restarts ≤ maxRestarts
  counted : ∀ launch ∈ s.launches, launch.restarts ≤ (s.info launch.name).restarts ∧
    launch.time ≤ (s.info launch.name).lastStart
  known : ∀ launch ∈ s.launches, launch.name ∈ s.names
  past : ∀ launch ∈ s.launches, launch.time ≤ s.now

/-- The invariant of a run: what is recorded is right, and so is what the main thread is about to
do. -/
structure Budgeted (s : ProcessManager) : Prop extends Recorded s where
  due : Due s s.stage

section

variable {s : ProcessManager} {name : String} {caller : Caller}

/-- A change of the stage. -/
theorem Recorded.budgeted (hs : Recorded s) {stage : Stage} (hdue : Due s stage) :
    Budgeted { s with stage := stage } where
  spaced := hs.spaced
  bounded := hs.bounded
  counted := hs.counted
  known := hs.known
  past := hs.past
  due := by
    cases stage <;> exact hdue

/-- A node that has no entry has not been started. -/
theorem Recorded.fresh_of_new (hs : Recorded s) (hnew : name ∉ s.names) : Fresh s name := by
  rintro launch hlaunch rfl
  exact absurd (hs.known launch hlaunch) hnew

theorem Recorded.register (hs : Recorded s) (name : String) : Recorded (s.register name) := by
  unfold ProcessManager.register
  split
  · exact hs
  · rename_i hnew
    refine ⟨hs.spaced, fun other => ?_, fun launch hlaunch => ?_, fun launch hlaunch => ?_,
      hs.past⟩
    · by_cases hsame : other = name
      · subst hsame
        simp [setInfo]
      · simpa only [setInfo, Function.update_of_ne hsame] using hs.bounded other
    · have hne : launch.name ≠ name := fun hsame => hnew (hsame ▸ hs.known launch hlaunch)
      simpa only [setInfo, Function.update_of_ne hne] using hs.counted launch hlaunch
    · exact List.mem_append_left _ (hs.known launch hlaunch)

theorem Recorded.fresh_register (hs : Recorded s) (hfresh : Fresh s name) :
    Fresh (s.register name) name := by
  unfold ProcessManager.register
  split
  · exact hfresh
  · rename_i hnew
    intro launch hlaunch hname
    exact absurd (hname ▸ hs.known launch hlaunch) hnew

theorem Recorded.startProcess (hs : Recorded s) (hfresh : Fresh s name) :
    Budgeted (s.startProcess name caller) := by
  unfold ProcessManager.startProcess
  split
  · exact hs.budgeted trivial
  · have hregistered := hs.fresh_register hfresh
    dsimp only
    split
    · exact (hs.register name).budgeted ⟨hregistered, rfl⟩
    · rename_i hlate
      refine (hs.register name).budgeted ⟨hregistered, ?_⟩
      omega

/-- The start of a node, after the backoff of its restart. -/
theorem Recorded.spawn (hs : Recorded s) (hname : name ∈ s.names)
    (hdue : Due s (.spawning name caller)) (ok : Bool) : Budgeted (s.spawn name ok caller) := by
  unfold ProcessManager.spawn
  split
  · obtain ⟨hfresh, hbackoff⟩ := hdue
    refine ⟨⟨?_, fun other => ?_, fun launch hlaunch => ?_, fun launch hlaunch => ?_,
      fun launch hlaunch => ?_⟩, trivial⟩
    · refine List.pairwise_append.mpr ⟨hs.spaced, List.pairwise_singleton _ _, ?_⟩
      intro first hfirst second hsecond hsame
      rw [List.mem_singleton.mp hsecond] at hsame ⊢
      have hrestarts := hfresh first hfirst hsame
      have htime := (hs.counted first hfirst).2
      rw [hsame] at htime
      refine ⟨hrestarts, ?_⟩
      dsimp only
      rcases hbackoff with hzero | hbackoff
      · omega
      · exact (Nat.add_le_add_right htime _).trans hbackoff
    · by_cases hsame : other = name
      · subst hsame
        simpa only [setInfo, Function.update_self] using hs.bounded other
      · simpa only [setInfo, Function.update_of_ne hsame] using hs.bounded other
    · rcases List.mem_append.mp hlaunch with hold | hnew
      · have hcounted := hs.counted launch hold
        by_cases hsame : launch.name = name
        · simp only [setInfo, hsame, Function.update_self]
          rw [hsame] at hcounted
          exact ⟨hcounted.1, hs.past launch hold⟩
        · simpa only [setInfo, Function.update_of_ne hsame] using hcounted
      · rw [List.mem_singleton.mp hnew]
        simp [setInfo]
    · rcases List.mem_append.mp hlaunch with hold | hnew
      · exact hs.known launch hold
      · rw [List.mem_singleton.mp hnew]
        exact hname
    · rcases List.mem_append.mp hlaunch with hold | hnew
      · exact hs.past launch hold
      · rw [List.mem_singleton.mp hnew]
        exact le_refl s.now
  · exact hs.budgeted trivial

theorem Recorded.inspect (hs : Recorded s) (rest : List String) :
    Budgeted (s.inspect name rest) := by
  unfold ProcessManager.inspect
  split
  · rename_i hrestart
    refine ⟨⟨hs.spaced, fun other => ?_, fun launch hlaunch => ?_, hs.known, hs.past⟩, ?_⟩
    · by_cases hsame : other = name
      · subst hsame
        simpa only [setInfo, Function.update_self] using Nat.succ_le_of_lt hrestart.2.2
      · simpa only [setInfo, Function.update_of_ne hsame] using hs.bounded other
    · have hcounted := hs.counted launch hlaunch
      by_cases hsame : launch.name = name
      · simp only [setInfo, hsame, Function.update_self]
        rw [hsame] at hcounted
        exact ⟨hcounted.1.trans (Nat.le_succ _), hcounted.2⟩
      · simpa only [setInfo, Function.update_of_ne hsame] using hcounted
    · rintro launch hlaunch rfl
      simp only [setInfo, Function.update_self]
      exact Nat.lt_succ_of_le (hs.counted launch hlaunch).1
  · exact hs.budgeted trivial

/-! ## Runs -/

theorem Budgeted.go (hs : Budgeted s) (hsound : Sound s) (ok : Bool) : Budgeted (s.go ok) := by
  have hrecorded := hs.toRecorded
  have hdue := hs.due
  have hready := hsound.ready
  unfold ProcessManager.go
  cases hstage : s.stage with
  | looping caller =>
      rw [hstage] at hready
      cases caller with
      | main rest =>
          cases rest with
          | nil =>
              dsimp only
              split <;> exact hrecorded.budgeted trivial
          | cons name rest =>
              dsimp only
              split
              · have hnew : name ∉ s.names := hready.2 name List.mem_cons_self
                exact hrecorded.budgeted (hrecorded.fresh_of_new hnew)
              · exact hrecorded.budgeted trivial
      | monitor rest =>
          cases rest with
          | nil => exact hrecorded.budgeted trivial
          | cons name rest => exact hrecorded.inspect rest
  | starting name caller =>
      rw [hstage] at hdue
      exact hrecorded.startProcess hdue
  | waiting name deadline caller =>
      rw [hstage] at hdue
      dsimp only
      split
      · exact hrecorded.budgeted trivial
      · split
        · exact hs
        · rename_i hlate
          refine hrecorded.budgeted ⟨hdue.1, Or.inr ?_⟩
          rw [← hdue.2]
          exact Nat.le_of_not_lt hlate
  | spawning name caller =>
      rw [hstage] at hdue hready
      exact hrecorded.spawn hready.1 hdue ok
  | monitoring =>
      dsimp only
      split
      · exact ⟨⟨hs.spaced, hs.bounded, hs.counted, hs.known, hs.past⟩, trivial⟩
      · exact hrecorded.budgeted trivial
  | sleeping wake =>
      dsimp only
      split
      · exact hs
      · split
        · exact ⟨⟨hs.spaced, hs.bounded, hs.counted, hs.known, hs.past⟩, trivial⟩
        · exact hrecorded.budgeted trivial
  | terminating rest =>
      cases rest with
      | nil => exact hrecorded.budgeted trivial
      | cons name rest => exact ⟨⟨hs.spaced, hs.bounded, hs.counted, hs.known, hs.past⟩, trivial⟩
  | reaping rest =>
      cases rest with
      | nil => exact hrecorded.budgeted trivial
      | cons name rest =>
          dsimp only
          split
          · exact hrecorded.budgeted trivial
          · split
            all_goals exact ⟨⟨hs.spaced, hs.bounded, hs.counted, hs.known, hs.past⟩, trivial⟩
  | finished => exact hs

/-- Signals, exits and a later clock. -/
theorem Budgeted.of_clock (hs : Budgeted s) (down : Bool) (live : List ℕ) (nanos : ℕ) :
    Budgeted { s with shuttingDown := down, live := live, now := s.now + nanos } where
  spaced := hs.spaced
  bounded := hs.bounded
  counted := hs.counted
  known := hs.known
  past launch hlaunch := (hs.past launch hlaunch).trans (Nat.le_add_right _ _)
  due := by
    have hdue := hs.due
    dsimp only
    generalize s.stage = stage at hdue ⊢
    cases stage with
    | spawning name caller =>
        exact ⟨hdue.1, hdue.2.imp_right fun hlate => hlate.trans (Nat.le_add_right _ _)⟩
    | _ => exact hdue

theorem Budgeted.step (hs : Budgeted s) (hsound : Sound s) (action : Action) :
    Budgeted (step s action) := by
  cases action with
  | go ok => exact hs.go hsound ok
  | signal => exact hs.of_clock true s.live 0
  | exit pid => exact hs.of_clock s.shuttingDown _ 0
  | advance nanos => exact hs.of_clock s.shuttingDown s.live nanos

end

theorem budgeted_start (now : ℕ) : Budgeted (start now) where
  spaced := List.Pairwise.nil
  bounded _ := Nat.zero_le _
  counted := List.forall_mem_nil _
  known := List.forall_mem_nil _
  past := List.forall_mem_nil _
  due := trivial

theorem budgeted_after (now : ℕ) (actions : List Action) : Budgeted (after now actions) :=
  (@run_induction _ _ step (fun s => Sound s ∧ Budgeted s)
    (fun _ action hs => ⟨hs.1.step action, hs.2.step hs.1 action⟩) _
    ⟨sound_start now, budgeted_start now⟩ actions).2

/-! ## The number of restarts -/

/-- The starts of the node. -/
def launchesOf (s : ProcessManager) (name : String) : List Launch :=
  s.launches.filter (·.name = name)

/-- The restarts of a node are numbered upwards. -/
theorem Recorded.nodup_restarts {s : ProcessManager} (hs : Recorded s) (name : String) :
    ((launchesOf s name).map Launch.restarts).Nodup := by
  rw [List.Nodup, List.pairwise_map, launchesOf]
  refine (hs.spaced.filter _).imp_of_mem ?_
  intro first second hfirst hsecond hspaced hsame
  have hname (launch : Launch) (hlaunch : launch ∈ s.launches.filter (·.name = name)) :
      launch.name = name := of_decide_eq_true (List.mem_filter.mp hlaunch).2
  have hlt := (hspaced ((hname first hfirst).trans (hname second hsecond).symm)).1
  exact absurd hsame hlt.ne

/-- **The restarts of every node are counted and apart**: at most twenty after the first start,
each at least its backoff after the start before, in every run. -/
theorem restarts_after (now : ℕ) (actions : List Action) :
    (after now actions).launches.Pairwise Spaced ∧
      ∀ name, (launchesOf (after now actions) name).length ≤ maxRestarts + 1 := by
  have hs := (budgeted_after now actions).toRecorded
  refine ⟨hs.spaced, fun name => ?_⟩
  have hsubset : (launchesOf (after now actions) name).map Launch.restarts ⊆
      List.range (maxRestarts + 1) := by
    intro restarts hrestarts
    obtain ⟨launch, hlaunch, rfl⟩ := List.mem_map.mp hrestarts
    have hcounted := (hs.counted launch (List.mem_filter.mp hlaunch).1).1
    exact List.mem_range.mpr (Nat.lt_succ_of_le (hcounted.trans (hs.bounded launch.name)))
  have hlength := (List.subperm_of_subset (hs.nodup_restarts name) hsubset).length_le
  rwa [List.length_map, List.length_range] at hlength

/-! ## Nodes that are left alone -/

/-- The main thread is about to start the node. -/
def About (name : String) : Stage → Prop
  | .starting other _ | .waiting other _ _ | .spawning other _ => other = name
  | _ => False

/-- The node has an entry, it is not about to be started, and it has no process or no restart
left. -/
structure LeftAlone (s : ProcessManager) (name : String) : Prop where
  known : name ∈ s.names
  notAbout : ¬About name s.stage
  spent : (s.info name).process = none ∨ maxRestarts ≤ (s.info name).restarts

section

variable {s t : ProcessManager} {name : String}

/-- The node and its starts stay as they are. -/
theorem LeftAlone.keep (hs : LeftAlone s name) (hknown : name ∈ t.names)
    (hinfo : t.info name = s.info name) (hnot : ¬About name t.stage)
    (hlaunches : launchesOf t name = launchesOf s name) :
    LeftAlone t name ∧ launchesOf t name = launchesOf s name :=
  ⟨⟨hknown, hnot, hinfo ▸ hs.spent⟩, hlaunches⟩

theorem LeftAlone.not_exited (hs : LeftAlone s name)
    (hless : (s.info name).restarts < maxRestarts) : s.exited name = false := by
  rcases hs.spent with hnone | hmost
  · rw [exited, hnone, Option.any_none]
  · exact absurd hless (Nat.not_lt.mpr hmost)

theorem LeftAlone.go (hs : LeftAlone s name) (hsound : Sound s) (ok : Bool) :
    LeftAlone (s.go ok) name ∧ launchesOf (s.go ok) name = launchesOf s name := by
  have hready := hsound.ready
  have hnot := hs.notAbout
  unfold ProcessManager.go
  cases hstage : s.stage with
  | looping caller =>
      rw [hstage] at hready
      cases caller with
      | main rest =>
          cases rest with
          | nil =>
              refine hs.keep hs.known rfl ?_ rfl
              dsimp only
              split <;> exact not_false
          | cons other rest =>
              refine hs.keep hs.known rfl ?_ rfl
              dsimp only
              split
              · rintro rfl
                exact hready.2 other List.mem_cons_self hs.known
              · exact not_false
      | monitor rest =>
          cases rest with
          | nil => exact hs.keep hs.known rfl not_false rfl
          | cons other rest =>
              dsimp only [inspect]
              split
              · rename_i hrestart
                have hne : other ≠ name := by
                  rintro rfl
                  have hexited := hs.not_exited hrestart.2.2
                  rw [hrestart.1] at hexited
                  cases hexited
                refine hs.keep hs.known ?_ hne rfl
                simp only [setInfo, Function.update_of_ne hne.symm]
              · exact hs.keep hs.known rfl not_false rfl
  | starting other caller =>
      rw [hstage] at hnot
      have hne : name ≠ other := fun hsame => hnot hsame.symm
      dsimp only [startProcess, ProcessManager.register]
      split
      · exact hs.keep hs.known rfl not_false rfl
      · split
        · split <;> exact hs.keep hs.known rfl hnot rfl
        · split
          all_goals
            refine hs.keep (List.mem_append_left _ hs.known) ?_ hnot rfl
            simp only [setInfo, Function.update_of_ne hne]
  | waiting other deadline caller =>
      rw [hstage] at hnot
      dsimp only
      split
      · exact hs.keep hs.known rfl not_false rfl
      · split
        · exact ⟨hs, rfl⟩
        · exact hs.keep hs.known rfl hnot rfl
  | spawning other caller =>
      rw [hstage] at hnot
      have hne : other ≠ name := hnot
      dsimp only [ProcessManager.spawn]
      split
      · refine hs.keep hs.known ?_ not_false ?_
        · simp only [setInfo, Function.update_of_ne hne.symm]
        · simp [launchesOf, hne]
      · exact hs.keep hs.known rfl not_false rfl
  | monitoring =>
      dsimp only
      split <;> exact hs.keep hs.known rfl not_false rfl
  | sleeping wake =>
      dsimp only
      split
      · exact ⟨hs, rfl⟩
      · split <;> exact hs.keep hs.known rfl not_false rfl
  | terminating rest => cases rest <;> exact hs.keep hs.known rfl not_false rfl
  | reaping rest =>
      cases rest with
      | nil => exact hs.keep hs.known rfl not_false rfl
      | cons other rest =>
          dsimp only
          split
          · exact hs.keep hs.known rfl not_false rfl
          · split <;> exact hs.keep hs.known rfl not_false rfl
  | finished => exact ⟨hs, rfl⟩

theorem LeftAlone.step (hs : LeftAlone s name) (hsound : Sound s) (action : Action) :
    LeftAlone (step s action) name ∧ launchesOf (step s action) name = launchesOf s name := by
  cases action with
  | go ok => exact hs.go hsound ok
  | signal => exact hs.keep hs.known rfl hs.notAbout rfl
  | exit pid => exact hs.keep hs.known rfl hs.notAbout rfl
  | advance nanos => exact hs.keep hs.known rfl hs.notAbout rfl

end

/-- **A node whose first start has failed, or whose restarts are used up, is not started again**,
whatever happens afterwards. -/
theorem leftAlone_after (now : ℕ) (before later : List Action) (name : String)
    (halone : LeftAlone (after now before) name) :
    launchesOf (after now (before ++ later)) name = launchesOf (after now before) name := by
  have hrun := @run_induction _ _ step
    (fun s => Sound s ∧ LeftAlone s name ∧ launchesOf s name = launchesOf (after now before) name)
    (fun _ action hs => ⟨hs.1.step action, (hs.2.1.step hs.1 action).1,
      (hs.2.1.step hs.1 action).2.trans hs.2.2⟩) _
    ⟨sound_after now before, halone, rfl⟩ later
  rw [after_append]
  exact hrun.2.2

/-- The other nodes are started, the first of them exits, and the monitor goes round until it has
restarted it. -/
def roundOfMonitor : List Action :=
  List.replicate 10 (.go true) ++ [.exit 0, .go true, .advance (2 * secondNanos)] ++
    List.replicate 5 (.go true)

/-- The first `Popen` of the first node fails, and the monitor passes it by while it restarts the
second one. -/
theorem leftAlone_after_failure :
    (launchesOf (after 0 ([.go true, .go true, .go false] ++ roundOfMonitor)) "command_executor" =
        launchesOf (after 0 [.go true, .go true, .go false]) "command_executor") ∧
      (launchesOf (after 0 ([.go true, .go true, .go false] ++ roundOfMonitor))
        "dog_wellbeing_node").length = 2 :=
  ⟨leftAlone_after 0 [.go true, .go true, .go false] roundOfMonitor "command_executor"
    ⟨by decide, not_false, Or.inl (by decide)⟩, by decide⟩

end OroEdge.Launcher
