import OroEdge.Launcher.ProcessManager
import Mathlib.Data.List.Nodup
import Mathlib.Data.List.Range

/-!
# Shutting down

The manager forgets a process when it replaces the entry of its node.  So every process that
runs has to be the current one of a node (`Tracked`): then no node runs twice
(`runsOnce_after`), and `terminate_all`, which goes through the nodes, reaches every process
that was started.

A signal stops the manager from starting more processes, apart from one whose `Popen` it is
already about to call, and leads to `terminate_all` (`stopped_after`).

The invariant says what the main thread relies on where it stands (`Ready`).  About to start a
node, it relies on its process not running, and the loops on the names that are still to come
being new ones, for `main`, or known ones, for the monitor.  In `terminate_all` it relies on all
processes of the nodes it has passed being terminated, and later on their having exited or been
killed.  Each move of the main thread is one lemma; signals and the clock change nothing of
this, and an exit only makes processes fewer.

That the manager comes to its end is a matter of counting: `movesLeft` bounds the moves from
each stage on once the flag is set, every move lowers it, and only the sleep of the monitor
takes time (`SleepsBriefly`).
-/

namespace OroEdge.Launcher

open OroEdge.Lib ProcessManager

/-! ## Processes and nodes -/

/-- The process of the node, if it has one, does not run. -/
def Down (s : ProcessManager) (name : String) : Prop :=
  ∀ pid, (s.info name).process = some pid → pid ∉ s.live

/-- The names that a loop has still to reach: for `main` new ones, for `monitor` known ones. -/
def Pending (s : ProcessManager) : Caller → Prop
  | .main rest => rest.Nodup ∧ ∀ name ∈ rest, name ∉ s.names
  | .monitor rest => ∀ name ∈ rest, name ∈ s.names

/-- The loop of the caller has a name more to go. -/
def Caller.push (name : String) : Caller → Caller
  | .main rest => .main (name :: rest)
  | .monitor rest => .monitor (name :: rest)

/-- The call is one of `main`. -/
def Caller.isMain : Caller → Bool
  | .main _ => true
  | .monitor _ => false

/-- What the main thread relies on at a stage. -/
def Ready (s : ProcessManager) : Stage → Prop
  | .looping caller => Pending s caller
  | .starting name caller =>
      Pending s (caller.push name) ∧ (caller.isMain = false → Down s name)
  | .waiting name _ caller | .spawning name caller =>
      name ∈ s.names ∧ Down s name ∧ Pending s caller
  | .monitoring | .sleeping _ => True
  | .terminating rest =>
      ∀ name ∈ s.names, name ∉ rest → ∀ pid ∈ s.running name, pid ∈ s.terminated
  | .reaping rest => (∀ pid ∈ s.live, pid ∈ s.terminated) ∧
      ∀ name ∈ s.names, name ∉ rest → ∀ pid ∈ s.running name, pid ∈ s.killed
  | .finished => ∀ pid ∈ s.live, pid ∈ s.terminated ∧ pid ∈ s.killed

/-- Every process that runs is the current one of a node, and was started for it. -/
structure Tracked (s : ProcessManager) : Prop where
  current : ∀ pid ∈ s.live, ∃ name ∈ s.names, (s.info name).process = some pid
  launched : ∀ name pid, (s.info name).process = some pid →
    ∃ launch ∈ s.launches, launch.name = name ∧ launch.pid = pid
  pids : s.launches.map Launch.pid = List.range s.launches.length

/-- The invariant of a run: every process is known, and the main thread is where it may be. -/
structure Sound (s : ProcessManager) : Prop extends Tracked s where
  ready : Ready s s.stage

section

variable {s : ProcessManager} {name : String} {pid : ℕ}

theorem mem_running_iff :
    pid ∈ s.running name ↔ (s.info name).process = some pid ∧ pid ∈ s.live := by
  rw [running, Option.mem_def, Option.filter_eq_some_iff, decide_eq_true_eq]

theorem down_of_exited (hexited : s.exited name = true) : Down s name := by
  intro pid hpid
  rw [exited, hpid] at hexited
  simpa using hexited

theorem Tracked.exists_running (hs : Tracked s) (hlive : pid ∈ s.live) :
    ∃ name ∈ s.names, pid ∈ s.running name := by
  obtain ⟨name, hname, hprocess⟩ := hs.current pid hlive
  exact ⟨name, hname, mem_running_iff.mpr ⟨hprocess, hlive⟩⟩

/-- A number is given to one process only. -/
theorem Tracked.launch_inj (hs : Tracked s) {first second : Launch} (hfirst : first ∈ s.launches)
    (hsecond : second ∈ s.launches) (hpid : first.pid = second.pid) : first = second := by
  have hnodup : (s.launches.map Launch.pid).Nodup := by
    rw [hs.pids]
    exact List.nodup_range
  exact List.inj_on_of_nodup_map hnodup hfirst hsecond hpid

/-! ## The main thread -/

/-- A change of the stage. -/
theorem Tracked.sound (hs : Tracked s) {stage : Stage} (hready : Ready s stage) :
    Sound { s with stage := stage } where
  current := hs.current
  launched := hs.launched
  pids := hs.pids
  ready := by
    cases stage <;> exact hready

/-- A new name has no process. -/
theorem Tracked.register (hs : Tracked s) (name : String) : Tracked (s.register name) := by
  unfold ProcessManager.register
  split
  · exact hs
  · rename_i hnew
    refine ⟨?_, ?_, hs.pids⟩
    · intro pid hlive
      obtain ⟨other, hother, hprocess⟩ := hs.current pid hlive
      have hne : other ≠ name := by
        rintro rfl
        exact hnew hother
      refine ⟨other, List.mem_append_left _ hother, ?_⟩
      simpa only [setInfo, Function.update_of_ne hne] using hprocess
    · intro other pid hprocess
      by_cases hsame : other = name
      · subst hsame
        simp [setInfo] at hprocess
      · simp only [setInfo, Function.update_of_ne hsame] at hprocess
        exact hs.launched other pid hprocess

/-- A registered name whose process does not run. -/
theorem ready_register {caller : Caller} (hpending : Pending s (caller.push name))
    (hdown : caller.isMain = false → Down s name) :
    name ∈ (s.register name).names ∧ Down (s.register name) name ∧
      Pending (s.register name) caller := by
  cases caller with
  | main rest =>
      obtain ⟨hnodup, hnew⟩ := hpending
      obtain ⟨hname, hrest⟩ := List.nodup_cons.mp hnodup
      rw [ProcessManager.register, if_neg (hnew name List.mem_cons_self)]
      refine ⟨List.mem_append_right _ List.mem_cons_self, ?_, hrest, ?_⟩
      · intro pid hprocess
        simp [setInfo] at hprocess
      · intro other hother hmem
        rcases List.mem_append.mp hmem with hknown | hsame
        · exact hnew other (List.mem_cons_of_mem _ hother) hknown
        · rw [List.mem_singleton.mp hsame] at hother
          exact hname hother
  | monitor rest =>
      have hknown : name ∈ s.names := hpending name List.mem_cons_self
      rw [ProcessManager.register, if_pos hknown]
      exact ⟨hknown, hdown rfl, fun other hother => hpending other (List.mem_cons_of_mem _ hother)⟩

/-- Past a name, or back from its start. -/
theorem Pending.of_push {caller : Caller} (hpending : Pending s (caller.push name)) :
    Pending s caller := by
  cases caller with
  | main rest =>
      exact ⟨(List.nodup_cons.mp hpending.1).2,
        fun other hother => hpending.2 other (List.mem_cons_of_mem _ hother)⟩
  | monitor rest => exact fun other hother => hpending other (List.mem_cons_of_mem _ hother)

theorem Tracked.startProcess (hs : Tracked s) {caller : Caller}
    (hready : Ready s (.starting name caller)) : Sound (s.startProcess name caller) := by
  obtain ⟨hpending, hdown⟩ := hready
  have hregistered := ready_register hpending hdown
  unfold ProcessManager.startProcess
  split
  · exact hs.sound (Pending.of_push hpending)
  · dsimp only
    split
    · exact (hs.register name).sound hregistered
    · exact (hs.register name).sound hregistered

/-- `Popen` for a node whose process does not run. -/
theorem Tracked.spawn (hs : Tracked s) {caller : Caller} (hname : name ∈ s.names)
    (hdown : Down s name) (hpending : Pending s caller) (ok : Bool) :
    Sound (s.spawn name ok caller) := by
  unfold ProcessManager.spawn
  split
  · refine ⟨⟨?_, ?_, ?_⟩, ?_⟩
    · intro pid hlive
      rcases List.mem_append.mp hlive with hold | hnew
      · obtain ⟨other, hother, hprocess⟩ := hs.current pid hold
        have hne : other ≠ name := by
          rintro rfl
          exact hdown pid hprocess hold
        exact ⟨other, hother, by simpa only [setInfo, Function.update_of_ne hne] using hprocess⟩
      · rw [List.mem_singleton.mp hnew]
        exact ⟨name, hname, by simp [setInfo]⟩
    · intro other pid hprocess
      by_cases hsame : other = name
      · subst hsame
        simp only [setInfo, Function.update_self, Option.some.injEq] at hprocess
        exact ⟨_, List.mem_append_right _ List.mem_cons_self, rfl, hprocess⟩
      · simp only [setInfo, Function.update_of_ne hsame] at hprocess
        obtain ⟨launch, hlaunch, hfor⟩ := hs.launched other pid hprocess
        exact ⟨launch, List.mem_append_left _ hlaunch, hfor⟩
    · rw [List.map_append, hs.pids, List.length_append, List.length_singleton, List.range_succ]
      rfl
    · cases caller <;> exact hpending
  · exact hs.sound hpending

theorem Tracked.inspect (hs : Tracked s) {rest : List String}
    (hpending : Pending s (.monitor (name :: rest))) : Sound (s.inspect name rest) := by
  unfold ProcessManager.inspect
  split
  · rename_i hrestart
    have hprocess (other : String) : (Function.update s.info name { s.info name with
        restarts := (s.info name).restarts + 1 } other).process = (s.info other).process := by
      by_cases hsame : other = name
      · rw [hsame, Function.update_self]
      · rw [Function.update_of_ne hsame]
    refine ⟨⟨?_, ?_, hs.pids⟩, hpending, ?_⟩
    · intro pid hlive
      obtain ⟨other, hother, hcurrent⟩ := hs.current pid hlive
      exact ⟨other, hother, (hprocess other).trans hcurrent⟩
    · intro other pid hcurrent
      exact hs.launched other pid ((hprocess other).symm.trans hcurrent)
    · intro _ pid hcurrent
      exact down_of_exited hrestart.1 pid ((hprocess name).symm.trans hcurrent)
  · exact hs.sound fun other hother => hpending other (List.mem_cons_of_mem _ hother)

/-- With fewer processes. -/
theorem Ready.of_exit {stage : Stage} (hready : Ready s stage) (pid : ℕ) :
    Ready { s with live := s.live.filter (· ≠ pid) } stage := by
  have hlive {other : ℕ} (hother : other ∈ s.live.filter (· ≠ pid)) : other ∈ s.live :=
    (List.mem_filter.mp hother).1
  have hdown {name : String} (hdown : Down s name) :
      Down { s with live := s.live.filter (· ≠ pid) } name :=
    fun other hprocess hmem => hdown other hprocess (hlive hmem)
  have hrunning {name : String} {other : ℕ}
      (hother : other ∈ ({ s with live := s.live.filter (· ≠ pid) } : ProcessManager).running
        name) : other ∈ s.running name := by
    obtain ⟨hprocess, hmem⟩ := mem_running_iff.mp hother
    exact mem_running_iff.mpr ⟨hprocess, hlive hmem⟩
  cases stage with
  | looping caller => cases caller <;> exact hready
  | starting name caller =>
      refine ⟨?_, fun hmain => hdown (hready.2 hmain)⟩
      cases caller <;> exact hready.1
  | waiting name deadline caller =>
      refine ⟨hready.1, hdown hready.2.1, ?_⟩
      cases caller <;> exact hready.2.2
  | spawning name caller =>
      refine ⟨hready.1, hdown hready.2.1, ?_⟩
      cases caller <;> exact hready.2.2
  | monitoring => trivial
  | sleeping wake => trivial
  | terminating rest =>
      exact fun name hname hrest other hother => hready name hname hrest other (hrunning hother)
  | reaping rest =>
      refine ⟨fun other hother => hready.1 other (hlive hother), ?_⟩
      exact fun name hname hrest other hother => hready.2 name hname hrest other (hrunning hother)
  | finished => exact fun other hother => hready other (hlive hother)

theorem Tracked.of_exit (hs : Tracked s) (pid : ℕ) :
    Tracked { s with live := s.live.filter (· ≠ pid) } where
  current other hother := hs.current other (List.mem_filter.mp hother).1
  launched := hs.launched
  pids := hs.pids

theorem Sound.of_exit (hs : Sound s) (pid : ℕ) :
    Sound { s with live := s.live.filter (· ≠ pid) } :=
  ⟨hs.toTracked.of_exit pid, hs.ready.of_exit pid⟩

/-! ### `terminate_all` -/

theorem Tracked.terminateAll (hs : Tracked s) : Sound s.terminateAll where
  current := hs.current
  launched := hs.launched
  pids := hs.pids
  ready := fun _ hname hrest => absurd hname hrest

/-- The loop that terminates. -/
theorem Tracked.terminate (hs : Tracked s) {rest : List String}
    (hready : Ready s (.terminating (name :: rest))) :
    Sound { s with
      terminated := s.terminated ++ (s.running name).toList, stage := .terminating rest } where
  current := hs.current
  launched := hs.launched
  pids := hs.pids
  ready := by
    intro other hother hrest pid hpid
    by_cases hsame : other = name
    · subst hsame
      exact List.mem_append_right _ (Option.mem_toList.mpr hpid)
    · refine List.mem_append_left _ (hready other hother ?_ pid hpid)
      exact fun hmem => (List.mem_cons.mp hmem).elim hsame hrest

/-- All processes have been terminated. -/
theorem Tracked.ready_reaping (hs : Tracked s) (hready : Ready s (.terminating [])) :
    Ready s (.reaping s.names) := by
  refine ⟨fun pid hlive => ?_, fun _ hname hrest => absurd hname hrest⟩
  obtain ⟨name, hname, hpid⟩ := hs.exists_running hlive
  exact hready name hname List.not_mem_nil pid hpid

theorem Tracked.ready_finished (hs : Tracked s) (hready : Ready s (.reaping [])) :
    Ready s .finished := by
  intro pid hlive
  obtain ⟨name, hname, hpid⟩ := hs.exists_running hlive
  exact ⟨hready.1 pid hlive, hready.2 name hname List.not_mem_nil pid hpid⟩

/-- Past a name whose process does not run. -/
theorem Ready.reap_none {rest : List String} (hready : Ready s (.reaping (name :: rest)))
    (hnone : s.running name = none) : Ready s (.reaping rest) := by
  refine ⟨hready.1, fun other hother hrest pid hpid => ?_⟩
  refine hready.2 other hother (fun hmem => ?_) pid hpid
  rcases List.mem_cons.mp hmem with rfl | hmem
  · rw [hnone] at hpid
    cases hpid
  · exact hrest hmem

/-- The process is killed. -/
theorem Tracked.kill (hs : Tracked s) {rest : List String}
    (hready : Ready s (.reaping (name :: rest))) (hpid : s.running name = some pid) :
    Sound { s with killed := s.killed ++ [pid], stage := .reaping rest } where
  current := hs.current
  launched := hs.launched
  pids := hs.pids
  ready := by
    refine ⟨hready.1, fun other hother hrest pid' hpid' => ?_⟩
    by_cases hsame : other = name
    · subst hsame
      have hpid'' : s.running other = some pid' := hpid'
      rw [hpid] at hpid''
      rw [Option.some.inj hpid'']
      exact List.mem_append_right _ List.mem_cons_self
    · refine List.mem_append_left _ (hready.2 other hother ?_ pid' hpid')
      exact fun hmem => (List.mem_cons.mp hmem).elim hsame hrest

/-- The process exits within the three seconds. -/
theorem Sound.wait (hs : Tracked s) {rest : List String}
    (hready : Ready s (.reaping (name :: rest))) (hpid : s.running name = some pid) :
    Sound { s with live := s.live.filter (· ≠ pid), stage := .reaping rest } := by
  have hnone : ({ s with live := s.live.filter (· ≠ pid) } : ProcessManager).running name =
      none := by
    rw [Option.eq_none_iff_forall_not_mem]
    intro pid' hpid'
    obtain ⟨hprocess', hlive'⟩ := mem_running_iff.mp hpid'
    obtain ⟨hprocess, -⟩ := mem_running_iff.mp (Option.mem_def.mpr hpid)
    have hsame : pid' = pid := Option.some.inj (hprocess'.symm.trans hprocess)
    simp [hsame] at hlive'
  exact (hs.of_exit pid).sound ((hready.of_exit pid).reap_none hnone)

/-! ## Runs -/

theorem Sound.go (hs : Sound s) (ok : Bool) : Sound (s.go ok) := by
  have htracked := hs.toTracked
  have hready := hs.ready
  unfold ProcessManager.go
  cases hstage : s.stage with
  | looping caller =>
      rw [hstage] at hready
      cases caller with
      | main rest =>
          cases rest with
          | nil =>
              dsimp only
              by_cases hnames : s.names = []
              · rw [if_pos hnames]
                refine htracked.sound fun pid hlive => ?_
                obtain ⟨name, hname, -⟩ := hs.current pid hlive
                rw [hnames] at hname
                cases hname
              · rw [if_neg hnames]
                exact htracked.sound trivial
          | cons name rest =>
              cases ok with
              | true => exact htracked.sound ⟨hready, fun hmain => by cases hmain⟩
              | false =>
                  have hpending : Pending s (Caller.push name (.main rest)) := hready
                  exact htracked.sound (Pending.of_push hpending)
      | monitor rest =>
          cases rest with
          | nil => exact htracked.sound trivial
          | cons name rest => exact htracked.inspect hready
  | starting name caller =>
      rw [hstage] at hready
      exact htracked.startProcess hready
  | waiting name deadline caller =>
      rw [hstage] at hready
      dsimp only
      split
      · exact htracked.sound hready.2.2
      · split
        · exact hs
        · exact htracked.sound hready
  | spawning name caller =>
      rw [hstage] at hready
      exact htracked.spawn hready.1 hready.2.1 hready.2.2 ok
  | monitoring =>
      dsimp only
      split
      · exact htracked.terminateAll
      · exact htracked.sound trivial
  | sleeping wake =>
      dsimp only
      split
      · exact hs
      · split
        · exact htracked.terminateAll
        · exact htracked.sound fun _ hname => hname
  | terminating rest =>
      rw [hstage] at hready
      cases rest with
      | nil => exact htracked.sound (htracked.ready_reaping hready)
      | cons name rest => exact htracked.terminate hready
  | reaping rest =>
      rw [hstage] at hready
      cases rest with
      | nil => exact htracked.sound (htracked.ready_finished hready)
      | cons name rest =>
          dsimp only
          cases hrunning : s.running name with
          | none => exact htracked.sound (hready.reap_none hrunning)
          | some pid =>
              cases ok with
              | true => exact Sound.wait htracked hready hrunning
              | false => exact htracked.kill hready hrunning
  | finished => exact hs

/-- Signals and the clock do not matter. -/
theorem Sound.of_clock (hs : Sound s) (down : Bool) (now : ℕ) :
    Sound { s with shuttingDown := down, now := now } where
  current := hs.current
  launched := hs.launched
  pids := hs.pids
  ready := by
    have hready := hs.ready
    dsimp only
    generalize s.stage = stage at hready ⊢
    cases stage with
    | looping caller => cases caller <;> exact hready
    | starting name caller => cases caller <;> exact hready
    | waiting name deadline caller => cases caller <;> exact hready
    | spawning name caller => cases caller <;> exact hready
    | _ => exact hready

theorem Sound.step (hs : Sound s) (action : Action) : Sound (step s action) := by
  cases action with
  | go ok => exact hs.go ok
  | signal => exact hs.of_clock true s.now
  | exit pid => exact hs.of_exit pid
  | advance nanos => exact hs.of_clock s.shuttingDown (s.now + nanos)

end

theorem sound_start (now : ℕ) : Sound (start now) where
  current := List.forall_mem_nil _
  launched _ _ hprocess := by cases hprocess
  pids := rfl
  ready := ⟨by decide, fun _ _ => List.not_mem_nil⟩

theorem sound_after (now : ℕ) (actions : List Action) : Sound (after now actions) :=
  run_induction (fun _ action hs => hs.step action) (sound_start now) actions

/-! ## No node runs twice -/

/-- Two processes that run belong to different nodes. -/
def RunsOnce (s : ProcessManager) : Prop :=
  ∀ first ∈ s.launches, ∀ second ∈ s.launches, first.pid ∈ s.live → second.pid ∈ s.live →
    first.name = second.name → first = second

theorem Tracked.current_of_launch {s : ProcessManager} (hs : Tracked s) {launch : Launch}
    (hlaunch : launch ∈ s.launches) (hlive : launch.pid ∈ s.live) :
    (s.info launch.name).process = some launch.pid := by
  obtain ⟨name, -, hprocess⟩ := hs.current launch.pid hlive
  obtain ⟨other, hother, rfl, hpid⟩ := hs.launched name launch.pid hprocess
  rw [hs.launch_inj hlaunch hother hpid.symm]
  rwa [hs.launch_inj hlaunch hother hpid.symm] at hprocess

/-- **No node runs twice**, whatever exits and fails, and whenever a signal comes. -/
theorem runsOnce_after (now : ℕ) (actions : List Action) : RunsOnce (after now actions) := by
  have hs := (sound_after now actions).toTracked
  intro first hfirst second hsecond hfirstLive hsecondLive hname
  have hcurrent := hs.current_of_launch hfirst hfirstLive
  rw [hname, hs.current_of_launch hsecond hsecondLive] at hcurrent
  exact hs.launch_inj hfirst hsecond (Option.some.inj hcurrent).symm

/-! ## After a signal -/

/-- How many more processes may be started once the manager shuts down. -/
def lastLaunches (s : ProcessManager) : ℕ :=
  match s.stage with
  | .spawning _ _ => 1
  | _ => 0

/-- How often the main thread still moves in a loop over names. -/
def Caller.movesLeft : Caller → ℕ
  | .main rest => 2 * rest.length + 2
  | .monitor rest => rest.length + 2

/-- How often the main thread still moves once the manager shuts down. -/
def movesLeft (s : ProcessManager) : ℕ :=
  match s.stage with
  | .looping caller => caller.movesLeft + 2 * s.names.length + 2
  | .starting _ caller | .waiting _ _ caller | .spawning _ caller =>
      caller.movesLeft + 1 + 2 * s.names.length + 2
  | .monitoring | .sleeping _ => 2 * s.names.length + 3
  | .terminating rest => rest.length + s.names.length + 2
  | .reaping rest => rest.length + 1
  | .finished => 0

/-- The main thread does not sleep, or its two seconds are over. -/
def Awake (s : ProcessManager) : Prop := ∀ wake, s.stage = .sleeping wake → wake ≤ s.now

/-- What happens in `count` moves of the main thread while the manager shuts down. -/
structure Winding (count : ℕ) (s t : ProcessManager) : Prop where
  down : t.shuttingDown = true
  launches : t.launches.length + lastLaunches t ≤ s.launches.length + lastLaunches s
  sleeps : ∀ wake, t.stage = .sleeping wake → s.stage = .sleeping wake
  now : s.now ≤ t.now
  moves : Awake s → movesLeft t ≤ movesLeft s - count

section

variable {s t u : ProcessManager}

theorem Winding.awake {count : ℕ} (hst : Winding count s t) (hawake : Awake s) : Awake t :=
  fun wake hwake => (hawake wake (hst.sleeps wake hwake)).trans hst.now

theorem Winding.trans {first second : ℕ} (hst : Winding first s t) (htu : Winding second t u) :
    Winding (first + second) s u where
  down := htu.down
  launches := htu.launches.trans hst.launches
  sleeps wake hwake := hst.sleeps wake (htu.sleeps wake hwake)
  now := hst.now.trans htu.now
  moves hawake := by
    have hfirst := hst.moves hawake
    have hsecond := htu.moves (hst.awake hawake)
    omega

theorem Winding.refl (hdown : s.shuttingDown = true) : Winding 0 s s where
  down := hdown
  launches := le_refl _
  sleeps _ hwake := hwake
  now := le_refl _
  moves _ := le_refl _

/-- A change of the stage. -/
theorem Winding.stage (hdown : s.shuttingDown = true) {stage : Stage}
    (hnot : ∀ wake, stage ≠ .sleeping wake)
    (hlast : lastLaunches { s with stage := stage } = 0)
    (hmoves : movesLeft { s with stage := stage } ≤ movesLeft s - 1) :
    Winding 1 s { s with stage := stage } where
  down := hdown
  launches := by
    rw [hlast]
    exact Nat.le_add_right _ _
  sleeps wake hwake := absurd hwake (hnot wake)
  now := le_refl _
  moves _ := hmoves

/-- `Popen` is called once more. -/
theorem Winding.spawn (hdown : s.shuttingDown = true) {name : String} {caller : Caller}
    (hstage : s.stage = .spawning name caller) (ok : Bool) :
    Winding 1 s (s.spawn name ok caller) := by
  unfold ProcessManager.spawn
  cases ok with
  | true =>
      rw [if_pos rfl]
      refine ⟨hdown, by simp [lastLaunches, hstage], by simp, le_refl _, fun _ => ?_⟩
      simp only [movesLeft, hstage, setInfo]
      omega
  | false =>
      rw [if_neg Bool.false_ne_true]
      refine Winding.stage hdown (by simp) rfl ?_
      simp only [movesLeft, hstage]
      omega

theorem Winding.go (hdown : s.shuttingDown = true) (ok : Bool) : Winding 1 s (s.go ok) := by
  unfold ProcessManager.go
  cases hstage : s.stage with
  | looping caller =>
      cases caller with
      | main rest =>
          cases rest with
          | nil =>
              dsimp only
              split
              · exact Winding.stage hdown (by simp) rfl (by simp [movesLeft])
              · refine Winding.stage hdown (by simp) rfl ?_
                simp only [movesLeft, hstage, Caller.movesLeft, List.length_nil]
                omega
          | cons name rest =>
              dsimp only
              split
              all_goals
                refine Winding.stage hdown (by simp) rfl ?_
                simp only [movesLeft, hstage, Caller.movesLeft, List.length_cons]
                omega
      | monitor rest =>
          cases rest with
          | nil =>
              refine Winding.stage hdown (by simp) rfl ?_
              simp only [movesLeft, hstage, Caller.movesLeft, List.length_nil]
              omega
          | cons name rest =>
              dsimp only [inspect]
              rw [if_neg (by simp [hdown])]
              refine Winding.stage hdown (by simp) rfl ?_
              simp only [movesLeft, hstage, Caller.movesLeft, List.length_cons]
              omega
  | starting name caller =>
      dsimp only [startProcess]
      rw [if_pos hdown]
      refine Winding.stage hdown (by simp) rfl ?_
      simp only [movesLeft, hstage]
      omega
  | waiting name deadline caller =>
      dsimp only
      rw [if_pos hdown]
      refine Winding.stage hdown (by simp) rfl ?_
      simp only [movesLeft, hstage]
      omega
  | spawning name caller => exact Winding.spawn hdown hstage ok
  | monitoring =>
      dsimp only
      rw [if_pos hdown, terminateAll, ← hdown]
      refine Winding.stage hdown (by simp) rfl ?_
      simp only [movesLeft, hstage]
      omega
  | sleeping wake =>
      dsimp only
      split
      · rename_i hearly
        refine ⟨hdown, le_refl _, fun _ hwake => hwake, le_refl _, fun hawake => ?_⟩
        exact absurd hearly (Nat.not_lt.mpr (hawake wake hstage))
      · rw [terminateAll, ← hdown]
        refine Winding.stage hdown (by simp) rfl ?_
        simp only [movesLeft, hstage]
        omega
  | terminating rest =>
      cases rest with
      | nil =>
          refine Winding.stage hdown (by simp) rfl ?_
          simp only [movesLeft, hstage, List.length_nil]
          omega
      | cons name rest =>
          refine ⟨hdown, by simp [lastLaunches], by simp, le_refl _, fun _ => ?_⟩
          simp only [movesLeft, hstage, List.length_cons]
          omega
  | reaping rest =>
      cases rest with
      | nil => exact Winding.stage hdown (by simp) rfl (by simp [movesLeft])
      | cons name rest =>
          dsimp only
          split
          · refine Winding.stage hdown (by simp) rfl ?_
            simp [movesLeft, hstage]
          · split
            all_goals
              refine ⟨hdown, by simp [lastLaunches], by simp, le_refl _, fun _ => ?_⟩
              simp [movesLeft, hstage]
  | finished =>
      exact ⟨hdown, le_refl _, fun _ hwake => hwake, le_refl _, by simp [movesLeft, hstage]⟩

/-- The moves of the main thread. -/
def ProcessManager.Action.moves : Action → ℕ
  | .go _ => 1
  | _ => 0

/-- The moves of the main thread among the actions. -/
def moveCount (actions : List Action) : ℕ := (actions.map Action.moves).sum

theorem Winding.step (hdown : s.shuttingDown = true) (action : Action) :
    Winding action.moves s (step s action) := by
  cases action with
  | go ok => exact Winding.go hdown ok
  | signal => exact ⟨rfl, le_refl _, fun _ hwake => hwake, le_refl _, fun _ => le_refl _⟩
  | exit pid => exact ⟨hdown, le_refl _, fun _ hwake => hwake, le_refl _, fun _ => le_refl _⟩
  | advance nanos =>
      exact ⟨hdown, le_refl _, fun _ hwake => hwake, Nat.le_add_right _ _, fun _ => le_refl _⟩

theorem winding_run (actions : List Action) :
    ∀ {s}, s.shuttingDown = true → Winding (moveCount actions) s (run step s actions) := by
  induction actions with
  | nil => exact fun hdown => Winding.refl hdown
  | cons action actions ih =>
      intro s hdown
      have hstep := Winding.step hdown action
      have hrest := hstep.trans (ih hstep.down)
      rw [run_cons]
      simpa only [moveCount, List.map_cons, List.sum_cons] using hrest

/-! ### Two seconds -/

/-- The main thread sleeps for at most two seconds. -/
def SleepsBriefly (s : ProcessManager) : Prop :=
  ∀ wake, s.stage = .sleeping wake → wake ≤ s.now + 2 * secondNanos

theorem sleepsBriefly_of_stage (hnot : ∀ wake, s.stage ≠ .sleeping wake) : SleepsBriefly s :=
  fun wake hwake => absurd hwake (hnot wake)

theorem SleepsBriefly.go (hs : SleepsBriefly s) (ok : Bool) : SleepsBriefly (s.go ok) := by
  unfold ProcessManager.go
  cases hstage : s.stage with
  | looping caller =>
      cases caller with
      | main rest =>
          cases rest with
          | nil =>
              refine sleepsBriefly_of_stage ?_
              dsimp only
              split <;> simp
          | cons name rest =>
              refine sleepsBriefly_of_stage ?_
              dsimp only
              split <;> simp
      | monitor rest =>
          cases rest with
          | nil => exact sleepsBriefly_of_stage (by simp)
          | cons name rest =>
              refine sleepsBriefly_of_stage ?_
              dsimp only [inspect]
              split <;> simp
  | starting name caller =>
      refine sleepsBriefly_of_stage ?_
      dsimp only [startProcess]
      split
      · simp
      · split <;> simp
  | waiting name deadline caller =>
      dsimp only
      split
      · exact sleepsBriefly_of_stage (by simp)
      · split
        · exact hs
        · exact sleepsBriefly_of_stage (by simp)
  | spawning name caller =>
      refine sleepsBriefly_of_stage ?_
      dsimp only [ProcessManager.spawn]
      split <;> simp
  | monitoring =>
      dsimp only
      split
      · exact sleepsBriefly_of_stage (by simp [terminateAll])
      · intro wake hwake
        exact (Stage.sleeping.inj hwake).symm.le
  | sleeping wake =>
      dsimp only
      split
      · exact hs
      · split
        · exact sleepsBriefly_of_stage (by simp [terminateAll])
        · exact sleepsBriefly_of_stage (by simp)
  | terminating rest => cases rest <;> exact sleepsBriefly_of_stage (by simp)
  | reaping rest =>
      cases rest with
      | nil => exact sleepsBriefly_of_stage (by simp)
      | cons name rest =>
          refine sleepsBriefly_of_stage ?_
          dsimp only
          split
          · simp
          · split <;> simp
  | finished => exact hs

theorem SleepsBriefly.step (hs : SleepsBriefly s) (action : Action) :
    SleepsBriefly (step s action) := by
  cases action with
  | go ok => exact hs.go ok
  | signal => exact hs
  | exit pid => exact hs
  | advance nanos =>
      intro wake hwake
      refine (hs wake hwake).trans ?_
      simp only [ProcessManager.step]
      omega

theorem sleepsBriefly_after (now : ℕ) (actions : List Action) :
    SleepsBriefly (after now actions) :=
  run_induction (fun _ action hs => hs.step action) (fun _ hwake => by cases hwake) actions

theorem after_append (now : ℕ) (first second : List Action) :
    after now (first ++ second) = run step (after now first) second := run_append _ _ _

/-- The end of the moves. -/
theorem finished_of_movesLeft (hmoves : movesLeft s = 0) : s.stage = .finished := by
  cases hstage : s.stage <;> simp_all [movesLeft]

theorem lastLaunches_le (s : ProcessManager) : lastLaunches s ≤ 1 := by
  unfold lastLaunches
  split <;> simp

end

/-- **A signal stops the manager.**  It starts at most one more process.  Once two seconds have
passed it is in `terminate_all` after a bounded number of moves, and at its end each process that
still runs has been terminated and killed. -/
theorem stopped_after (now : ℕ) (before waiting later : List Action)
    (hseconds : (after now before).now + 2 * secondNanos ≤
      (after now (before ++ .signal :: waiting)).now)
    (hmoves : movesLeft (after now (before ++ .signal :: waiting)) ≤ moveCount later) :
    let stopped := after now (before ++ .signal :: (waiting ++ later))
    stopped.stage = .finished ∧
      stopped.launches.length ≤ (after now before).launches.length + 1 ∧
      ∀ pid ∈ stopped.live, pid ∈ stopped.terminated ∧ pid ∈ stopped.killed := by
  have hsignal : Winding 0 (step (after now before) .signal)
      (step (after now before) .signal) := Winding.refl rfl
  have hwaiting := hsignal.trans (winding_run waiting rfl)
  have hlater := winding_run later hwaiting.down
  have hall := hwaiting.trans hlater
  have hawake : Awake (run step (step (after now before) .signal) waiting) := by
    intro wake hwake
    refine (sleepsBriefly_after now before wake (hwaiting.sleeps wake hwake)).trans ?_
    rwa [after_append, run_cons] at hseconds
  have hsound := sound_after now (before ++ .signal :: (waiting ++ later))
  rw [after_append, run_cons] at hmoves
  rw [after_append, run_cons, run_append] at hsound ⊢
  have hfinished := finished_of_movesLeft
    (Nat.le_zero.mp ((hlater.moves hawake).trans (Nat.sub_eq_zero_of_le hmoves).le))
  refine ⟨hfinished, ?_, ?_⟩
  · have hlaunches := hall.launches
    have hlast := lastLaunches_le (step (after now before) .signal)
    have hsame : (step (after now before) .signal).launches = (after now before).launches := rfl
    rw [hsame] at hlaunches
    exact (Nat.le_add_right _ _).trans (hlaunches.trans (Nat.add_le_add_left hlast _))
  · have hready := hsound.ready
    rw [hfinished] at hready
    exact hready

/-- The signal comes before a `Popen`; the process does not exit when it is terminated. -/
theorem stopped_after_popen :
    let stopped := after 0 ([.go true, .go true] ++ .signal ::
      ([.advance (2 * secondNanos)] ++ .go true :: List.replicate 16 (.go false)))
    stopped.stage = .finished ∧
      stopped.launches.length ≤ (after 0 [.go true, .go true]).launches.length + 1 ∧
      ∀ pid ∈ stopped.live, pid ∈ stopped.terminated ∧ pid ∈ stopped.killed :=
  stopped_after 0 [.go true, .go true] [.advance (2 * secondNanos)]
    (.go true :: List.replicate 16 (.go false)) (by decide) (by decide)

end OroEdge.Launcher
