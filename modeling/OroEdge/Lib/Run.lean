import Mathlib.Data.List.Basic
import Mathlib.Tactic.Common

/-!
# Runs of a step function

A system is given by a total `step : State → Action → State`; an action that is
not enabled leaves the state as it is.  `run` folds a list of actions over a
start state.  Interleavings of several parties are lists of actions, so a
statement about every list of actions is a statement about every interleaving.

`AllSteps cond` says that every action of a run meets `cond` in the state it is
taken from.  The two induction rules are `run_induction`, for what every action
preserves, and `AllSteps.run_induction`, for what only the actions that meet
`cond` preserve.

Actions that are not enabled do nothing, so no list of actions is ruled out, and no hypothesis
about a schedule is needed where a statement holds for every schedule.  Where it does not,
`AllSteps` says which actions are allowed where, and the two rules compose: an invariant that
holds anyway can be used in the proof of one that needs the condition.

A statement about a place in a run is put in terms of a split of the list: the actions before
it, the action, and those after it (`allSteps_iff_forall_split`).  Runs grow at their end in
most proofs, which is what `append_singleton_eq_split` is for; `exists_split_cons_iff` is its
counterpart for runs that are looked at from their start.
-/

namespace OroEdge.Lib

variable {State Action : Type*} {step : State → Action → State}

/-- The state after `actions`, taken in order from `state`. -/
def run (step : State → Action → State) (state : State) (actions : List Action) : State :=
  actions.foldl step state

@[simp] theorem run_nil (state : State) : run step state [] = state := rfl

@[simp] theorem run_cons (state : State) (action : Action) (rest : List Action) :
    run step state (action :: rest) = run step (step state action) rest := rfl

theorem run_append (state : State) (first second : List Action) :
    run step state (first ++ second) = run step (run step state first) second :=
  List.foldl_append

/-- Every action of the run meets `cond` in the state it is taken from. -/
def AllSteps (step : State → Action → State) (cond : State → Action → Prop) :
    State → List Action → Prop
  | _, [] => True
  | state, action :: rest => cond state action ∧ AllSteps step cond (step state action) rest

variable {cond : State → Action → Prop}

instance instDecidableAllSteps [∀ state action, Decidable (cond state action)] :
    ∀ (state : State) (actions : List Action), Decidable (AllSteps step cond state actions)
  | _, [] => inferInstanceAs (Decidable True)
  | state, action :: rest =>
      have := instDecidableAllSteps (step state action) rest
      inferInstanceAs (Decidable (cond state action ∧ AllSteps step cond (step state action) rest))

theorem AllSteps.append_iff {state : State} {first second : List Action} :
    AllSteps step cond state (first ++ second) ↔
      AllSteps step cond state first ∧ AllSteps step cond (run step state first) second := by
  induction first generalizing state with
  | nil => simp [AllSteps]
  | cons action rest ih => simp [AllSteps, ih, and_assoc]

/-- The condition, said of every place in the run. -/
theorem allSteps_iff_forall_split {state : State} {actions : List Action} :
    AllSteps step cond state actions ↔ ∀ earlier action later,
      actions = earlier ++ action :: later → cond (run step state earlier) action := by
  constructor
  · rintro hall earlier action later rfl
    exact (AllSteps.append_iff.mp hall).2.1
  · intro hsplit
    induction actions generalizing state with
    | nil => trivial
    | cons action rest ih =>
        refine ⟨hsplit [] action rest rfl, ih fun earlier other later hrest => ?_⟩
        rw [← run_cons]
        exact hsplit (action :: earlier) other later (by rw [hrest, List.cons_append])

/-- The run rule: what the actions meeting `cond` preserve holds after every run
of such actions. -/
theorem AllSteps.run_induction {inv : State → Prop}
    (hstep : ∀ state action, cond state action → inv state → inv (step state action))
    {state : State} (hstart : inv state) {actions : List Action}
    (hall : AllSteps step cond state actions) : inv (run step state actions) := by
  induction actions generalizing state with
  | nil => exact hstart
  | cons action rest ih =>
      obtain ⟨hcond, hrest⟩ := hall
      exact ih (hstep state action hcond hstart) hrest

theorem AllSteps.and {other : State → Action → Prop} {state : State} {actions : List Action}
    (hall : AllSteps step cond state actions) (hother : AllSteps step other state actions) :
    AllSteps step (fun state action => cond state action ∧ other state action) state actions := by
  induction actions generalizing state with
  | nil => trivial
  | cons action rest ih =>
      obtain ⟨hcond, hrest⟩ := hall
      obtain ⟨hcond', hrest'⟩ := hother
      exact ⟨⟨hcond, hcond'⟩, ih hrest hrest'⟩

/-- A condition that does not look at the states. -/
theorem AllSteps.of_forall {kind : Action → Prop} {state : State} {actions : List Action}
    (hkind : ∀ action ∈ actions, kind action) :
    AllSteps step (fun _ action => kind action) state actions := by
  induction actions generalizing state with
  | nil => trivial
  | cons action rest ih =>
      obtain ⟨hfirst, hrest⟩ := List.forall_mem_cons.mp hkind
      exact ⟨hfirst, ih hrest⟩

/-- What every action preserves holds after every run. -/
theorem run_induction {inv : State → Prop}
    (hstep : ∀ state action, inv state → inv (step state action)) {state : State}
    (hstart : inv state) (actions : List Action) : inv (run step state actions) :=
  AllSteps.run_induction (fun state action _ => hstep state action) hstart
    (AllSteps.of_forall fun _ _ => trivial)

/-- Where an action stands in a run: first, or somewhere in the rest. -/
theorem exists_split_cons_iff {first target : Action} {rest : List Action}
    {cond : List Action → Prop} :
    (∃ earlier later, first :: rest = earlier ++ target :: later ∧ cond earlier) ↔
      (first = target ∧ cond []) ∨
        ∃ earlier later, rest = earlier ++ target :: later ∧ cond (first :: earlier) := by
  constructor
  · rintro ⟨earlier, later, hsplit, hcond⟩
    cases earlier with
    | nil => exact Or.inl ⟨(List.cons.inj hsplit).1, hcond⟩
    | cons head tail =>
        obtain ⟨rfl, htail⟩ := List.cons.inj hsplit
        exact Or.inr ⟨tail, later, htail, hcond⟩
  · rintro (⟨rfl, hcond⟩ | ⟨earlier, later, rfl, hcond⟩)
    · exact ⟨[], rest, rfl, hcond⟩
    · exact ⟨first :: earlier, later, rfl, hcond⟩

/-- Where an action stands in a run with one more action: last, or somewhere before. -/
theorem append_singleton_eq_split {earlier later actions : List Action} {last target : Action}
    (hsplit : actions ++ [last] = earlier ++ target :: later) :
    (last = target ∧ later = [] ∧ actions = earlier) ∨
      ∃ before, later = before ++ [last] ∧ actions = earlier ++ target :: before := by
  rcases later.eq_nil_or_concat with rfl | ⟨before, end', rfl⟩
  · obtain ⟨rfl, hlast⟩ := List.append_inj' hsplit rfl
    exact Or.inl ⟨(List.cons.inj hlast).1, rfl, rfl⟩
  · rw [List.concat_eq_append, ← List.cons_append, ← List.append_assoc] at hsplit
    obtain ⟨hactions, hlast⟩ := List.append_inj' hsplit rfl
    obtain rfl := (List.cons.inj hlast).1
    exact Or.inr ⟨before, List.concat_eq_append, hactions⟩

end OroEdge.Lib
