import OroEdge.Lib.Run
import Mathlib.Data.List.Induction

/-!
# Simulations with steps that do not show

A map to the states of an abstract system simulates if each action of the concrete system is
matched by at most one action of the abstract one.  Then a run is matched by a run, and the image
of every state that the concrete system reaches is one that the abstract system reaches.

This is used where a component has been modelled by itself, and is then looked at as a part of a
larger system, in which other parts move as well.  The larger system need not repeat what was
proved about the component: its moves that are about other parts do not show, and the others are
moves of the component.  What is carried over are the facts about reached states, and so about
invariants; the run of the component that is found depends on the run of the system.

The proof is by induction on the run, from its start: a move that does not show adds nothing to
the run that has been found, and any other adds one action at its end.
-/

namespace OroEdge.Lib

variable {State Action State' Action' : Type*} {step : State → Action → State}
  {step' : State' → Action' → State'}

/-- Under `f`, an action does not show, or it is an action of the other system. -/
def Matches (step : State → Action → State) (step' : State' → Action' → State')
    (f : State → State') : Prop :=
  ∀ state action, f (step state action) = f state ∨
    ∃ action', f (step state action) = step' (f state) action'

theorem Matches.exists_run {f : State → State'} (hmatches : Matches step step' f) (state : State)
    (actions : List Action) :
    ∃ actions', f (run step state actions) = run step' (f state) actions' := by
  induction actions using List.reverseRecOn with
  | nil => exact ⟨[], rfl⟩
  | append_singleton earlier action ih =>
      obtain ⟨earlier', hearlier⟩ := ih
      rw [run_append]
      rcases hmatches (run step state earlier) action with hsame | ⟨action', hnext⟩
      · exact ⟨earlier', hsame.trans hearlier⟩
      · refine ⟨earlier' ++ [action'], ?_⟩
        calc f (step (run step state earlier) action)
            = step' (f (run step state earlier)) action' := hnext
          _ = step' (run step' (f state) earlier') action' := by rw [hearlier]
          _ = run step' (f state) (earlier' ++ [action']) := by rw [run_append, run_cons, run_nil]

end OroEdge.Lib
