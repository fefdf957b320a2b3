import OroEdge.Lib.Run

/-!
# Since the last event

The last event of a history that has some property, and the events that have come since.
Histories grow at their end.

This is what a program remembers that keeps one thing about its past, such as the state that was
stable last, and forgets what came before.  To state what the program has at a moment, the
history is cut at that event.  The cut is unique (`SinceLast.since_eq`), so one may speak of
what has come since *the* last event.

A history grows at its end, so there are two ways for it to go on: the new event has the
property, and nothing has come since (`SinceLast.now`); or it has not, and it has come since the
same last event as before (`SinceLast.snoc`).  `SinceLast.of_snoc` is the converse, and is the
case split of an induction over a history.  A second property that is narrower looks further
back, and `SinceLast.of_imp` says when both look at the same event.
-/

namespace OroEdge.Lib

variable {α : Type*} {P Q : α → Prop} {history since : List α} {event a : α}

/-- `event` is the last of the history with the property, and `since` has come after it. -/
structure SinceLast (P : α → Prop) (history : List α) (event : α) (since : List α) : Prop where
  split : ∃ before, history = before ++ event :: since
  holds : P event
  later : ∀ a ∈ since, ¬ P a

namespace SinceLast

theorem now (ha : P a) (history : List α) : SinceLast P (history ++ [a]) a [] :=
  ⟨⟨history, rfl⟩, ha, fun _ hmem => by cases hmem⟩

/-- An event without the property has come since. -/
theorem snoc (hsince : SinceLast P history event since) (ha : ¬ P a) :
    SinceLast P (history ++ [a]) event (since ++ [a]) := by
  obtain ⟨⟨before, rfl⟩, hevent, hlater⟩ := hsince
  refine ⟨⟨before, by simp⟩, hevent, fun b hb => ?_⟩
  rcases List.mem_append.mp hb with hb | hb
  · exact hlater b hb
  · rw [List.mem_singleton.mp hb]
    exact ha

/-- The last event is the one that has just come, or the last one before it. -/
theorem of_snoc (hsince : SinceLast P (history ++ [a]) event since) :
    (P a ∧ event = a) ∨ (¬ P a ∧ ∃ since', SinceLast P history event since') := by
  obtain ⟨⟨before, hsplit⟩, hevent, hlater⟩ := hsince
  rcases append_singleton_eq_split hsplit with ⟨rfl, -, -⟩ | ⟨since', rfl, rfl⟩
  · exact Or.inl ⟨hevent, rfl⟩
  · refine Or.inr ⟨hlater a (by simp), since', ⟨before, rfl⟩, hevent, fun b hb => ?_⟩
    exact hlater b (List.mem_append_left _ hb)

/-- The last event of a wider property is the last of a narrower one, if it has it. -/
theorem of_imp (hsince : SinceLast Q history event since) (himp : ∀ a, P a → Q a)
    (hevent : P event) : SinceLast P history event since :=
  ⟨hsince.split, hevent, fun a ha hP => hsince.later a ha (himp a hP)⟩

/-- There is one last event. -/
theorem since_eq {event' : α} {since' : List α} (hsince : SinceLast P history event since)
    (hsince' : SinceLast P history event' since') : since = since' := by
  obtain ⟨⟨before, rfl⟩, hevent, hlater⟩ := hsince
  obtain ⟨⟨before', hsplit⟩, hevent', hlater'⟩ := hsince'
  rcases List.append_eq_append_iff.mp hsplit with ⟨between, -, hrest⟩ | ⟨between, -, hrest⟩
  · cases between with
    | nil => exact (List.cons.inj hrest).2
    | cons first rest =>
        -- the second event would have come since the first
        obtain ⟨-, rfl⟩ := List.cons.inj hrest
        exact absurd hevent' (hlater event' (by simp))
  · cases between with
    | nil => exact (List.cons.inj hrest).2.symm
    | cons first rest =>
        obtain ⟨-, rfl⟩ := List.cons.inj hrest
        exact absurd hevent (hlater' event (by simp))

end SinceLast

end OroEdge.Lib
