import Mathlib.Data.List.Induction
import Mathlib.Data.List.Nodup
import OroEdge.Lib.Run

/-!
# Sampling the latest value

A cell holds the latest of the values that are put into it.  A sample takes the value of the
cell, if there is one, and leaves it there; so a value is taken by every sample that comes
before the next value is put.

`nodup_sampled_iff`: if no value is put twice, none is taken twice if and only if every
sample that finds a value is followed by a new value before the next sample.

This is what becomes of readings in a program that writes the latest one at regular times.  A
reading can be lost, since another one comes before the next sample, and it can be written
twice, since no other one has come; only the second is of interest here, for it makes a row that
looks like a new measurement.

The accesses grow at their end.  A sample adds to what has been taken exactly the value that was
put last (`sampled_append_sample`), which has been taken before if and only if some earlier
sample has come since that put (`last_mem_sampled_iff`).  Both sides of the main result take
this step in the same way, so it is proved by one induction, in which a put changes nothing on
either side.
-/

namespace OroEdge.Lib

variable {Value : Type*}

/-- The cell is written or sampled. -/
inductive Access (Value : Type*)
  | put (value : Value)
  | sample
  deriving DecidableEq, Repr

def Access.put? : Access Value → Option Value
  | .put value => some value
  | .sample => none

/-- The values that are put. -/
def puts (accesses : List (Access Value)) : List Value := accesses.filterMap Access.put?

/-- The values that the samples take from a cell that holds `held`. -/
def sampled : Option Value → List (Access Value) → List Value
  | _, [] => []
  | _, .put value :: rest => sampled (some value) rest
  | held, .sample :: rest => held.toList ++ sampled held rest

/-- Between two samples a value is put, if one has been put before the first. -/
def Refreshed (accesses : List (Access Value)) : Prop :=
  ∀ earlier between later, accesses = earlier ++ .sample :: between ++ .sample :: later →
    puts earlier ≠ [] → puts between ≠ []

/-! ## One more access -/

section

variable {held : Option Value} {accesses : List (Access Value)} {value : Value}

theorem puts_append (first second : List (Access Value)) :
    puts (first ++ second) = puts first ++ puts second :=
  List.filterMap_append

theorem sampled_append_put (held : Option Value) (accesses : List (Access Value)) (value : Value) :
    sampled held (accesses ++ [.put value]) = sampled held accesses := by
  induction accesses generalizing held with
  | nil => rfl
  | cons access rest ih => cases access <;> simp [sampled, ih]

/-- The last value that was put is taken. -/
theorem sampled_append_sample (held : Option Value) (accesses : List (Access Value)) :
    sampled held (accesses ++ [.sample]) =
      sampled held accesses ++ ((puts accesses).getLast?.or held).toList := by
  induction accesses generalizing held with
  | nil => simp [sampled, puts]
  | cons access rest ih =>
      cases access with
      | put value =>
          have hlast : ((puts (.put value :: rest)).getLast?.or held) =
              (puts rest).getLast?.or (some value) := by
            show ((value :: puts rest).getLast?).or held = _
            rw [List.getLast?_cons]
            cases (puts rest).getLast? <;> rfl
          rw [List.cons_append, sampled, sampled, ih, hlast]
      | sample =>
          rw [List.cons_append, sampled, sampled, ih, List.append_assoc]
          rfl

/-- A value is taken by a sample that comes next after it. -/
theorem mem_sampled_iff : value ∈ sampled none accesses ↔ ∃ earlier later,
    accesses = earlier ++ .sample :: later ∧ (puts earlier).getLast? = some value := by
  induction accesses using List.reverseRecOn with
  | nil => simp [sampled]
  | append_singleton accesses access ih =>
      cases access with
      | put value' =>
          rw [sampled_append_put, ih]
          constructor
          · rintro ⟨earlier, later, rfl, hlast⟩
            exact ⟨earlier, later ++ [.put value'], by simp, hlast⟩
          · rintro ⟨earlier, later, hsplit, hlast⟩
            rcases append_singleton_eq_split hsplit with ⟨hlate, -, -⟩ | ⟨later, -, rfl⟩
            · cases hlate
            · exact ⟨earlier, later, rfl, hlast⟩
      | sample =>
          rw [sampled_append_sample, List.mem_append, ih]
          constructor
          · rintro (⟨earlier, later, rfl, hlast⟩ | hnow)
            · exact ⟨earlier, later ++ [.sample], by simp, hlast⟩
            · exact ⟨accesses, [], rfl, by simpa using hnow⟩
          · rintro ⟨earlier, later, hsplit, hlast⟩
            rcases append_singleton_eq_split hsplit with ⟨-, -, rfl⟩ | ⟨later, -, rfl⟩
            · exact Or.inr (by simp [hlast])
            · exact Or.inl ⟨earlier, later, rfl, hlast⟩

theorem refreshed_append_put :
    Refreshed (accesses ++ [.put value]) ↔ Refreshed accesses := by
  constructor
  · rintro hrefreshed earlier between later rfl
    exact hrefreshed earlier between (later ++ [.put value]) (by simp)
  · intro hrefreshed earlier between later hsplit
    rcases append_singleton_eq_split hsplit with ⟨hlate, -, -⟩ | ⟨later, -, rfl⟩
    · cases hlate
    · exact hrefreshed earlier between later rfl

/-- The last sample looks at every sample before it. -/
theorem refreshed_append_sample : Refreshed (accesses ++ [.sample]) ↔ Refreshed accesses ∧
    ∀ earlier between, accesses = earlier ++ .sample :: between → puts earlier ≠ [] →
      puts between ≠ [] := by
  constructor
  · intro hrefreshed
    constructor
    · rintro earlier between later rfl
      exact hrefreshed earlier between (later ++ [.sample]) (by simp)
    · rintro earlier between rfl
      exact hrefreshed earlier between [] rfl
  · rintro ⟨hrefreshed, hlast⟩ earlier between later hsplit
    rcases append_singleton_eq_split hsplit with ⟨-, -, rfl⟩ | ⟨later, -, rfl⟩
    · exact hlast earlier between rfl
    · exact hrefreshed earlier between later rfl

end

/-! ## Values that are taken twice -/

/-- The last value has been taken if and only if nothing was put since some sample. -/
theorem last_mem_sampled_iff {accesses : List (Access Value)} {value : Value}
    (hnodup : (puts accesses).Nodup) (hlast : (puts accesses).getLast? = some value) :
    value ∈ sampled none accesses ↔ ∃ earlier between,
      accesses = earlier ++ .sample :: between ∧ puts earlier ≠ [] ∧ puts between = [] := by
  rw [mem_sampled_iff]
  have hputs : ∀ earlier between : List (Access Value),
      puts (earlier ++ .sample :: between) = puts earlier ++ puts between :=
    fun earlier between => puts_append earlier (.sample :: between)
  constructor
  · rintro ⟨earlier, between, rfl, hearlier⟩
    have hmem : value ∈ puts earlier := List.mem_of_getLast? hearlier
    refine ⟨earlier, between, rfl, List.ne_nil_of_mem hmem, ?_⟩
    -- otherwise the value would have been put once more
    by_contra hbetween
    rw [hputs] at hnodup hlast
    rw [List.getLast?_append_of_ne_nil _ hbetween] at hlast
    exact List.disjoint_of_nodup_append hnodup hmem (List.mem_of_getLast? hlast)
  · rintro ⟨earlier, between, rfl, -, hbetween⟩
    rw [hputs, hbetween, List.append_nil] at hlast
    exact ⟨earlier, between, rfl, hlast⟩

/-- **Sampling, exactly.** -/
theorem nodup_sampled_iff {accesses : List (Access Value)} (hnodup : (puts accesses).Nodup) :
    (sampled none accesses).Nodup ↔ Refreshed accesses := by
  induction accesses using List.reverseRecOn with
  | nil => simp [sampled, Refreshed]
  | append_singleton accesses access ih =>
      rw [puts_append] at hnodup
      have hearlier := ih hnodup.of_append_left
      cases access with
      | put value => rw [sampled_append_put, refreshed_append_put, hearlier]
      | sample =>
          have hputs : (puts accesses).Nodup := hnodup.of_append_left
          rw [sampled_append_sample, refreshed_append_sample, Option.or_none, ← hearlier]
          cases hlast : (puts accesses).getLast? with
          | none =>
              -- nothing has been put, so nothing is taken
              have hnone : puts accesses = [] := List.getLast?_eq_none_iff.mp hlast
              simp only [Option.toList_none, List.append_nil, iff_self_and]
              rintro - earlier between rfl hne
              rw [puts_append] at hnone
              exact absurd (List.append_eq_nil_iff.mp hnone).1 hne
          | some value =>
              have hfresh := last_mem_sampled_iff hputs hlast
              rw [Option.toList_some, List.nodup_append_comm, List.singleton_append,
                List.nodup_cons, hfresh, and_comm]
              refine and_congr_right fun _ => ?_
              simp only [not_exists, not_and, ne_eq]

end OroEdge.Lib
