import Mathlib.Data.List.Basic
import Mathlib.Tactic.Common

/-!
# Pools of tasks

A pool is a list of tasks in flight.  A task that takes a step is replaced by what
it continues with: nothing when it ends, itself in a later stage, or several tasks
when it starts others.

Which task moves is chosen by its place in the list, so every interleaving is a sequence of
places, and a place where no task is does nothing.  The new tasks stand where the old one stood,
so the order of the others does not change.

There are three kinds of facts about a step, and a proof uses the one that its invariant asks
for.  For what holds of every task it is enough that it holds of the new ones
(`forall_mem_replaceAt`).  For what holds of one task that must not get lost, the pool is cut in
two around the task that moves (`take_append_cons_drop`, `eq_or_mem_replaceAt`).  And for what
is counted over the pool there is a balance: the replaced task goes, its continuation comes
(`countP_replaceAt`).
-/

namespace OroEdge.Lib

variable {Task : Type*} {pool next : List Task} {i : ℕ} {task : Task}

/-- The pool after its `i`-th task has been replaced by `next`. -/
def replaceAt (pool : List Task) (i : ℕ) (next : List Task) : List Task :=
  pool.take i ++ next ++ pool.drop (i + 1)

theorem mem_or_mem_of_mem_replaceAt {x : Task} (hx : x ∈ replaceAt pool i next) :
    x ∈ pool ∨ x ∈ next := by
  simp only [replaceAt, List.mem_append] at hx
  rcases hx with (hx | hx) | hx
  · exact Or.inl (List.mem_of_mem_take hx)
  · exact Or.inr hx
  · exact Or.inl (List.mem_of_mem_drop hx)

/-- What holds of every task, and of what the replaced one continues with. -/
theorem forall_mem_replaceAt {P : Task → Prop} (hpool : ∀ x ∈ pool, P x) (hnext : ∀ x ∈ next, P x) :
    ∀ x ∈ replaceAt pool i next, P x := by
  intro x hx
  rcases mem_or_mem_of_mem_replaceAt hx with hkept | hnew
  · exact hpool x hkept
  · exact hnext x hnew

theorem mem_replaceAt_of_mem_next {x : Task} (hx : x ∈ next) : x ∈ replaceAt pool i next := by
  simp [replaceAt, hx]

/-- Around its `i`-th task a pool is cut in two. -/
theorem take_append_cons_drop (htask : pool[i]? = some task) :
    pool.take i ++ task :: pool.drop (i + 1) = pool := by
  obtain ⟨hi, rfl⟩ := List.getElem?_eq_some_iff.mp htask
  rw [← List.drop_eq_getElem_cons hi, List.take_append_drop]

/-- A task of the pool is the replaced one or stays. -/
theorem eq_or_mem_replaceAt {x : Task} (htask : pool[i]? = some task) (hx : x ∈ pool) :
    x = task ∨ x ∈ replaceAt pool i next := by
  rw [← take_append_cons_drop htask] at hx
  simp only [List.mem_append, List.mem_cons] at hx
  simp only [replaceAt, List.mem_append]
  rcases hx with hx | hx | hx
  · exact Or.inr (Or.inl (Or.inl hx))
  · exact Or.inl hx
  · exact Or.inr (Or.inr hx)

theorem replaceAt_last (pool next : List Task) (task : Task) :
    replaceAt (pool ++ [task]) pool.length next = pool ++ next := by
  rw [replaceAt, List.take_left, List.drop_eq_nil_of_le (by simp), List.append_nil]

theorem map_replaceAt {Task' : Type*} (f : Task → Task') (pool next : List Task) (i : ℕ) :
    (replaceAt pool i next).map f = replaceAt (pool.map f) i (next.map f) := by
  unfold replaceAt
  rw [List.map_append, List.map_append, List.map_take, List.map_drop]

theorem replaceAt_self (htask : pool[i]? = some task) : replaceAt pool i [task] = pool := by
  unfold replaceAt
  rw [List.append_assoc, List.singleton_append, take_append_cons_drop htask]

/-- A task that ends, or goes on as itself, leaves the other tasks in their order. -/
theorem replaceAt_sublist (htask : pool[i]? = some task) (hnext : next.Sublist [task]) :
    (replaceAt pool i next).Sublist pool := by
  have hall := (List.Sublist.refl (pool.take i)).append
    (hnext.append (List.Sublist.refl (pool.drop (i + 1))))
  rw [List.singleton_append, take_append_cons_drop htask, ← List.append_assoc] at hall
  exact hall

/-- The balance of a step: the replaced task goes, its continuation comes. -/
theorem countP_replaceAt (htask : pool[i]? = some task) (next : List Task) (p : Task → Bool) :
    (replaceAt pool i next).countP p + (if p task then 1 else 0) =
      pool.countP p + next.countP p := by
  have hpool := congrArg (List.countP p) (take_append_cons_drop htask)
  rw [List.countP_append, List.countP_cons] at hpool
  rw [replaceAt, List.countP_append, List.countP_append]
  omega

end OroEdge.Lib
