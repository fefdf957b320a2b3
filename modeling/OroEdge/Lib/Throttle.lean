import OroEdge.Lib.Word
import Mathlib.Tactic.Common

/-!
# Throttled times

Of the times at which something may be done, a throttle takes those that are at least a period
after the one taken before.  The difference of the two is unsigned, so a clock that has been set
back counts as late.

A time is less than a period after the last one taken, however the clock is set
(`exists_recent`).

Two errors are possible for a throttle: to take times that are too close, and to stay silent for
too long.  After a clock has been set back the first one happens here, by design, and not the
second: the difference wraps to a very large number, so the next time is taken at once.  With a
signed difference it would be the other way round, and nothing would be taken until the clock
has caught up.

The statement about silence is for every sequence of times, without any order among them.  Its
proof needs what was taken last, for the times seen so far (`lastTaken_append`), and one step: a
time that is not taken is close after that one (`close_of_lt_period`).
-/

namespace OroEdge.Lib

/-- The times that are taken, if `last` was taken before. -/
def throttled (period : ℕ) : ℕ → List ℕ → List ℕ
  | _, [] => []
  | last, time :: rest =>
      if period ≤ sub64 time last then time :: throttled period time rest
      else throttled period last rest

/-- The time that was taken last. -/
def lastTaken (period : ℕ) : ℕ → List ℕ → ℕ
  | last, [] => last
  | last, time :: rest => lastTaken period (if period ≤ sub64 time last then time else last) rest

section

variable {period last : ℕ} {times : List ℕ}

theorem throttled_append (first second : List ℕ) : throttled period last (first ++ second) =
    throttled period last first ++ throttled period (lastTaken period last first) second := by
  induction first generalizing last with
  | nil => rfl
  | cons time rest ih =>
      rw [List.cons_append, throttled, throttled, lastTaken]
      split
      · rw [ih, List.cons_append]
      · exact ih

theorem lastTaken_append (first second : List ℕ) : lastTaken period last (first ++ second) =
    lastTaken period (lastTaken period last first) second := by
  induction first generalizing last with
  | nil => rfl
  | cons time rest ih => exact ih

theorem throttled_sublist (period last : ℕ) (times : List ℕ) :
    (throttled period last times).Sublist times := by
  induction times generalizing last with
  | nil => exact List.Sublist.slnil
  | cons time rest ih =>
      rw [throttled]
      split
      · exact (ih time).cons_cons time
      · exact (ih last).cons time

/-- A time that is not taken is close after the last one that was. -/
theorem close_of_lt_period {time : ℕ} (htime : time + period ≤ 18446744073709551616)
    (hlast : last + period ≤ 18446744073709551616) (hsoon : sub64 time last < period) :
    last ≤ time ∧ time < last + period := by
  unfold sub64 at hsoon
  omega

/-- **No silence**: each time is one that is taken, or less than a period after one. -/
theorem exists_recent (hperiod : 0 < period)
    (hbound : ∀ time ∈ last :: times, time + period ≤ 18446744073709551616) {time : ℕ}
    (hmem : time ∈ times) :
    ∃ taken ∈ last :: throttled period last times, taken ≤ time ∧ time < taken + period := by
  induction times generalizing last with
  | nil => cases hmem
  | cons first rest ih =>
      obtain ⟨hlast, hrest⟩ := List.forall_mem_cons.mp hbound
      rw [throttled]
      split
      · rcases List.mem_cons.mp hmem with rfl | hmem
        · exact ⟨time, List.mem_cons_of_mem _ List.mem_cons_self, le_refl _, by omega⟩
        · obtain ⟨taken, htaken, hrecent⟩ := ih hrest hmem
          exact ⟨taken, List.mem_cons_of_mem _ htaken, hrecent⟩
      · rename_i hsoon
        rcases List.mem_cons.mp hmem with rfl | hmem
        · exact ⟨last, List.mem_cons_self,
            close_of_lt_period (hrest time List.mem_cons_self) hlast (not_le.mp hsoon)⟩
        · refine ih (List.forall_mem_cons.mpr ⟨hlast, fun other hother => ?_⟩) hmem
          exact hrest other (List.mem_cons_of_mem _ hother)

end

end OroEdge.Lib
