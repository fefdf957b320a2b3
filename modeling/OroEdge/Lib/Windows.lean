import Mathlib.Data.List.Chain
import Mathlib.Order.Lattice
import Mathlib.Tactic.Common

/-!
# Watching windows of time

A watch follows windows that do not overlap, one at a time.  It waits until the active
window has started, stays inside until it has stopped, puts it on the list of those it
has `finished`, and goes on to the `next` one.

`Watching first last` is what the watch keeps from tick to tick: the windows after the
`first` tick that lie before the active one are finished once each, and no other.  It
is preserved by a tick (`Watching.tick`) if the tick does not jump over a window, and
if no window has started between the stop of the active one and the tick that finds
it stopped.
-/

namespace OroEdge.Lib

variable {Window Time : Type*} [LinearOrder Time]

/-- The window that is waited for or is going on, and those that have ended. -/
structure Watch (Window : Type*) where
  active : Window
  inside : Bool
  finished : List Window

section

variable (start stop : Window → Time)

/-- A tick starts the window, or ends it and turns to the next one. -/
def Watch.tick (next : Time → Window) (watch : Watch Window) (now : Time) : Watch Window :=
  if watch.inside then
    if stop watch.active ≤ now then ⟨next now, false, watch.finished ++ [watch.active]⟩
    else watch
  else if start watch.active ≤ now then { watch with inside := true }
  else watch

/-- The windows are not empty, and no two of them overlap. -/
structure Disjointed (windows : Set Window) : Prop where
  nonempty : ∀ w ∈ windows, start w < stop w
  apart : ∀ w ∈ windows, ∀ w' ∈ windows, w ≠ w' → stop w ≤ start w' ∨ stop w' ≤ start w

/-- `w` is the first window that starts after `now`. -/
structure IsNext (windows : Set Window) (now : Time) (w : Window) : Prop where
  mem : w ∈ windows
  after : now < start w
  least : ∀ w' ∈ windows, now < start w' → start w ≤ start w'

/-- What a watch that has been ticked from `first` to `last` has done. -/
structure Watching (windows : Set Window) (first last : Time) (watch : Watch Window) : Prop where
  mem : watch.active ∈ windows
  outside : watch.inside = false → last < start watch.active
  inside : watch.inside = true → start watch.active ≤ last ∧ last < stop watch.active
  finished : ∀ w ∈ windows, first < start w → (watch.finished.map start).count (start w) =
    if start w < start watch.active then 1 else 0

end

variable {start stop : Window → Time} {windows : Set Window} {next : Time → Window}
  {first last now : Time} {watch : Watch Window}

/-- A window that starts later starts when the other has stopped. -/
theorem Disjointed.stop_le_of_start_lt (hdisjoint : Disjointed start stop windows) {w w' : Window}
    (hw : w ∈ windows) (hw' : w' ∈ windows) (hlt : start w < start w') : stop w ≤ start w' := by
  have hne : w ≠ w' := by
    rintro rfl
    exact lt_irrefl _ hlt
  rcases hdisjoint.apart w hw w' hw' hne with hle | hle
  · exact hle
  · exact absurd (hdisjoint.nonempty w' hw') (not_lt.mpr (hle.trans hlt.le))

theorem Disjointed.start_injOn (hdisjoint : Disjointed start stop windows) {w w' : Window}
    (hw : w ∈ windows) (hw' : w' ∈ windows) (heq : start w = start w') : w = w' := by
  by_contra hne
  rcases hdisjoint.apart w hw w' hw' hne with hle | hle
  · exact absurd (hdisjoint.nonempty w hw) (not_lt.mpr (hle.trans heq.ge))
  · exact absurd (hdisjoint.nonempty w' hw') (not_lt.mpr (hle.trans heq.le))

theorem watching_start {w : Window} (hnext : IsNext start windows first w) :
    Watching start stop windows first first ⟨w, false, []⟩ where
  mem := hnext.mem
  outside _ := hnext.after
  inside := nofun
  finished w' hw' hfirst := by
    rw [if_neg (not_lt.mpr (hnext.least w' hw' hfirst))]
    rfl

/-- One tick. -/
theorem Watching.tick (hwatching : Watching start stop windows first last watch)
    (hdisjoint : Disjointed start stop windows) (hnext : IsNext start windows now (next now))
    (hle : last ≤ now)
    (henters : watch.inside = false → start watch.active ≤ now → now < stop watch.active)
    (hleaves : watch.inside = true → stop watch.active ≤ now →
      ∀ w ∈ windows, stop watch.active ≤ start w → now < start w) :
    Watching start stop windows first now (watch.tick start stop next now) := by
  unfold Watch.tick
  cases hinside : watch.inside with
  | false =>
      rw [if_neg Bool.false_ne_true]
      split
      · rename_i hstart
        exact ⟨hwatching.mem, nofun, fun _ => ⟨hstart, henters hinside hstart⟩, hwatching.finished⟩
      · rename_i hstart
        refine ⟨hwatching.mem, fun _ => not_le.mp hstart, ?_, hwatching.finished⟩
        intro htrue
        rw [hinside] at htrue
        cases htrue
  | true =>
      obtain ⟨hstart, hlast⟩ := hwatching.inside hinside
      rw [if_pos rfl]
      split
      · rename_i hstop
        refine ⟨hnext.mem, fun _ => hnext.after, nofun, fun w hw hfirst => ?_⟩
        have hbefore := hwatching.finished w hw hfirst
        have hnextStart : start watch.active < start (next now) :=
          lt_of_le_of_lt (hstart.trans hle) hnext.after
        rw [List.map_append, List.count_append, hbefore, List.map_singleton]
        rcases lt_trichotomy (start w) (start watch.active) with hlt | heq | hgt
        · rw [if_pos hlt, if_pos (hlt.trans hnextStart),
            List.count_eq_zero_of_not_mem (by simpa using hlt.ne)]
        · rw [heq, if_neg (lt_irrefl _), if_pos hnextStart]
          simp
        · -- the window starts after the stop, so after the tick
          have hafter : now < start w := hleaves hinside hstop w hw
            (hdisjoint.stop_le_of_start_lt hwatching.mem hw hgt)
          rw [if_neg (not_lt.mpr hgt.le), if_neg (not_lt.mpr (hnext.least w hw hafter)),
            List.count_eq_zero_of_not_mem (by simpa using hgt.ne')]
      · rename_i hstop
        refine ⟨hwatching.mem, ?_, fun _ => ⟨hstart.trans hle, not_le.mp hstop⟩,
          hwatching.finished⟩
        intro hfalse
        rw [hinside] at hfalse
        cases hfalse

/-- **Once each.**  A window between the first tick and the last is finished once. -/
theorem Watching.count_eq_one (hwatching : Watching start stop windows first last watch)
    (hdisjoint : Disjointed start stop windows) {w : Window} (hw : w ∈ windows)
    (hfirst : first < start w) (hlast : stop w ≤ last) :
    (watch.finished.map start).count (start w) = 1 := by
  rw [hwatching.finished w hw hfirst, if_pos]
  by_contra hnot
  have hactive : start watch.active ≤ start w := not_lt.mp hnot
  have hnonempty := hdisjoint.nonempty w hw
  cases hinside : watch.inside with
  | false =>
      have houtside := hwatching.outside hinside
      exact absurd (hnonempty.trans_le (hlast.trans houtside.le)) (not_lt.mpr hactive)
  | true =>
      obtain ⟨-, hstop⟩ := hwatching.inside hinside
      rcases hactive.eq_or_lt with heq | hlt
      · rw [hdisjoint.start_injOn hwatching.mem hw heq] at hstop
        exact absurd hlast (not_le.mpr hstop)
      · have hle := hdisjoint.stop_le_of_start_lt hwatching.mem hw hlt
        exact absurd (hle.trans (hnonempty.le.trans hlast)) (not_le.mpr hstop)

end OroEdge.Lib
