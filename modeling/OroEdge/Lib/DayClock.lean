import OroEdge.Lib.Calendar
import Mathlib.Data.List.Range
import Mathlib.Tactic.Ring

/-!
# The clock of a day

A `TimeOfDay` is a value of SQL's type `TIME`: a number of microseconds from
`00:00:00` to `24:00:00`.  Subtracting an interval wraps modulo 24 hours, so that
`t.sub interval` may lie after `t`; comparisons do not know of the wrap.

The second part is about sampling a time line: samples that pass over a window with
gaps of at most its width meet it, and a grid shows what they may miss.

The two parts meet where a program looks from time to time for what is due: it compares times of
day, so a window that goes over midnight is cut in two or, with `BETWEEN`, is empty.  `ofWall`
maps the time line to the clock and `sub_micros_of_le`, `sub_micros_of_lt` say when a difference
on the clock is one on the time line.

For the samples no even spacing is assumed.  `Covers.exists_mem` takes the first sample from a
point on, which comes at most a gap later; it is by induction on the samples, with the point
ahead of all that have been passed.  In the other direction `covers_grid` gives, for every
phase, samples that are as far apart as allowed, for statements about what can be missed.
-/

namespace OroEdge.Lib

/-- A `time`; 24:00 is one, too. -/
structure TimeOfDay where
  micros : ℤ
  nonneg : 0 ≤ micros
  le_day : micros ≤ dayMicros
  deriving DecidableEq, Repr

namespace TimeOfDay

theorem day_pos : 0 < dayMicros := by decide

/-- The time of day of a point of the time line. -/
def ofWall (wall : ℤ) : TimeOfDay :=
  ⟨timeOfDay wall, Int.emod_nonneg _ day_pos.ne', (Int.emod_lt_of_pos _ day_pos).le⟩

/-- `time - interval`. -/
def sub (t : TimeOfDay) (interval : ℤ) : TimeOfDay := ofWall (t.micros - interval)

/-- `time BETWEEN low AND high`. -/
def Between (time low high : TimeOfDay) : Prop :=
  low.micros ≤ time.micros ∧ time.micros ≤ high.micros

instance (time low high : TimeOfDay) : Decidable (Between time low high) :=
  inferInstanceAs (Decidable (_ ∧ _))

theorem ofWall_lt_day (wall : ℤ) : (ofWall wall).micros < dayMicros :=
  Int.emod_lt_of_pos _ day_pos

theorem ofWall_micros (wall : ℤ) : (ofWall wall).micros = wall - dayOf wall * dayMicros := by
  show wall % dayMicros = wall - wall / dayMicros * dayMicros
  unfold dayMicros
  omega

variable {t : TimeOfDay} {interval : ℤ}

/-- No wrap: the time has passed the interval. -/
theorem sub_micros_of_le (hpos : 0 ≤ interval) (hle : interval ≤ t.micros)
    (hday : t.micros < dayMicros) : (t.sub interval).micros = t.micros - interval :=
  Int.emod_eq_of_lt (by omega) (by omega)

/-- The wrap: less than the interval has passed since midnight. -/
theorem sub_micros_of_lt (hlt : t.micros < interval) (hday : interval ≤ dayMicros) :
    (t.sub interval).micros = t.micros - interval + dayMicros := by
  have hnonneg := t.nonneg
  show (t.micros - interval) % dayMicros = t.micros - interval + dayMicros
  rw [← Int.add_emod_right]
  exact Int.emod_eq_of_lt (by omega) (by omega)

end TimeOfDay

/-! ## Samples -/

/-- Samples in order that start at `low` or before, end at `high` or after, and are at
most `gap` apart. -/
structure Covers (gap low high : ℤ) (samples : List ℤ) : Prop where
  gaps : samples.IsChain fun a b => a ≤ b ∧ b ≤ a + gap
  first : ∃ a ∈ samples.head?, a ≤ low
  last : ∃ b ∈ samples.getLast?, high ≤ b

/-- The first sample from `x` on. -/
theorem Covers.exists_mem {gap low high x : ℤ} {samples : List ℤ}
    (hcovers : Covers gap low high samples) (hgap : 0 < gap) (hlow : low ≤ x) (hhigh : x ≤ high) :
    ∃ t ∈ samples, x ≤ t ∧ t < x + gap := by
  obtain ⟨hgaps, ⟨a, ha, hfirst⟩, ⟨b, hb, hlast⟩⟩ := hcovers
  have hax : a ≤ x := hfirst.trans hlow
  have hxb : x ≤ b := hhigh.trans hlast
  clear hfirst hlast
  -- induction on the samples, with the first one at `x` or before
  induction samples generalizing a with
  | nil => simp at ha
  | cons first rest ih =>
      simp only [List.head?_cons, Option.mem_some_iff] at ha
      subst ha
      rcases eq_or_lt_of_le hax with rfl | hlt
      · exact ⟨first, List.mem_cons_self, le_rfl, by omega⟩
      · cases rest with
        | nil =>
            simp only [List.getLast?_singleton, Option.mem_some_iff] at hb
            omega
        | cons second rest =>
            obtain ⟨⟨-, hnext⟩, hrest⟩ := List.isChain_cons_cons.mp hgaps
            rcases le_or_gt x second with hle | hgt
            · exact ⟨second, by simp, hle, by omega⟩
            · rw [List.getLast?_cons_cons] at hb
              obtain ⟨t, ht, hwindow⟩ := ih hrest second rfl hb hgt.le
              exact ⟨t, List.mem_cons_of_mem _ ht, hwindow⟩

/-- The multiples of `gap`, moved by `start`. -/
def grid (gap start : ℤ) (n : ℕ) : List ℤ :=
  (List.range (n + 1)).map fun i : ℕ => start + i * gap

theorem mem_grid_iff {gap start t : ℤ} {n : ℕ} :
    t ∈ grid gap start n ↔ ∃ i : ℕ, i ≤ n ∧ start + i * gap = t := by
  simp only [grid, List.mem_map, List.mem_range, Nat.lt_succ_iff]

theorem covers_grid {gap low high start : ℤ} {n : ℕ} (hgap : 0 ≤ gap) (hfirst : start ≤ low)
    (hlast : high ≤ start + n * gap) : Covers gap low high (grid gap start n) := by
  constructor
  · refine (List.isChain_map _).mpr ((List.isChain_range_succ _ n).mpr fun m _ => ?_)
    rw [show start + (m.succ : ℤ) * gap = start + m * gap + gap by push_cast; ring]
    omega
  · exact ⟨start, by simp [grid, List.range_succ_eq_map], hfirst⟩
  · exact ⟨start + n * gap, by simp [grid, List.range_succ], hlast⟩

end OroEdge.Lib
