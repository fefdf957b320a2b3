import Mathlib.Algebra.Order.Field.Basic
import Mathlib.Data.List.Chain
import Mathlib.Data.List.Induction
import Mathlib.Tactic.Linarith
import Mathlib.Tactic.Ring
import OroEdge.Lib.Run

/-!
# Metering what is drawn from a tank

A meter is shown the level of a tank, and totals up what is drawn.  It knows the highest
level, its `peak`, and takes a level that is above the peak by more than a `threshold` for a
refill: then it carries over what has been drawn so far.  Smaller rises move the peak.  What
is drawn counts only while the meter is asked to count, and a negative peak is none.

* `total_le_drops`: the total is at most the sum of all falls of the level.
* `total_eq_drops_iff`: if the level falls at every step, or rises by more than the threshold,
  the total is that sum if and only if nothing is drawn after a refill that is not recognised.
-/

namespace OroEdge.Lib

variable {α : Type*} [Field α] [LinearOrder α]

/-- What the meter keeps: the level from which it counts down, the last level, what was drawn before
that peak, and the total. -/
structure Meter (α : Type*) where
  peak : α
  last : α
  carried : α
  total : α
  deriving DecidableEq, Repr

namespace Meter

/-- No level has been read. -/
def empty : Meter α := ⟨-1, -1, 0, 0⟩

/-- The first level of a meter becomes its peak. -/
def start (level : α) (m : Meter α) : Meter α :=
  if m.peak < 0 then { m with peak := level, last := level } else m

/-- A rise beyond the threshold is a refill: what was drawn from the old peak is carried over. -/
def track (threshold level : α) (m : Meter α) : Meter α :=
  if m.peak + threshold < level then
    { m with
      carried := if 0 < m.peak - m.last then m.carried + (m.peak - m.last) else m.carried
      peak := level
      last := level }
  else if m.peak < level then { m with peak := level }
  else m

/-- The total never falls. -/
def count (level : α) (counts : Bool) (m : Meter α) : Meter α :=
  let drawn := max 0 (m.carried + (m.peak - level))
  if counts ∧ m.total < drawn then { m with total := drawn } else m

/-- A level is shown, with whether it counts. -/
def read (threshold : α) (m : Meter α) (shown : α × Bool) : Meter α :=
  { ((m.start shown.1).track threshold shown.1).count shown.1 shown.2 with last := shown.1 }

/-- The meter after these levels. -/
def after (threshold : α) (shown : List (α × Bool)) : Meter α :=
  run (read threshold) empty shown

end Meter

/-! ## The falls of a level -/

/-- The sum of all falls from one level to the next. -/
def drops : List α → α
  | first :: second :: rest => max 0 (first - second) + drops (second :: rest)
  | _ => 0

/-- The fall from the last of the levels. -/
def fall (levels : List α) (level : α) : α :=
  match levels.getLast? with
  | some last => max 0 (last - level)
  | none => 0

theorem fall_nonneg (levels : List α) (level : α) : 0 ≤ fall levels level := by
  unfold fall
  split
  · exact le_max_left _ _
  · exact le_rfl

theorem fall_append_singleton (levels : List α) (last level : α) :
    fall (levels ++ [last]) level = max 0 (last - level) := by
  rw [fall, List.getLast?_concat]

theorem drops_append_singleton (levels : List α) (level : α) :
    drops (levels ++ [level]) = drops levels + fall levels level := by
  induction levels with
  | nil => simp [drops, fall]
  | cons first rest ih =>
      cases rest with
      | nil => simp [drops, fall]
      | cons second rest =>
          rw [List.cons_append, List.cons_append, drops, drops, add_assoc]
          rw [List.cons_append] at ih
          rw [ih]
          simp [fall]

theorem drops_nonneg [IsStrictOrderedRing α] (levels : List α) : 0 ≤ drops levels := by
  induction levels using List.reverseRecOn with
  | nil => exact le_rfl
  | append_singleton levels level ih =>
      rw [drops_append_singleton]
      exact add_nonneg ih (fall_nonneg levels level)

/-! ## One reading -/

namespace Meter

theorem after_append_singleton (threshold : α) (shown : List (α × Bool)) (next : α × Bool) :
    after threshold (shown ++ [next]) = read threshold (after threshold shown) next := by
  unfold after
  rw [run_append]
  rfl

/-- What has been drawn, as the meter sees it. -/
def drawn (m : Meter α) : α := m.carried + (m.peak - m.last)

theorem total_track (threshold level : α) (m : Meter α) :
    ((m.start level).track threshold level).total = m.total := by
  unfold track start
  split_ifs <;> rfl

theorem peak_count (level : α) (counts : Bool) (m : Meter α) :
    (m.count level counts).peak = m.peak ∧ (m.count level counts).carried = m.carried := by
  unfold count
  dsimp only
  split_ifs <;> exact ⟨rfl, rfl⟩

section

variable (threshold : α) (m : Meter α) (shown : α × Bool)

theorem peak_read :
    (m.read threshold shown).peak = ((m.start shown.1).track threshold shown.1).peak :=
  (peak_count ..).1

theorem drawn_read : (m.read threshold shown).drawn =
    ((m.start shown.1).track threshold shown.1).carried +
      (((m.start shown.1).track threshold shown.1).peak - shown.1) := by
  obtain ⟨hpeak, hcarried⟩ :=
    peak_count shown.1 shown.2 ((m.start shown.1).track threshold shown.1)
  rw [← hpeak, ← hcarried]
  rfl

/-- A total grows to what has been drawn, if that counts. -/
theorem total_read : (m.read threshold shown).total =
    if shown.2 then max m.total (max 0 (m.read threshold shown).drawn) else m.total := by
  rw [drawn_read, ← total_track threshold shown.1 m]
  show (((m.start shown.1).track threshold shown.1).count shown.1 shown.2).total = _
  unfold count
  dsimp only
  split_ifs with hgrows hcounts hcounts
  · exact (max_eq_right hgrows.2.le).symm
  · exact absurd hgrows.1 hcounts
  · exact (max_eq_left (not_lt.mp fun hlt => hgrows ⟨hcounts, hlt⟩)).symm
  · rfl

/-- A level that counts moves the total up to what has been drawn. -/
theorem total_read_true (level : α) : (m.read threshold (level, true)).total =
    max m.total (max 0 (m.read threshold (level, true)).drawn) :=
  total_read ..

theorem total_le_read : m.total ≤ (m.read threshold shown).total := by
  rw [total_read]
  split_ifs
  · exact le_max_left _ _
  · exact le_rfl

end

section

variable [IsStrictOrderedRing α] {threshold : α} {m : Meter α} (shown : α × Bool)

/-- Without a peak, a reading starts the meter. -/
theorem read_of_unset (hthreshold : 0 ≤ threshold) (hunset : m.peak < 0)
    (hcarried : m.carried = 0) :
    (m.read threshold shown).peak = shown.1 ∧ (m.read threshold shown).drawn = 0 := by
  have hstart : m.start shown.1 = { m with peak := shown.1, last := shown.1 } := if_pos hunset
  have hrefill : ¬ shown.1 + threshold < shown.1 := by linarith
  rw [peak_read, drawn_read, hstart, track]
  dsimp only
  rw [if_neg hrefill, if_neg (lt_irrefl _)]
  exact ⟨rfl, by rw [hcarried, sub_self, add_zero]⟩

/-- A refill that is recognised carries over what has been drawn. -/
theorem read_of_refill (hset : 0 ≤ m.peak) (hpeak : m.last ≤ m.peak)
    (hrefill : m.peak + threshold < shown.1) :
    (m.read threshold shown).peak = shown.1 ∧ (m.read threshold shown).drawn = m.drawn := by
  have hstart : m.start shown.1 = m := if_neg (not_lt.mpr hset)
  rw [peak_read, drawn_read, hstart, track, if_pos hrefill]
  refine ⟨rfl, ?_⟩
  dsimp only
  rw [sub_self, add_zero, drawn]
  split_ifs with hdrawn
  · rfl
  · linarith

omit [IsStrictOrderedRing α] in
/-- Any other level moves the peak up, if at all. -/
theorem read_of_not_refill (hset : 0 ≤ m.peak) (hrefill : ¬ m.peak + threshold < shown.1) :
    (m.read threshold shown).peak = max m.peak shown.1 ∧
      (m.read threshold shown).drawn = m.carried + (max m.peak shown.1 - shown.1) := by
  have hstart : m.start shown.1 = m := if_neg (not_lt.mpr hset)
  rw [peak_read, drawn_read, hstart, track, if_neg hrefill]
  split_ifs with hrise
  · rw [max_eq_right hrise.le]
    exact ⟨rfl, rfl⟩
  · rw [max_eq_left (not_lt.mp hrise)]
    exact ⟨rfl, rfl⟩

end

/-! ## No more than the falls -/

/-- What a meter that has been shown the levels keeps. -/
structure Sound (levels : List α) (m : Meter α) : Prop where
  last : ∀ level ∈ levels.getLast?, m.last = level
  le_peak : m.last ≤ m.peak
  unset : m.peak < 0 → m.carried = 0
  set : 0 ≤ m.peak → levels ≠ []
  drawn_le : m.drawn ≤ drops levels
  total_le : m.total ≤ drops levels

section

variable [IsStrictOrderedRing α] {threshold : α} {levels : List α} {m : Meter α}

theorem sound_empty : Sound [] (empty : Meter α) where
  last level hlevel := by cases hlevel
  le_peak := le_rfl
  unset _ := rfl
  set hset := by
    have hneg : ¬ (0 : α) ≤ -1 := by linarith
    exact absurd hset hneg
  drawn_le := by simp [drawn, empty, drops]
  total_le := le_rfl

omit [IsStrictOrderedRing α] in
/-- The fall to a level, as a meter sees it that has been set. -/
theorem Sound.fall_eq (hsound : Sound levels m) (hset : 0 ≤ m.peak) (level : α) :
    fall levels level = max 0 (m.last - level) := by
  rcases levels.eq_nil_or_concat with hnil | ⟨earlier, last, rfl⟩
  · exact absurd hnil (hsound.set hset)
  · rw [List.concat_eq_append] at hsound ⊢
    rw [fall_append_singleton, hsound.last last (by rw [List.getLast?_concat]; rfl)]

/-- What has been drawn grows by no more than the fall of the level. -/
theorem Sound.drawn_read_le (hsound : Sound levels m) (hthreshold : 0 ≤ threshold)
    (shown : α × Bool) :
    shown.1 ≤ (m.read threshold shown).peak ∧
      (m.read threshold shown).drawn ≤ drops levels + fall levels shown.1 := by
  rcases lt_or_ge m.peak 0 with hunset | hset
  · obtain ⟨hpeak, hdrawn⟩ := read_of_unset shown hthreshold hunset (hsound.unset hunset)
    rw [hpeak, hdrawn]
    exact ⟨le_rfl, add_nonneg (drops_nonneg levels) (fall_nonneg levels shown.1)⟩
  have hdrawn_le := hsound.drawn_le
  rw [hsound.fall_eq hset]
  have hzero := le_max_left 0 (m.last - shown.1)
  have hfall := le_max_right 0 (m.last - shown.1)
  by_cases hrefill : m.peak + threshold < shown.1
  · obtain ⟨hpeak, hdrawn⟩ := read_of_refill shown hset hsound.le_peak hrefill
    rw [hpeak, hdrawn]
    exact ⟨le_rfl, by linarith⟩
  · obtain ⟨hpeak, hdrawn⟩ := read_of_not_refill shown hset hrefill
    rw [hpeak, hdrawn]
    refine ⟨le_max_right _ _, ?_⟩
    unfold drawn at hdrawn_le
    rcases le_total m.peak shown.1 with hrise | hrise
    · rw [max_eq_right hrise]
      have hle_peak := hsound.le_peak
      linarith
    · rw [max_eq_left hrise]
      linarith

/-- A peak never comes down. -/
theorem Sound.peak_le_read (hsound : Sound levels m) (hthreshold : 0 ≤ threshold)
    (hset : 0 ≤ m.peak) (shown : α × Bool) : m.peak ≤ (m.read threshold shown).peak := by
  by_cases hrefill : m.peak + threshold < shown.1
  · rw [(read_of_refill shown hset hsound.le_peak hrefill).1]
    linarith
  · rw [(read_of_not_refill shown hset hrefill).1]
    exact le_max_left _ _

theorem Sound.read (hsound : Sound levels m) (hthreshold : 0 ≤ threshold) (shown : α × Bool) :
    Sound (levels ++ [shown.1]) (m.read threshold shown) := by
  obtain ⟨hpeak, hdrawn⟩ := hsound.drawn_read_le hthreshold shown
  constructor
  · intro level hlevel
    rw [List.getLast?_concat] at hlevel
    exact Option.some.inj hlevel
  · exact hpeak
  · intro hneg
    have hunset : m.peak < 0 := by
      by_contra hset
      rw [not_lt] at hset
      exact absurd (hset.trans (hsound.peak_le_read hthreshold hset shown)) (not_le.mpr hneg)
    obtain ⟨hlevel, hnone⟩ :=
      read_of_unset shown hthreshold hunset (hsound.unset hunset)
    have hsplit : (m.read threshold shown).drawn = (m.read threshold shown).carried +
        ((m.read threshold shown).peak - shown.1) := rfl
    rw [hnone, hlevel, sub_self, add_zero] at hsplit
    exact hsplit.symm
  · intro _
    simp
  · rw [drops_append_singleton]
    exact hdrawn
  · have htotal := hsound.total_le
    have hfall := fall_nonneg levels shown.1
    rw [drops_append_singleton, total_read]
    split_ifs
    · refine max_le (by linarith) (max_le ?_ hdrawn)
      exact add_nonneg (drops_nonneg levels) hfall
    · linarith

theorem sound_after (hthreshold : 0 ≤ threshold) (shown : List (α × Bool)) :
    Sound (shown.map Prod.fst) (after threshold shown) := by
  induction shown using List.reverseRecOn with
  | nil => exact sound_empty
  | append_singleton shown next ih =>
      rw [after_append_singleton, List.map_append]
      exact ih.read hthreshold next

/-- **No more than the falls.** -/
theorem total_le_drops (hthreshold : 0 ≤ threshold) (shown : List (α × Bool)) :
    (after threshold shown).total ≤ drops (shown.map Prod.fst) :=
  (sound_after hthreshold shown).total_le

end

end Meter

/-! ## Refills that are not recognised -/

section

variable (threshold : α)

/-- The level rises, but not by more than the threshold above every level before. -/
def Unrecognised (earlier : List α) (level : α) : Prop :=
  (∃ last ∈ earlier.getLast?, last < level) ∧ ∃ high ∈ earlier, level ≤ high + threshold

/-- No refill is taken for noise. -/
def AllRecognised (levels : List α) : Prop :=
  ∀ earlier level later, levels = earlier ++ level :: later → ¬ Unrecognised threshold earlier level

/-- Nothing is drawn after a refill that is not recognised: the level does not fall again. -/
def NoneDrawnAfter (levels : List α) : Prop :=
  ∀ earlier level later, levels = earlier ++ level :: later → Unrecognised threshold earlier level →
    (level :: later).IsChain (· ≤ ·)

/-- Every step is a fall, or a rise by more than the threshold. -/
def FallsOrRefills (levels : List α) : Prop :=
  levels.IsChain fun level next => next < level ∨ level + threshold < next

variable {threshold} {levels : List α} {level last : α}

theorem allRecognised_append_singleton : AllRecognised threshold (levels ++ [level]) ↔
    AllRecognised threshold levels ∧ ¬ Unrecognised threshold levels level := by
  constructor
  · intro hall
    refine ⟨?_, hall levels level [] rfl⟩
    rintro earlier level' later rfl
    exact hall earlier level' (later ++ [level]) (by simp)
  · rintro ⟨hall, hlast⟩ earlier level' later hsplit
    rcases append_singleton_eq_split hsplit with ⟨rfl, -, rfl⟩ | ⟨before, -, rfl⟩
    · exact hlast
    · exact hall earlier level' before rfl

/-- One level more: it does not fall, or there has been no such refill. -/
theorem noneDrawnAfter_append_singleton (hlast : levels.getLast? = some last) :
    NoneDrawnAfter threshold (levels ++ [level]) ↔
      NoneDrawnAfter threshold levels ∧ (AllRecognised threshold levels ∨ last ≤ level) := by
  constructor
  · intro hnone
    constructor
    · rintro earlier level' later rfl hunrecognised
      have hchain := hnone earlier level' (later ++ [level]) (by simp) hunrecognised
      rw [← List.cons_append] at hchain
      exact (List.isChain_append.mp hchain).1
    · by_contra hneither
      rw [not_or] at hneither
      obtain ⟨hsome, hfalls⟩ := hneither
      apply hsome
      rintro earlier level' later rfl hunrecognised
      have hchain := hnone earlier level' (later ++ [level]) (by simp) hunrecognised
      rw [← List.cons_append] at hchain
      rw [List.getLast?_append_of_ne_nil _ (List.cons_ne_nil _ _)] at hlast
      exact hfalls ((List.isChain_append.mp hchain).2.2 last hlast level rfl)
  · rintro ⟨hnone, hrise⟩ earlier level' later hsplit hunrecognised
    rcases append_singleton_eq_split hsplit with ⟨-, rfl, -⟩ | ⟨before, rfl, rfl⟩
    · exact List.isChain_singleton _
    · rw [← List.cons_append]
      refine List.isChain_append.mpr ⟨hnone earlier level' before rfl hunrecognised,
        List.isChain_singleton _, ?_⟩
      intro x hx y hy
      rw [List.getLast?_append_of_ne_nil _ (List.cons_ne_nil _ _)] at hlast
      obtain rfl := Option.some.inj (hx.symm.trans hlast)
      obtain rfl := Option.some.inj hy
      rcases hrise with hall | hrise
      · exact absurd hunrecognised (hall earlier level' before rfl)
      · exact hrise

/-- Without such a refill, nothing is drawn after one. -/
theorem AllRecognised.noneDrawnAfter (hall : AllRecognised threshold levels) :
    NoneDrawnAfter threshold levels :=
  fun earlier level later hsplit hunrecognised =>
    absurd hunrecognised (hall earlier level later hsplit)

end

/-! ## Exactly the falls -/

namespace Meter

/-- What a meter keeps that counts everything, of levels that fall or rise by more than the
threshold. -/
structure Exact (threshold : α) (levels : List α) (m : Meter α) : Prop where
  set : 0 ≤ m.peak
  last : levels.getLast? = some m.last
  le_peak : m.last ≤ m.peak
  peak_mem : m.peak ∈ levels
  le_of_mem : ∀ level ∈ levels, level ≤ m.peak
  drawn_le : m.drawn ≤ m.total
  nonneg : 0 ≤ m.total
  total_le : m.total ≤ drops levels
  drawn_eq : AllRecognised threshold levels → m.drawn = drops levels
  drawn_lt : ¬ AllRecognised threshold levels → m.drawn < drops levels
  total_eq : m.total = drops levels ↔ NoneDrawnAfter threshold levels

section

variable [IsStrictOrderedRing α] {threshold : α} (hthreshold : 0 ≤ threshold) {levels : List α}
  {m : Meter α} {level : α}
include hthreshold

theorem exact_first (hlevel : 0 ≤ level) :
    Exact threshold [level] (empty.read threshold (level, true)) := by
  have hunset : (empty : Meter α).peak < 0 := by
    show (-1 : α) < 0
    linarith
  obtain ⟨hpeak, hdrawn⟩ := read_of_unset (level, true) hthreshold hunset rfl
  have htotal : (empty.read threshold (level, true)).total = 0 := by
    rw [total_read, hdrawn, max_self]
    exact max_self 0
  have hall : AllRecognised threshold [level] := by
    rintro earlier level' later hsplit ⟨⟨last, hlast, -⟩, -⟩
    have hsplit : [] ++ [level] = earlier ++ level' :: later := hsplit
    rcases append_singleton_eq_split hsplit with ⟨-, -, rfl⟩ | ⟨before, -, hnil⟩
    · cases hlast
    · simp at hnil
  constructor
  · rw [hpeak]
    exact hlevel
  · rfl
  · rw [hpeak]
    exact le_rfl
  · rw [hpeak]
    exact List.mem_singleton_self level
  · intro level' hlevel'
    rw [hpeak, List.mem_singleton.mp hlevel']
  · rw [hdrawn, htotal]
  · rw [htotal]
  · rw [htotal]
    exact drops_nonneg _
  · intro _
    rw [hdrawn]
    rfl
  · exact fun hnot => absurd hall hnot
  · rw [htotal]
    exact iff_of_true rfl hall.noneDrawnAfter

omit hthreshold in
/-- A rise is recognised if and only if it goes beyond the peak by more than the threshold. -/
theorem Exact.unrecognised_iff (hexact : Exact threshold levels m) (hrise : m.last < level) :
    Unrecognised threshold levels level ↔ ¬ m.peak + threshold < level := by
  constructor
  · rintro ⟨-, high, hhigh, hle⟩
    have hpeak := hexact.le_of_mem high hhigh
    exact not_lt.mpr (by linarith)
  · intro hnot
    exact ⟨⟨m.last, hexact.last, hrise⟩, m.peak, hexact.peak_mem, not_lt.mp hnot⟩

omit hthreshold in
/-- The fields about the peak go along with it. -/
theorem Exact.snoc (hexact : Exact threshold levels m)
    (hpeak : (m.read threshold (level, true)).peak = max m.peak level)
    (heq : AllRecognised threshold (levels ++ [level]) →
      (m.read threshold (level, true)).drawn = drops (levels ++ [level]))
    (hlt : ¬ AllRecognised threshold (levels ++ [level]) →
      (m.read threshold (level, true)).drawn < drops (levels ++ [level]))
    (hiff : (m.read threshold (level, true)).total = drops (levels ++ [level]) ↔
      NoneDrawnAfter threshold (levels ++ [level])) :
    Exact threshold (levels ++ [level]) (m.read threshold (level, true)) := by
  have hdrops : drops levels ≤ drops (levels ++ [level]) := by
    rw [drops_append_singleton]
    exact le_add_of_nonneg_right (fall_nonneg levels level)
  constructor
  · rw [hpeak]
    exact hexact.set.trans (le_max_left _ _)
  · exact List.getLast?_concat
  · rw [hpeak]
    exact le_max_right _ _
  · rw [hpeak, List.mem_append, List.mem_singleton]
    rcases max_choice m.peak level with hmax | hmax <;> rw [hmax]
    · exact Or.inl hexact.peak_mem
    · exact Or.inr rfl
  · intro level' hlevel'
    rw [hpeak]
    rcases List.mem_append.mp hlevel' with hearlier | hnew
    · exact (hexact.le_of_mem level' hearlier).trans (le_max_left _ _)
    · rw [List.mem_singleton.mp hnew]
      exact le_max_right _ _
  · rw [total_read_true]
    exact (le_max_right _ _).trans (le_max_right _ _)
  · rw [total_read_true]
    exact hexact.nonneg.trans (le_max_left _ _)
  · rw [total_read_true]
    refine max_le (hexact.total_le.trans hdrops) (max_le (drops_nonneg _) ?_)
    by_cases hall : AllRecognised threshold (levels ++ [level])
    · exact (heq hall).le
    · exact (hlt hall).le
  · exact heq
  · exact hlt
  · exact hiff

omit hthreshold in
theorem Exact.drops_of_fall (hexact : Exact threshold levels m) (hfall : level < m.last) :
    drops (levels ++ [level]) = drops levels + (m.last - level) := by
  rw [drops_append_singleton, fall, hexact.last]
  exact congrArg _ (max_eq_right (by linarith))

omit hthreshold in
theorem Exact.drops_of_rise (hexact : Exact threshold levels m) (hrise : m.last < level) :
    drops (levels ++ [level]) = drops levels := by
  rw [drops_append_singleton, fall, hexact.last]
  exact (congrArg _ (max_eq_left (by linarith))).trans (add_zero _)

omit hthreshold in
/-- A fall is no refill. -/
theorem Exact.allRecognised_of_fall (hexact : Exact threshold levels m) (hfall : level < m.last) :
    AllRecognised threshold (levels ++ [level]) ↔ AllRecognised threshold levels := by
  rw [allRecognised_append_singleton]
  refine and_iff_left ?_
  rintro ⟨⟨last, hlast, hrise⟩, -⟩
  obtain rfl := Option.some.inj (hexact.last.symm.trans hlast)
  linarith

/-- A fall is drawn. -/
theorem Exact.drawn_of_fall (hexact : Exact threshold levels m) (hfall : level < m.last) :
    (m.read threshold (level, true)).peak = max m.peak level ∧
      (m.read threshold (level, true)).drawn = m.drawn + (m.last - level) := by
  have hle_peak := hexact.le_peak
  have hbelow : level ≤ m.peak := by linarith
  have hrefill : ¬ m.peak + threshold < level := not_lt.mpr (by linarith)
  obtain ⟨hpeak, hdrawn⟩ := read_of_not_refill (level, true) hexact.set hrefill
  refine ⟨hpeak, ?_⟩
  rw [hdrawn, max_eq_left hbelow, drawn]
  ring

/-- After a fall, the total is the sum of all falls unless there has been a refill that was not
recognised. -/
theorem Exact.total_of_fall (hexact : Exact threshold levels m) (hfall : level < m.last) :
    (m.read threshold (level, true)).total = drops (levels ++ [level]) ↔
      AllRecognised threshold levels := by
  have htotal_le := hexact.total_le
  have hnonneg := drops_nonneg levels
  rw [total_read_true, (hexact.drawn_of_fall hthreshold hfall).2, hexact.drops_of_fall hfall]
  constructor
  · intro heq
    by_contra hnot
    have hless := hexact.drawn_lt hnot
    have hshort : max m.total (max 0 (m.drawn + (m.last - level))) <
        drops levels + (m.last - level) :=
      max_lt (by linarith) (max_lt (by linarith) (by linarith))
    linarith
  · intro hrecognised
    have hpositive : 0 ≤ drops levels + (m.last - level) := by linarith
    rw [hexact.drawn_eq hrecognised, max_eq_right hpositive]
    exact max_eq_right (by linarith)

/-- A fall is drawn, and counted unless there has been a refill that was not recognised. -/
theorem Exact.read_of_fall (hexact : Exact threshold levels m) (hfall : level < m.last) :
    Exact threshold (levels ++ [level]) (m.read threshold (level, true)) := by
  obtain ⟨hpeak, hdrawn⟩ := hexact.drawn_of_fall hthreshold hfall
  have hall := hexact.allRecognised_of_fall hfall
  have hdrops := hexact.drops_of_fall hfall
  refine hexact.snoc hpeak (fun hrecognised => ?_) (fun hnot => ?_) ?_
  · rw [hdrawn, hdrops, hexact.drawn_eq (hall.mp hrecognised)]
  · have hless := hexact.drawn_lt (mt hall.mpr hnot)
    rw [hdrawn, hdrops]
    linarith
  · rw [hexact.total_of_fall hthreshold hfall, noneDrawnAfter_append_singleton hexact.last,
      or_iff_left (not_le.mpr hfall)]
    exact ⟨fun hrecognised => ⟨hrecognised.noneDrawnAfter, hrecognised⟩, And.right⟩

omit hthreshold in
/-- After a rise that draws nothing, the total is the sum of all falls if it was before. -/
theorem Exact.total_of_rise (hexact : Exact threshold levels m) (hrise : m.last < level)
    (hdrawn : (m.read threshold (level, true)).drawn ≤ m.drawn) :
    (m.read threshold (level, true)).total = drops (levels ++ [level]) ↔
      NoneDrawnAfter threshold (levels ++ [level]) := by
  have hkeeps : (m.read threshold (level, true)).total = m.total := by
    rw [total_read_true]
    exact max_eq_left (max_le hexact.nonneg (hdrawn.trans hexact.drawn_le))
  rw [hkeeps, hexact.drops_of_rise hrise, noneDrawnAfter_append_singleton hexact.last,
    and_iff_left (Or.inr hrise.le)]
  exact hexact.total_eq

/-- A refill that is recognised loses nothing. -/
theorem Exact.read_of_refill (hexact : Exact threshold levels m)
    (hrise : m.last + threshold < level) (hrefill : m.peak + threshold < level) :
    Exact threshold (levels ++ [level]) (m.read threshold (level, true)) := by
  have habove : m.peak ≤ level := by linarith
  have hlast : m.last < level := by linarith
  obtain ⟨hpeak, hdrawn⟩ := Meter.read_of_refill (level, true) hexact.set hexact.le_peak hrefill
  have hall : AllRecognised threshold (levels ++ [level]) ↔ AllRecognised threshold levels := by
    rw [allRecognised_append_singleton, hexact.unrecognised_iff hlast, not_not]
    exact and_iff_left hrefill
  refine hexact.snoc (hpeak.trans (max_eq_right habove).symm) (fun hrecognised => ?_)
    (fun hnot => ?_) (hexact.total_of_rise hlast hdrawn.le)
  · rw [hdrawn, hexact.drops_of_rise hlast]
    exact hexact.drawn_eq (hall.mp hrecognised)
  · rw [hdrawn, hexact.drops_of_rise hlast]
    exact hexact.drawn_lt (mt hall.mpr hnot)

/-- After a rise that stays below the peak, or little above, what has been drawn is forgotten in
part. -/
theorem Exact.read_of_unrecognised (hexact : Exact threshold levels m)
    (hrise : m.last + threshold < level) (hrefill : ¬ m.peak + threshold < level) :
    Exact threshold (levels ++ [level]) (m.read threshold (level, true)) := by
  have hlast : m.last < level := by linarith
  obtain ⟨hpeak, hdrawn⟩ := read_of_not_refill (level, true) hexact.set hrefill
  have hnot : ¬ AllRecognised threshold (levels ++ [level]) := by
    rw [allRecognised_append_singleton, hexact.unrecognised_iff hlast, not_not]
    exact fun hboth => hrefill hboth.2
  have hless : (m.read threshold (level, true)).drawn < m.drawn := by
    rw [hdrawn, drawn]
    rcases le_total m.peak level with habove | hbelow
    · rw [max_eq_right habove]
      linarith
    · rw [max_eq_left hbelow]
      linarith
  have hdrawn_le : m.drawn ≤ drops levels := hexact.drawn_le.trans hexact.total_le
  refine hexact.snoc hpeak (fun hrecognised => absurd hrecognised hnot) (fun _ => ?_)
    (hexact.total_of_rise hlast hless.le)
  rw [hexact.drops_of_rise hlast]
  exact hless.trans_le hdrawn_le

theorem exact_after (first : α) (rest : List α) (hfirst : 0 ≤ first)
    (hsteps : FallsOrRefills threshold (first :: rest)) :
    Exact threshold (first :: rest)
      (after threshold ((first :: rest).map fun level => (level, true))) := by
  induction rest using List.reverseRecOn with
  | nil => exact exact_first hthreshold hfirst
  | append_singleton rest level ih =>
      rw [← List.cons_append] at hsteps ⊢
      obtain ⟨hearlier, -, hstep⟩ := List.isChain_append.mp hsteps
      have hexact := ih hearlier
      rw [List.map_append, List.map_singleton, after_append_singleton]
      rcases hstep _ hexact.last level rfl with hfall | hrise
      · exact hexact.read_of_fall hthreshold hfall
      · by_cases hrefill : (after threshold ((first :: rest).map fun level => (level, true))).peak +
            threshold < level
        · exact hexact.read_of_refill hthreshold hrise hrefill
        · exact hexact.read_of_unrecognised hthreshold hrise hrefill

/-- **Exactly the falls.** -/
theorem total_eq_drops_iff {levels : List α} (hnonneg : ∀ level ∈ levels, 0 ≤ level)
    (hsteps : FallsOrRefills threshold levels) :
    (after threshold (levels.map fun level => (level, true))).total = drops levels ↔
      NoneDrawnAfter threshold levels := by
  cases levels with
  | nil =>
      refine iff_of_true rfl fun earlier level later hsplit => ?_
      simp at hsplit
  | cons first rest =>
      exact (exact_after hthreshold first rest (hnonneg first List.mem_cons_self) hsteps).total_eq

end

end Meter

end OroEdge.Lib
