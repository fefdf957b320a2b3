import OroEdge.Lib.Calendar

/-!
# Cron patterns

The fragment of the crontab language with the fields `*`, `*/n` and a single
value.  A pattern matches the minutes of local time whose fields all match; the
job of a line is started within each minute that its pattern matches.

Points are evenly spaced if each is followed by the next one after the same gap
(`Spaced`); they are then those that differ from one of them by multiples of the gap
(`Spaced.dvd_sub`).

A pattern is a predicate on points of local time (`Pattern.fires`), not a list of starts:
whether a job is started often enough, or at even gaps, is a statement about the set of points
at which the predicate holds.  `Pattern.fires_minute` reduces it to the fields: at the start of
a minute, only the minute, the hour and the weekday of that point count, as far as the fragment
goes.

To be evenly spaced is then a property of such a set, with no count of its points.  The
induction of `Spaced.dvd_sub` is on the number of gaps between two points, so a set that is
spaced by a gap can be told from every other gap by two of its points.
-/

namespace OroEdge.Lib.Cron

/-- A field of a pattern: `*`, `*/n` or a number. -/
inductive Field
  | any
  | every (n : ℕ)
  | value (n : ℕ)
  deriving DecidableEq, Repr

/-- `*/n` matches the multiples of `n`. -/
def Field.matches : Field → ℤ → Bool
  | .any, _ => true
  | .every n, x => x % n = 0
  | .value n, x => x = n

@[simp] theorem Field.any_matches (x : ℤ) : Field.any.matches x = true := rfl

@[simp] theorem Field.value_matches (n : ℕ) (x : ℤ) :
    (Field.value n).matches x = decide (x = n) := rfl

/-- A field as it is written. -/
def Field.render : Field → String
  | .any => "*"
  | .every n => "*/" ++ toString n
  | .value n => toString n

/-- The five fields of a line. -/
structure Pattern where
  minute : Field
  hour : Field
  dayOfMonth : Field
  month : Field
  dayOfWeek : Field
  deriving DecidableEq, Repr

/-- The fields with a blank between them. -/
def Pattern.render (p : Pattern) : String :=
  " ".intercalate [p.minute.render, p.hour.render, p.dayOfMonth.render, p.month.render,
    p.dayOfWeek.render]

/-- The pattern matches the minute that contains the local time `local`. -/
def Pattern.fires (p : Pattern) (localMicros : ℤ) : Bool :=
  let date := civilDate (dayOf localMicros)
  p.minute.matches (timeOfDay localMicros / minuteMicros % 60) &&
    p.hour.matches (timeOfDay localMicros / hourMicros) &&
    p.dayOfMonth.matches date.day && p.month.matches date.month &&
    p.dayOfWeek.matches (weekday (dayOf localMicros))

/-- The fields of a pattern at the start of a minute. -/
theorem Pattern.fires_minute (p : Pattern) (t : ℤ) :
    p.fires (t * minuteMicros) =
      (p.minute.matches (t % 60) && p.hour.matches (t % 1440 / 60) &&
        p.dayOfMonth.matches (civilDate (t / 1440)).day &&
        p.month.matches (civilDate (t / 1440)).month &&
        p.dayOfWeek.matches ((t / 1440 + 4) % 7)) := by
  have hday : dayOf (t * minuteMicros) = t / 1440 := by
    unfold dayOf minuteMicros dayMicros
    omega
  have hminute : timeOfDay (t * minuteMicros) / minuteMicros % 60 = t % 60 := by
    unfold timeOfDay minuteMicros dayMicros
    omega
  have hhour : timeOfDay (t * minuteMicros) / hourMicros = t % 1440 / 60 := by
    unfold timeOfDay hourMicros minuteMicros dayMicros
    omega
  unfold fires weekday
  rw [hday, hminute, hhour]

end OroEdge.Lib.Cron

namespace OroEdge.Lib

/-! ## Spacing -/

/-- There are points, and each is followed by the next one after the gap. -/
structure Spaced (points : ℤ → Prop) (gap : ℤ) : Prop where
  nonempty : ∃ t, points t
  next : ∀ t, points t → points (t + gap)
  between : ∀ t u, points t → t < u → u < t + gap → ¬ points u

variable {points : ℤ → Prop} {gap : ℤ}

theorem spaced_of_iff_dvd {start : ℤ} (hpoints : ∀ t, points t ↔ gap ∣ t - start) :
    Spaced points gap := by
  refine ⟨⟨start, (hpoints start).mpr (by simp)⟩, fun t ht => ?_, fun t u ht htu hu hpoint => ?_⟩
  · rw [hpoints] at ht ⊢
    rw [add_sub_right_comm]
    exact Int.dvd_add ht (Int.dvd_refl gap)
  · have hdvd : gap ∣ u - t := by
      have hsub := Int.dvd_sub ((hpoints u).mp hpoint) ((hpoints t).mp ht)
      rwa [sub_sub_sub_cancel_right] at hsub
    have hle := Int.le_of_dvd (by omega) hdvd
    omega

theorem Spaced.multiple (hspaced : Spaced points gap) {t : ℤ} (ht : points t) (n : ℕ) :
    points (t + n * gap) := by
  induction n with
  | zero => simpa using ht
  | succ n ih =>
      have hnext := hspaced.next _ ih
      have hassoc : t + ((n + 1 : ℕ) : ℤ) * gap = t + n * gap + gap := by
        push_cast
        rw [add_mul, one_mul, add_assoc]
      rwa [hassoc]

/-- Later points come after multiples of the gap. -/
theorem Spaced.dvd_sub (hspaced : Spaced points gap) (hgap : 0 < gap) {t u : ℤ} (ht : points t)
    (hu : points u) (hle : t ≤ u) : gap ∣ u - t := by
  have hsplit := Int.emod_add_mul_ediv (u - t) gap
  have hlow := Int.emod_nonneg (u - t) hgap.ne'
  have hhigh := Int.emod_lt_of_pos (u - t) hgap
  have hquotient : 0 ≤ (u - t) / gap := Int.ediv_nonneg (by omega) hgap.le
  -- the last of the multiples that is not after `u`
  have hlast := hspaced.multiple ht ((u - t) / gap).toNat
  rw [Int.toNat_of_nonneg hquotient, mul_comm] at hlast
  by_contra hdvd
  have hrest : (u - t) % gap ≠ 0 := fun h => hdvd (Int.dvd_of_emod_eq_zero h)
  exact hspaced.between _ u hlast (by omega) (by omega) hu

end OroEdge.Lib
