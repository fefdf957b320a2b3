import Mathlib.Tactic.Linarith
import OroEdge.Wellbeing.Refill

/-!
# Servings

A reading of a bowl that exceeds the one before by more than 10 g is a serving, and is to be
recorded with the difference (`RecordsServings`).  A bowl that has never been read is tracked
with weight 0, like one that has been read empty; so the servings are recorded exactly as long
as none goes into an empty bowl (`recordsServings_iff`).

Food that is poured slowly comes in steps, each judged for itself.  What is recorded of a pour
is the sum of its steps of more than 10 g, and it comes to the whole pour, give or take 10 g,
exactly if the other steps come to 10 g at most (`withinTenGrams_iff`).

One reading is compared with the weight that is tracked, which is the reading before or 0
(`handedOver_bowlWeight`), and so the first theorem is a comparison of two conditions on one
reading.  The second is a sum.  The steps of a pour add up to the pour, those of more than 10 g
are recorded, and the difference of what is poured and what is recorded is the sum of the others
(`recordedFood_eq`), which are not negative as the readings never fall.
-/

namespace OroEdge.Wellbeing

open OroEdge.Lib DogWellbeingMonitor

/-! ## Every serving -/

/-- The records of a reading that follows another one, if any. -/
def servingRecords (settings : Settings) (bowlId : String) (previous : Option ℚ) (weight : ℚ)
    (now : ℕ) : List SignalRecord :=
  match previous with
  | some previous =>
      if previous + 10 < weight then
        [servedFoodRecord settings bowlId (weight - previous) now,
          servedConfirmationRecord settings bowlId now]
      else []
  | none => []

/-- A reading hands over the two records of a serving if it exceeds the reading of the bowl
before by more than 10 g, and nothing otherwise. -/
def RecordsServings (settings : Settings) (calls : List Call) : Prop :=
  ∀ earlier bowlId weight now later, calls = earlier ++ .bowlWeight bowlId weight now :: later →
    handedOver settings earlier (.bowlWeight bowlId weight now) =
      servingRecords settings bowlId (readings bowlId earlier).getLast? weight now

/-- No reading of more than 10 g comes right after a reading of 0 g of its bowl. -/
def NoneIntoEmptyBowl (calls : List Call) : Prop :=
  ∀ earlier bowlId weight now later, calls = earlier ++ .bowlWeight bowlId weight now :: later →
    (readings bowlId earlier).getLast? = some 0 → weight ≤ 10

section

variable (settings : Settings) (earlier : List Call) (bowlId : String) (weight : ℚ) (now : ℕ)

/-- An empty bowl is taken for one that has not been read. -/
theorem handedOver_bowlWeight : handedOver settings earlier (.bowlWeight bowlId weight now) =
    if (readings bowlId earlier).getLast? = some 0 then []
    else servingRecords settings bowlId (readings bowlId earlier).getLast? weight now := by
  rw [handedOver, DogWellbeingMonitor.call, updateBowlWeight, currentWeight_after, lastReading]
  cases (readings bowlId earlier).getLast? with
  | none => rfl
  | some previous =>
      rw [Option.getD_some]
      by_cases hempty : previous = 0
      · rw [if_pos hempty, if_pos (congrArg some hempty)]
      · have hsome : some previous ≠ some 0 := by simpa using hempty
        rw [if_neg hempty, if_neg hsome]
        rfl

theorem handedOver_eq_servingRecords_iff :
    handedOver settings earlier (.bowlWeight bowlId weight now) =
        servingRecords settings bowlId (readings bowlId earlier).getLast? weight now ↔
      ((readings bowlId earlier).getLast? = some 0 → weight ≤ 10) := by
  rw [handedOver_bowlWeight]
  by_cases hempty : (readings bowlId earlier).getLast? = some 0
  · rw [if_pos hempty, hempty, servingRecords, zero_add]
    by_cases hserved : 10 < weight
    · rw [if_pos hserved]
      exact iff_of_false (List.cons_ne_nil _ _).symm fun hle => not_le.mpr hserved (hle rfl)
    · rw [if_neg hserved]
      exact iff_of_true rfl fun _ => not_lt.mp hserved
  · rw [if_neg hempty]
    exact iff_of_true rfl fun hzero => absurd hzero hempty

end

/-- **Servings, exactly.** -/
theorem recordsServings_iff (settings : Settings) (calls : List Call) :
    RecordsServings settings calls ↔ NoneIntoEmptyBowl calls := by
  unfold RecordsServings NoneIntoEmptyBowl
  refine forall_congr' fun earlier => forall_congr' fun bowlId => forall_congr' fun weight =>
    forall_congr' fun now => forall_congr' fun later => forall_congr' fun _ => ?_
  exact handedOver_eq_servingRecords_iff settings earlier bowlId weight now

/-- A bowl that is read empty and then filled. -/
def emptyBowl : List Call :=
  [.bowlWeight "bowl_1" 200 1000, .bowlWeight "bowl_1" 0 2000, .bowlWeight "bowl_1" 200 3000]

/-- **Failing input.**  Two hundred grams go into the empty bowl, and nothing is recorded. -/
theorem not_recordsServings_emptyBowl : ¬ RecordsServings tankOnly emptyBowl := by
  intro hrecords
  have hserved := hrecords [.bowlWeight "bowl_1" 200 1000, .bowlWeight "bowl_1" 0 2000] "bowl_1"
    200 3000 [] rfl
  have hnone := (handedOver_eq_servingRecords_iff ..).mp hserved (by decide +kernel)
  exact absurd hnone (by decide +kernel)

/-! ## A pour -/

/-- The food that the records tell of. -/
def servedFood (records : List SignalRecord) : ℚ :=
  ((recordsOf "served_food_quantity" records).map fun record =>
    record.signalValueNumeric.getD 0).sum

/-- The readings of a bowl during a pour. -/
def pour (bowlId : String) (samples : List (ℚ × ℕ)) : List Call :=
  samples.map fun sample => .bowlWeight bowlId sample.1 sample.2

/-- What is recorded of a pour after the `earlier` calls. -/
def recordedFood (settings : Settings) (earlier : List Call) (bowlId : String)
    (samples : List (ℚ × ℕ)) : ℚ :=
  servedFood (Node.after settings (earlier ++ pour bowlId samples)).emitted -
    servedFood (Node.after settings earlier).emitted

/-- The steps of at most 10 g. -/
def smallSteps : List ℚ → ℚ
  | first :: second :: rest =>
      (if first + 10 < second then 0 else second - first) + smallSteps (second :: rest)
  | _ => 0

/-- The readings of a pour never fall, from a weight that is tracked to one that is more than
10 g higher. -/
structure Pours (earlier : List Call) (bowlId : String) (first last : ℚ)
    (samples : List (ℚ × ℕ)) : Prop where
  tracked : (readings bowlId earlier).getLast? = some first
  positive : 0 < first
  rising : (first :: samples.map Prod.fst).IsChain (· ≤ ·)
  ends : (first :: samples.map Prod.fst).getLast? = some last
  grows : first + 10 < last

/-- What is recorded differs from what is poured by at most 10 g. -/
def WithinTenGrams (settings : Settings) (earlier : List Call) (bowlId : String) (first last : ℚ)
    (samples : List (ℚ × ℕ)) : Prop :=
  |recordedFood settings earlier bowlId samples - (last - first)| ≤ 10

section

variable {settings : Settings} {earlier : List Call} {bowlId : String} {first last weight : ℚ}
  {samples : List (ℚ × ℕ)} {now : ℕ}

theorem servedFood_append (records records' : List SignalRecord) :
    servedFood (records ++ records') = servedFood records + servedFood records' := by
  unfold servedFood
  rw [recordsOf_append, List.map_append, List.sum_append]

theorem servedFood_servingRecords (settings : Settings) (bowlId : String) (previous weight : ℚ)
    (now : ℕ) : servedFood (servingRecords settings bowlId (some previous) weight now) =
      if previous + 10 < weight then weight - previous else 0 := by
  unfold servingRecords
  dsimp only
  split_ifs
  · simp [servedFood, recordsOf, servedFoodRecord, servedConfirmationRecord]
  · rfl

/-- The first reading of a pour, and the rest. -/
theorem recordedFood_cons (htracked : (readings bowlId earlier).getLast? = some first)
    (hne : first ≠ 0) : recordedFood settings earlier bowlId ((weight, now) :: samples) =
      (if first + 10 < weight then weight - first else 0) +
        recordedFood settings (earlier ++ [.bowlWeight bowlId weight now]) bowlId samples := by
  have hnext : servedFood
      (Node.after settings (earlier ++ [.bowlWeight bowlId weight now])).emitted =
        servedFood (Node.after settings earlier).emitted +
          if first + 10 < weight then weight - first else 0 := by
    have hserved := handedOver_bowlWeight settings earlier bowlId weight now
    rw [htracked, if_neg (by simpa using hne)] at hserved
    rw [after_append_singleton, ← servedFood_servingRecords settings bowlId first weight now,
      ← hserved, ← servedFood_append]
    rfl
  have hsplit : earlier ++ pour bowlId ((weight, now) :: samples) =
      (earlier ++ [.bowlWeight bowlId weight now]) ++ pour bowlId samples := by
    simp [pour]
  unfold recordedFood
  rw [hsplit, hnext]
  ring

/-- The steps that are not recorded. -/
theorem recordedFood_eq (htracked : (readings bowlId earlier).getLast? = some first)
    (hpositive : 0 < first) (hrising : (first :: samples.map Prod.fst).IsChain (· ≤ ·))
    (hlast : (first :: samples.map Prod.fst).getLast? = some last) :
    recordedFood settings earlier bowlId samples =
      last - first - smallSteps (first :: samples.map Prod.fst) := by
  induction samples generalizing earlier first with
  | nil =>
      obtain rfl := Option.some.inj hlast
      simp [recordedFood, pour, smallSteps]
  | cons sample rest ih =>
      obtain ⟨weight, now⟩ := sample
      rw [List.map_cons] at hrising hlast ⊢
      obtain ⟨hle, hrest⟩ := List.isChain_cons_cons.mp hrising
      have hnow : (readings bowlId (earlier ++ [.bowlWeight bowlId weight now])).getLast? =
          some weight := by
        simp [readings, reading]
      have hlater := ih hnow (hpositive.trans_le hle) hrest (by rw [← hlast]; rfl)
      rw [recordedFood_cons htracked hpositive.ne', hlater, smallSteps]
      split_ifs <;> ring

theorem smallSteps_nonneg {weights : List ℚ} (hrising : weights.IsChain (· ≤ ·)) :
    0 ≤ smallSteps weights := by
  induction weights with
  | nil => exact le_rfl
  | cons first rest ih =>
      cases rest with
      | nil => exact le_rfl
      | cons second rest =>
          obtain ⟨hle, hrest⟩ := List.isChain_cons_cons.mp hrising
          have hlater := ih hrest
          rw [smallSteps]
          split_ifs
          · linarith
          · linarith

/-- **A pour, exactly.** -/
theorem withinTenGrams_iff (hpours : Pours earlier bowlId first last samples) :
    WithinTenGrams settings earlier bowlId first last samples ↔
      smallSteps (first :: samples.map Prod.fst) ≤ 10 := by
  have hnonneg := smallSteps_nonneg hpours.rising
  unfold WithinTenGrams
  rw [recordedFood_eq hpours.tracked hpours.positive hpours.rising hpours.ends, sub_sub_cancel_left,
    abs_neg, abs_of_nonneg hnonneg]

end

/-! ### A slow pour -/

/-- A bowl that holds 100 g. -/
def tracked : List Call := [.bowlWeight "bowl_1" 100 1000]

theorem pours_atOnce : Pours tracked "bowl_1" 100 140 [(140, 2000)] where
  tracked := by decide +kernel
  positive := by decide
  rising := by decide +kernel
  ends := rfl
  grows := by decide +kernel

theorem withinTenGrams_atOnce :
    WithinTenGrams tankOnly tracked "bowl_1" 100 140 [(140, 2000)] ↔ smallSteps [100, 140] ≤ 10 :=
  withinTenGrams_iff pours_atOnce

/-- **Failing input.**  Of 40 g that are poured in steps of 10 g, nothing is recorded. -/
theorem not_withinTenGrams_slowly :
    Pours tracked "bowl_1" 100 140 [(110, 2000), (120, 3000), (130, 4000), (140, 5000)] ∧
      ¬ WithinTenGrams tankOnly tracked "bowl_1" 100 140
        [(110, 2000), (120, 3000), (130, 4000), (140, 5000)] := by
  have hpours : Pours tracked "bowl_1" 100 140
      [(110, 2000), (120, 3000), (130, 4000), (140, 5000)] :=
    ⟨by decide +kernel, by decide, by decide +kernel, rfl, by decide +kernel⟩
  refine ⟨hpours, ?_⟩
  unfold WithinTenGrams
  rw [recordedFood_eq hpours.tracked hpours.positive hpours.rising hpours.ends]
  decide +kernel

end OroEdge.Wellbeing
