import OroEdge.Health.Changes
import OroEdge.Lib.Changes

/-!
# Change detection per entity

The records about an entity should be its own reports with consecutive repetitions
removed, whatever is reported about other entities in between (`PerEntity`).

The operations that keep a map hold this in every run.  The obstruction of a camera
and the two configured thresholds keep a single value for all entities; there the law
holds exactly as long as each report finds what it would find if it were alone
(`Unmixed`): the last report of the kind, of whichever entity, has its value if and
only if the entity's own last report has.

The law is compared with the run one report at a time (`grow_iff`): a report adds what the law
lets it add exactly if its memory holds its value just when its own last report does.  For a map
nobody else reaches the memory of an entity (`reaching_of_not_shared`), and nothing remains to
be shown.  For a shared memory this is `Unmixed` for this report, and the theorem collects the
reports of a run.

Thresholds are compared with a tolerance.  `Admissible` keeps two of them equal or further apart
than that, and then they are told apart like texts (`sharp_of_admissible`).
-/

namespace OroEdge.Health

open OroEdge.Lib

/-! ## The property -/

/-- The call is a report about the entity. -/
def about (kind : Kind) (entity : String) (call : ChangeCall) : Bool :=
  (report call).any fun r => decide (r.kind = kind) && decide (r.entity = entity)

/-- The records that the reports about an entity write. -/
def recordsAbout (kind : Kind) (entity : String) : ChangeMonitor → List ChangeCall →
    List ChangeRecord
  | _, [] => []
  | m, call :: rest =>
      (if about kind entity call then (m.call call).2 else []) ++
        recordsAbout kind entity (m.call call).1 rest

/-- The records are the entity's own reports without repetitions. -/
def PerEntity (start : ℕ) (kind : Kind) (entity : String) (calls : List ChangeCall) : Prop :=
  recordsAbout kind entity (ChangeMonitor.construct start) calls =
    (changesOf Report.value (reportsOf kind entity calls)).map Report.record

/-- A status that is not empty, a threshold of at least 1. -/
def Value.Regular : Value → Prop
  | .flag _ => True
  | .text s => s ≠ ""
  | .number q => 1 ≤ q

/-- Thresholds are equal, or are told apart. -/
def Value.Spaced : Value → Value → Prop
  | .number q, .number q' => q = q' ∨ 1 / 10000 < |q' - q|
  | _, _ => True

instance : ∀ value : Value, Decidable value.Regular
  | .flag _ => inferInstanceAs (Decidable True)
  | .text s => inferInstanceAs (Decidable (s ≠ ""))
  | .number q => inferInstanceAs (Decidable (1 ≤ q))

instance : ∀ first second : Value, Decidable (first.Spaced second)
  | .number q, .number q' => inferInstanceAs (Decidable (q = q' ∨ 1 / 10000 < |q' - q|))
  | .number _, .flag _ | .number _, .text _ | .flag _, _ | .text _, _ =>
      inferInstanceAs (Decidable True)

/-- The reports are regular, and two thresholds of one kind are equal or told apart. -/
structure Admissible (calls : List ChangeCall) : Prop where
  regular : ∀ r ∈ calls.filterMap report, r.value.Regular
  spaced : ∀ r ∈ calls.filterMap report, ∀ r' ∈ calls.filterMap report, r.kind = r'.kind →
    r.value.Spaced r'.value

/-- Where the memory is shared, the last report of the kind has the value of this one
exactly if the entity's own last report has. -/
def Unmixed (calls : List ChangeCall) : Prop :=
  ∀ earlier call later, calls = earlier ++ call :: later → ∀ r ∈ report call,
    r.kind.shared = true → r.kind ≠ .pumpState →
      ((reaching r.kind r.entity earlier).getLast?.map Report.value = some r.value ↔
        (reportsOf r.kind r.entity earlier).getLast?.map Report.value = some r.value)

/-! ## What is compared -/

theorem recordsAbout_append_singleton (kind : Kind) (entity : String) (m : ChangeMonitor)
    (calls : List ChangeCall) (call : ChangeCall) :
    recordsAbout kind entity m (calls ++ [call]) = recordsAbout kind entity m calls ++
      if about kind entity call then ((run changeStep m calls).call call).2 else [] := by
  induction calls generalizing m with
  | nil => simp [recordsAbout]
  | cons first rest ih =>
      rw [List.cons_append, recordsAbout, recordsAbout, ih, List.append_assoc]
      rfl

theorem about_iff {kind : Kind} {entity : String} {call : ChangeCall} :
    about kind entity call = true ↔
      ∃ r, report call = some r ∧ r.kind = kind ∧ r.entity = entity := by
  unfold about
  cases hreport : report call <;> simp

theorem reportsOf_append_singleton (kind : Kind) (entity : String) (calls : List ChangeCall)
    (call : ChangeCall) : reportsOf kind entity (calls ++ [call]) =
      reportsOf kind entity calls ++
        if about kind entity call then (report call).toList else [] := by
  unfold reportsOf about
  rw [List.filterMap_append, List.filter_append]
  congr 1
  cases hreport : report call with
  | none => simp [hreport]
  | some r => by_cases hkind : r.kind = kind <;> by_cases hentity : r.entity = entity <;>
      simp [hreport, hkind, hentity]

/-! ## Admissible reports are told apart -/

theorem Value.spaced_iff_differs {old : ℚ} {value : Value}
    (hspaced : (Value.number old).Spaced value) :
    differs (some (.number old)) value = decide (some (Value.number old) ≠ some value) := by
  cases value with
  | number new =>
      rcases hspaced with rfl | hfar
      · simp [differs]
      · have hne : old ≠ new := by
          rintro rfl
          norm_num at hfar
        have hvalue : some (Value.number old) ≠ some (Value.number new) := by
          simpa using hne
        rw [decide_eq_true hvalue]
        exact decide_eq_true hfar
  | flag b => rfl
  | text s => rfl

/-- The thresholds that are remembered at first are below all that are configured. -/
theorem spaced_initial {value : Value} (hregular : value.Regular) :
    (Value.number (-1)).Spaced value := by
  cases value with
  | number q =>
      have hq : (1 : ℚ) ≤ q := hregular
      have habs : |q - -1| = q + 1 := by
        rw [sub_neg_eq_add, abs_of_nonneg (by linarith)]
      right
      rw [habs]
      linarith
  | flag b => trivial
  | text s => trivial

theorem mem_of_mem_reaching {kind : Kind} {entity : String} {calls : List ChangeCall} {r : Report}
    (hmem : r ∈ reaching kind entity calls) : r ∈ calls.filterMap report ∧ r.kind = kind := by
  obtain ⟨hmem, hreaches⟩ := List.mem_filter.mp hmem
  exact ⟨hmem, (of_decide_eq_true hreaches).1⟩

theorem differs_of_remembered {remembered : Option Value}
    (hremembered : ∀ q, remembered ≠ some (.number q)) (value : Value) :
    differs remembered value = decide (remembered ≠ some value) := by
  rcases remembered with _ | (_ | _ | q)
  · rfl
  · cases value <;> rfl
  · cases value <;> rfl
  · exact absurd rfl (hremembered q)

theorem sharp_of_admissible {calls : List ChangeCall} (hadmissible : Admissible calls)
    (kind : Kind) : Sharp kind calls := by
  intro earlier call later hsplit r hreport hkind
  have hreported : r ∈ calls.filterMap report :=
    List.mem_filterMap.mpr ⟨call, by simp [hsplit], hreport⟩
  by_cases hnumber : ∃ q, lastReaching kind r.entity earlier = some (.number q)
  · obtain ⟨q, hlast⟩ := hnumber
    rw [hlast]
    apply Value.spaced_iff_differs
    unfold lastReaching at hlast
    cases hreaching : (reaching kind r.entity earlier).getLast? with
    | none =>
        rw [hreaching] at hlast
        have hinitial : initial kind = some (.number q) := hlast
        have hq : q = -1 := by
          cases kind <;> simp_all [initial]
        rw [hq]
        exact spaced_initial (hadmissible.regular r hreported)
    | some last =>
        rw [hreaching] at hlast
        obtain hvalue : last.value = .number q := Option.some.inj hlast
        obtain ⟨hmem, hlastKind⟩ := mem_of_mem_reaching (List.mem_of_mem_getLast? hreaching)
        rw [← hvalue]
        apply hadmissible.spaced last _ r hreported (hlastKind.trans hkind.symm)
        rw [hsplit, List.filterMap_append]
        exact List.mem_append_left _ hmem
  · exact differs_of_remembered (fun q hlast => hnumber ⟨q, hlast⟩) r.value

/-! ## One report -/

theorem lastReaching_eq_iff {kind : Kind} {entity : String} {calls : List ChangeCall}
    {value : Value} (hkind : kind ≠ .pumpState) (hregular : value.Regular) :
    lastReaching kind entity calls = some value ↔
      (reaching kind entity calls).getLast?.map Report.value = some value := by
  unfold lastReaching
  cases (reaching kind entity calls).getLast? with
  | none =>
      -- no regular value is remembered at first
      have hinitial : initial kind ≠ some value := by
        rintro heq
        cases kind <;> simp [initial] at heq hkind
        all_goals subst heq
        all_goals norm_num [Value.Regular] at hregular
      simpa using hinitial
  | some last => simp

theorem reaching_of_not_shared {kind : Kind} (hshared : kind.shared = false) (entity : String)
    (calls : List ChangeCall) : reaching kind entity calls = reportsOf kind entity calls := by
  unfold reaching reportsOf
  simp [Report.Reaches, hshared]

/-- What the law lets a call add. -/
def changeAbout (kind : Kind) (entity : String) (earlier : List ChangeCall) (call : ChangeCall) :
    List ChangeRecord :=
  match report call with
  | some r =>
      if r.kind = kind ∧ r.entity = entity then
        if (reportsOf kind entity earlier).getLast?.map Report.value = some r.value then []
        else [r.record]
      else []
  | none => []

theorem map_changesOf_append_singleton (kind : Kind) (entity : String) (earlier : List ChangeCall)
    (call : ChangeCall) :
    (changesOf Report.value (reportsOf kind entity (earlier ++ [call]))).map Report.record =
      (changesOf Report.value (reportsOf kind entity earlier)).map Report.record ++
        changeAbout kind entity earlier call := by
  rw [reportsOf_append_singleton, about, changeAbout]
  cases hreport : report call with
  | none => simp
  | some r =>
      by_cases habout : r.kind = kind ∧ r.entity = entity
      · have hany : (decide (r.kind = kind) && decide (r.entity = entity)) = true := by
          simpa using habout
        rw [Option.any_some, if_pos hany, Option.toList_some, changesOf_append_singleton,
          List.map_append]
        simp only [if_pos habout]
        split <;> rfl
      · have hany : ¬ (decide (r.kind = kind) && decide (r.entity = entity)) = true := by
          simpa using habout
        rw [Option.any_some, if_neg hany, List.append_nil]
        simp only [if_neg habout, List.append_nil]

/-- A report adds what the law lets it add exactly if its memory holds its value when
its own last report does. -/
theorem grow_iff {start : ℕ} {calls earlier later : List ChangeCall} {call : ChangeCall}
    {r : Report} (hadmissible : Admissible calls) (hsplit : calls = earlier ++ call :: later)
    (hreport : report call = some r) (hkind : r.kind ≠ .pumpState) :
    attempted start earlier call = changeAbout r.kind r.entity earlier call ↔
      ((reaching r.kind r.entity earlier).getLast?.map Report.value = some r.value ↔
        (reportsOf r.kind r.entity earlier).getLast?.map Report.value = some r.value) := by
  have hregular : r.value.Regular :=
    hadmissible.regular r (List.mem_filterMap.mpr ⟨call, by simp [hsplit], hreport⟩)
  have hsharp : Sharp r.kind (earlier ++ [call]) := by
    have hall := sharp_of_admissible hadmissible r.kind
    rw [hsplit, List.append_cons] at hall
    exact hall.of_append
  rw [attempted_eq hreport hkind hsharp, changeAbout, hreport]
  simp only [lastReaching_eq_iff hkind hregular, and_self, if_true]
  by_cases hreached : (reaching r.kind r.entity earlier).getLast?.map Report.value = some r.value <;>
    by_cases hown : (reportsOf r.kind r.entity earlier).getLast?.map Report.value = some r.value <;>
      simp [hreached, hown]

/-! ## Every run -/

/-- **Per entity, exactly.**  In an admissible run the records of every operation and
entity are its own changes all along, if and only if the reports of the operations
with one memory are unmixed. -/
theorem perEntity_iff_unmixed (start : ℕ) (calls : List ChangeCall)
    (hadmissible : Admissible calls) :
    (∀ kind, kind ≠ .pumpState → ∀ entity earlier, earlier <+: calls →
      PerEntity start kind entity earlier) ↔ Unmixed calls := by
  have hgrow : ∀ kind entity, (∀ earlier, earlier <+: calls → PerEntity start kind entity earlier) ↔
      ∀ earlier call later, calls = earlier ++ call :: later →
        (if about kind entity call then attempted start earlier call else []) =
          changeAbout kind entity earlier call := by
    intro kind entity
    unfold PerEntity
    apply forall_prefix_eq_iff
    · rfl
    · exact recordsAbout_append_singleton kind entity _
    · exact map_changesOf_append_singleton kind entity
  constructor
  · intro hentity earlier call later hsplit r hreport hshared hkind
    have hown : about r.kind r.entity call = true := about_iff.mpr ⟨r, hreport, rfl, rfl⟩
    have hadds :=
      (hgrow r.kind r.entity).mp (hentity r.kind hkind r.entity) earlier call later hsplit
    rw [if_pos hown] at hadds
    exact (grow_iff hadmissible hsplit hreport hkind).mp hadds
  · intro hunmixed kind hkind entity
    rw [hgrow]
    intro earlier call later hsplit
    by_cases hown : about kind entity call = true
    · obtain ⟨r, hreport, rfl, rfl⟩ := about_iff.mp hown
      rw [if_pos hown, grow_iff hadmissible hsplit hreport hkind]
      cases hshared : r.kind.shared with
      | true => exact hunmixed earlier call later hsplit r hreport hshared hkind
      | false => rw [reaching_of_not_shared hshared]
    · rw [if_neg hown, changeAbout]
      cases hreport : report call with
      | none => rfl
      | some r =>
          have hother : ¬ (r.kind = kind ∧ r.entity = entity) := fun hsame =>
            hown (about_iff.mpr ⟨r, hreport, hsame⟩)
          simp only [if_neg hother]

/-! ## A run of each kind -/

def sensorHealthAt (sensorId status : String) (now : ℕ) : ChangeCall :=
  .sensorHealth sensorId status "" now

/-- Two sensors alternate, and each is recorded once. -/
theorem perEntity_two_sensors :
    PerEntity 0 .sensorHealth "imu" [sensorHealthAt "imu" "ok" 1, sensorHealthAt "gps" "failed" 2,
      sensorHealthAt "imu" "ok" 3, sensorHealthAt "gps" "failed" 4] := by
  refine (perEntity_iff_unmixed 0 _ ⟨by decide, by decide⟩).mpr ?_ .sensorHealth (by decide) "imu" _
    List.prefix_rfl
  intro earlier call later hsplit r hreport hshared
  have hmem : call ∈ [sensorHealthAt "imu" "ok" 1, sensorHealthAt "gps" "failed" 2,
      sensorHealthAt "imu" "ok" 3, sensorHealthAt "gps" "failed" 4] := by
    rw [hsplit]
    simp
  -- no sensor shares its memory
  have hkinds : ∀ call ∈ [sensorHealthAt "imu" "ok" 1, sensorHealthAt "gps" "failed" 2,
      sensorHealthAt "imu" "ok" 3, sensorHealthAt "gps" "failed" 4], ∀ r ∈ report call,
        r.kind.shared = false := by
    decide
  rw [hkinds call hmem r hreport] at hshared
  cases hshared

/-- The rear camera is obstructed after the front camera, and nothing is recorded. -/
theorem not_perEntity_two_cameras :
    Admissible [.cameraObstruction true "front" 1 1, .cameraObstruction true "rear" 1 2] ∧
      ¬ PerEntity 0 .cameraObstruction "rear"
        [.cameraObstruction true "front" 1 1, .cameraObstruction true "rear" 1 2] := by
  refine ⟨⟨by decide +kernel, by decide +kernel⟩, ?_⟩
  intro hentity
  have hlengths := congrArg List.length hentity
  exact absurd hlengths (by decide +kernel)

end OroEdge.Health
