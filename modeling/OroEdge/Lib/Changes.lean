import Mathlib.Data.List.Destutter
import Mathlib.Data.List.DropRight
import Mathlib.Data.List.Induction
import Mathlib.Order.Lattice

/-!
# Changes of a value

`changesOf value` keeps, of a sequence of reports, those whose value is another one
than that of the report before: consecutive repetitions are removed.
`sinceChange value` keeps those that have come since the value changed last.

Two lists that grow with a history agree all along exactly when they grow by the
same at every place (`forall_prefix_eq_iff`).

The definition of the changes is `List.destutter`, which looks at a list from its front, while a
program that writes on change sees its reports come in at the end.  So the lemmas say what one
more report does: it is a change if and only if it differs from the last report there is
(`changesOf_append_singleton`), and the block of equal reports at the end starts again with it
or grows by it (`sinceChange_append_singleton`).  With these two a program is compared to its
reports step by step.

`sinceChange_eq_filter` is for values that only show a part of what a block is, such as a date
that stands for a window of days.
-/

namespace OroEdge.Lib

variable {α β : Type*}

section ChangesOf

variable [DecidableEq β] (value : α → β)

/-- The two reports are of different values. -/
def Changed (a b : α) : Prop := value a ≠ value b

instance : DecidableRel (Changed value) := fun a b => inferInstanceAs (Decidable (value a ≠ value b))

/-- The reports that differ from the one before. -/
def changesOf (reports : List α) : List α := reports.destutter (Changed value)

@[simp] theorem changesOf_nil : changesOf value [] = [] := rfl

theorem destutter'_append_singleton (first : α) (rest : List α) (report : α) :
    (rest ++ [report]).destutter' (Changed value) first =
      rest.destutter' (Changed value) first ++
        if value ((first :: rest).getLast (List.cons_ne_nil first rest)) = value report then []
        else [report] := by
  induction rest generalizing first with
  | nil =>
      rw [List.nil_append, List.destutter'_singleton, List.destutter'_nil]
      by_cases hsame : value first = value report <;> simp [Changed, hsame]
  | cons second rest ih =>
      rw [List.cons_append, List.getLast_cons (List.cons_ne_nil second rest)]
      by_cases hchange : Changed value first second
      · rw [List.destutter'_cons_pos _ hchange, List.destutter'_cons_pos _ hchange, ih,
          List.cons_append]
      · rw [List.destutter'_cons_neg _ hchange, List.destutter'_cons_neg _ hchange, ih]
        -- the second report is dropped, and has the value of the first
        have hsame : value first = value second := not_not.mp hchange
        cases rest with
        | nil => rw [List.getLast_singleton, List.getLast_singleton, hsame]
        | cons third rest =>
            rw [List.getLast_cons (List.cons_ne_nil third rest),
              List.getLast_cons (List.cons_ne_nil third rest)]

theorem changesOf_append_singleton (reports : List α) (report : α) :
    changesOf value (reports ++ [report]) = changesOf value reports ++
      if reports.getLast?.map value = some (value report) then [] else [report] := by
  unfold changesOf
  cases reports with
  | nil => rfl
  | cons first rest =>
      rw [List.cons_append, List.destutter_cons', List.destutter_cons',
        destutter'_append_singleton]
      simp [List.getLast?_eq_some_getLast (List.cons_ne_nil first rest)]

/-- The reports since the value has changed last. -/
def sinceChange (reports : List α) : List α :=
  match reports.getLast? with
  | some last => reports.rtakeWhile fun report => decide (value report = value last)
  | none => []

@[simp] theorem sinceChange_nil : sinceChange value [] = [] := rfl

theorem sinceChange_append_singleton (reports : List α) (report : α) :
    sinceChange value (reports ++ [report]) =
      (if reports.getLast?.map value = some (value report) then sinceChange value reports
        else []) ++ [report] := by
  unfold sinceChange
  rw [List.getLast?_concat]
  dsimp only
  rw [List.rtakeWhile_concat_pos _ _ _ (by simp)]
  congr 1
  rcases List.eq_nil_or_concat reports with rfl | ⟨earlier, last, rfl⟩
  · rfl
  · rw [List.concat_eq_append, List.getLast?_concat, Option.map_some]
    by_cases hsame : value last = value report
    · rw [if_pos (congrArg some hsame)]
      dsimp only
      rw [hsame]
    · rw [if_neg (by simpa using hsame), List.rtakeWhile_concat_neg _ _ _ (by simpa using hsame)]

theorem getLast?_sinceChange (reports : List α) :
    (sinceChange value reports).getLast? = reports.getLast? := by
  induction reports using List.reverseRecOn with
  | nil => rfl
  | append_singleton reports report ih =>
      rw [sinceChange_append_singleton, List.getLast?_concat, List.getLast?_concat]

end ChangesOf

section Blocks

variable [DecidableEq β] {value : α → β} {Block : Type*} [LinearOrder Block] {block : α → Block}

/-- Reports that come in the order of their blocks, of which the value only knows a part: if
no two neighbours of different blocks have one value, the reports since the last change are
those of the last block. -/
theorem sinceChange_eq_filter (hvalue : ∀ a b, block a = block b → value a = value b)
    {reports : List α} (hsorted : reports.Pairwise fun a b => block a ≤ block b)
    (hneighbours : reports.IsChain fun a b => value a = value b → block a = block b) {last : α}
    (hlast : reports.getLast? = some last) :
    sinceChange value reports = reports.filter fun report => decide (block report = block last) := by
  induction reports using List.reverseRecOn generalizing last with
  | nil => cases hlast
  | append_singleton reports report ih =>
      rw [List.getLast?_concat] at hlast
      obtain rfl := Option.some.inj hlast
      obtain ⟨hearlier, -, hle⟩ := List.pairwise_append.mp hsorted
      obtain ⟨hchain, -, hstep⟩ := List.isChain_append.mp hneighbours
      rw [sinceChange_append_singleton, List.filter_append]
      have hself : [report].filter (fun other => decide (block other = block report)) =
          [report] := by simp
      rw [hself]
      congr 1
      cases hbefore : reports.getLast? with
      | none =>
          have hnil : reports = [] := List.getLast?_eq_none_iff.mp hbefore
          simp [hnil]
      | some before =>
          by_cases hsame : value before = value report
          · rw [Option.map_some, if_pos (congrArg some hsame), ih hearlier hchain hbefore,
              hstep before hbefore report rfl hsame]
          · rw [Option.map_some, if_neg (by simpa using hsame)]
            refine (List.filter_eq_nil_iff.mpr fun other hother => ?_).symm
            -- the last block has begun with this report
            have hne : block before ≠ block report := mt (hvalue before report) hsame
            have hlt := lt_of_le_of_ne
              (hle before (List.mem_of_getLast? hbefore) report List.mem_cons_self) hne
            have hother_le : block other ≤ block before := by
              obtain ⟨front, hfront⟩ := List.getLast?_eq_some_iff.mp hbefore
              rw [hfront] at hother hearlier
              rcases List.mem_append.mp hother with hmem | hmem
              · exact (List.pairwise_append.mp hearlier).2.2 other hmem before List.mem_cons_self
              · rw [List.mem_singleton.mp hmem]
            simpa using (hother_le.trans_lt hlt).ne

end Blocks

/-- Two lists that start empty and grow with a history. -/
theorem forall_prefix_eq_iff {first second : List α → List β} {grow grow' : List α → α → List β}
    (hnil : first [] = second [])
    (hfirst : ∀ earlier x, first (earlier ++ [x]) = first earlier ++ grow earlier x)
    (hsecond : ∀ earlier x, second (earlier ++ [x]) = second earlier ++ grow' earlier x)
    {history : List α} : (∀ earlier, earlier <+: history → first earlier = second earlier) ↔
      ∀ earlier x later, history = earlier ++ x :: later → grow earlier x = grow' earlier x := by
  constructor
  · rintro hagree earlier x later rfl
    have hbefore := hagree earlier ⟨x :: later, rfl⟩
    have hafter := hagree (earlier ++ [x]) ⟨later, by simp⟩
    rw [hfirst, hsecond, hbefore] at hafter
    exact List.append_cancel_left hafter
  · intro hgrow earlier
    induction earlier using List.reverseRecOn with
    | nil =>
        intro _
        exact hnil
    | append_singleton earlier x ih =>
        rintro ⟨later, hlater⟩
        rw [hfirst, hsecond, ih ⟨x :: later, by simp [← hlater]⟩,
          hgrow earlier x later (by simp [← hlater])]

end OroEdge.Lib
