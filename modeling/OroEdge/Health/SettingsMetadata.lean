import OroEdge.Health.Numbers
import OroEdge.Lib.JsonText

/-!
# The metadata of applied settings

A report about applied settings names a profile and a reason, and the signal #98 should repeat
both in its metadata, with the time, as a JSON object of these three fields
(`MetadataRoundTrips`).

The monitor puts the two texts between quotes as they are.  So the metadata is read back
exactly as long as neither text has a quote, a backslash or a control character
(`metadataRoundTrips_iff`), unless the report is dropped because its status is no text.

That nothing may have to be escaped is an argument about lengths.  A text that denotes an object
with the three fields is as long as these fields take at least, and a quote, a backslash or a
control character takes two characters or more (`JsonText.leastLength`).  The text of the
monitor takes one for each character of the two texts, so that there is none to spare
(`plain_of_tells`).  Conversely a plain text between quotes stands for itself, and the text is
that of the object, member by member (`tells_of_plain`).

Reading is the relation between texts and values that the library has, not a parser; so it is
said of no text that it cannot be read because one reader does not read it.
-/

namespace OroEdge.Health

open OroEdge.Lib

/-! ## The subscriber -/

/-- `dispatch_topic` for `/status/settings/apply`.  A field of another type throws; the handler
catches it and only writes it to the log. -/
def dispatchSettingsApply (j : Json) (now : ℕ) : Option WholeCall := do
  let profileId ← j.value Json.asString "settings_profile_id" "unknown"
  let status ← j.value Json.asString "status" ""
  let failureReason ← j.value Json.asString "failure_reason" ""
  return .settingsApplyStatus profileId (status = "success") failureReason now

/-! ## The property -/

/-- The reports in question: objects with a profile and a reason. -/
structure SettingsReport (j : Json) (profileId failureReason : String) : Prop where
  isObject : j.isObject = true
  profileId : j.get? "settings_profile_id" = some (.str profileId)
  failureReason : j.get? "failure_reason" = some (.str failureReason)

/-- The fields that the metadata mean to have. -/
def settingsFields (profileId failureReason : String) (now : ℕ) : List (String × Json) :=
  [("settings_profile_id", .str profileId), ("applied_at", .int now),
    ("failure_reason", .str failureReason)]

/-- A text is that of an object with the three fields, and no others. -/
def TellsSettings (text : List Char) (profileId failureReason : String) (now : ℕ) : Prop :=
  ∃ j, JsonText.Document text j ∧
    (∀ field ∈ settingsFields profileId failureReason now, j.get? field.1 = some field.2) ∧
    ∀ key, j.contains key = true →
      key ∈ (settingsFields profileId failureReason now).map Prod.fst

/-- Whatever a monitor writes for a report has the metadata that it should have. -/
def MetadataRoundTrips (j : Json) (profileId failureReason : String) (now : ℕ) : Prop :=
  ∀ (m : WholeMonitor), ∀ call ∈ dispatchSettingsApply j now, ∀ record ∈ (m.call call).2,
    TellsSettings record.metadata.toList profileId failureReason now

/-! ## The condition -/

/-- The report is dropped: it has a status that is no text. -/
def Dropped (j : Json) : Prop := ∃ status, j.get? "status" = some status ∧ status.asString = none

/-- A text without quotes, backslashes and control characters. -/
def PlainText (s : String) : Prop := ∀ c ∈ s.toList, JsonText.isPlain c = true

instance (s : String) : Decidable (PlainText s) :=
  decidable_of_iff (s.toList.all JsonText.isPlain = true) List.all_eq_true

/-! ## The text of the metadata -/

section

open JsonText

variable {profileId failureReason : String} {now : ℕ}

/-- The text of three fields, from its pieces. -/
theorem toList_pieces {first second third : List Char}
    {opening middle middle' closing s s' : String}
    (hopening : opening.toList = '\x7b' :: quoted first ++ [':', '\"'])
    (hmiddle : middle.toList = ['\"', ','] ++ quoted second ++ [':'])
    (hmiddle' : middle'.toList = ',' :: quoted third ++ [':', '\"'])
    (hclosing : closing.toList = ['\"', '\x7d']) :
    (opening ++ s ++ middle ++ toString now ++ middle' ++ s' ++ closing).toList =
      '\x7b' :: (quoted first ++ ':' :: quoted s.toList ++
        ',' :: (quoted second ++ ':' :: Nat.toDigits 10 now ++
          ',' :: (quoted third ++ ':' :: quoted s'.toList))) ++ ['\x7d'] := by
  have hnow : (toString now).toList = Nat.toDigits 10 now := Nat.toList_repr
  simp only [String.toList_append, hopening, hmiddle, hmiddle', hclosing, hnow]
  simp only [quoted, List.append_assoc, List.cons_append, List.nil_append]

/-- The metadata as they are put together. -/
def settingsMetadata (profileId failureReason : String) (now : ℕ) : String :=
  "\x7b\"settings_profile_id\":\"" ++ profileId ++ "\",\"applied_at\":" ++ toString now ++
    ",\"failure_reason\":\"" ++ failureReason ++ "\"\x7d"

theorem metadata_settingsApplyRecord (success : Bool) :
    (WholeMonitor.settingsApplyRecord profileId success failureReason now).metadata =
      settingsMetadata profileId failureReason now :=
  rfl

theorem toList_settingsMetadata : (settingsMetadata profileId failureReason now).toList =
    '\x7b' :: (memberText "settings_profile_id" (quoted profileId.toList) ++
      ',' :: (memberText "applied_at" (Nat.toDigits 10 now) ++
        ',' :: memberText "failure_reason" (quoted failureReason.toList))) ++ ['\x7d'] :=
  toList_pieces (by decide) (by decide) (by decide) (by decide)

theorem nodup_settingsKeys :
    ((settingsFields profileId failureReason now).map Prod.fst).Nodup := by
  have hdistinct : ["settings_profile_id", "applied_at", "failure_reason"].Nodup := by decide
  exact hdistinct

/-- The fields fit into the metadata only if nothing in them has to be escaped. -/
theorem plain_of_tells
    (htells : TellsSettings (settingsMetadata profileId failureReason now).toList profileId
      failureReason now) : PlainText profileId ∧ PlainText failureReason := by
  obtain ⟨j, hdocument, hfields, -⟩ := htells
  have hlength := hdocument.length_of_fields (nodup_settingsKeys.of_map _)
    (List.cons_ne_nil _ _) hfields
  have hkey : leastLength (.str "settings_profile_id") =
      (quoted "settings_profile_id".toList).length := by decide
  have hkey' : leastLength (.str "applied_at") = (quoted "applied_at".toList).length := by decide
  have hkey'' : leastLength (.str "failure_reason") =
      (quoted "failure_reason".toList).length := by decide
  simp only [settingsFields, List.map_cons, List.map_nil, List.sum_cons, List.sum_nil,
    memberLength, hkey, hkey', hkey'', toList_settingsMetadata, memberText, List.length_append,
    List.length_cons, List.length_nil] at hlength
  have hquoted : ∀ chars : List Char, (quoted chars).length = chars.length + 2 := by
    intro chars
    simp [quoted]
  rw [hquoted profileId.toList, hquoted failureReason.toList] at hlength
  simp only [leastLength, Int.natAbs_natCast] at hlength
  constructor
  · exact specials_eq_zero_iff.mp (by omega)
  · exact specials_eq_zero_iff.mp (by omega)

theorem tells_of_plain (hprofile : PlainText profileId) (hreason : PlainText failureReason) :
    TellsSettings (settingsMetadata profileId failureReason now).toList profileId failureReason
      now := by
  have hmembers : Separated (Member JsonText.Value)
      (memberText "settings_profile_id" (quoted profileId.toList) ++
        ',' :: (memberText "applied_at" (Nat.toDigits 10 now) ++
          ',' :: memberText "failure_reason" (quoted failureReason.toList)))
      (settingsFields profileId failureReason now) :=
    .cons (member_memberText (List.all_eq_true.mp (by decide)) (value_quoted hprofile))
      (.cons (member_memberText (List.all_eq_true.mp (by decide)) (value_toDigits now))
        (.single (member_memberText (List.all_eq_true.mp (by decide)) (value_quoted hreason))))
  refine ⟨_, ?_, fun field hfield => Json.get?_ofFields_of_mem nodup_settingsKeys hfield, ?_⟩
  · rw [toList_settingsMetadata]
    exact padded_self (.obj hmembers)
  · intro key hcontains
    by_contra hkey
    rw [Json.contains, Json.get?_ofFields_of_notMem hkey] at hcontains
    cases hcontains

end

/-! ## The main result -/

section

variable {j : Json} {profileId failureReason : String}

theorem SettingsReport.dispatch_eq (hreport : SettingsReport j profileId failureReason) (now : ℕ) :
    dispatchSettingsApply j now = (j.value Json.asString "status" "").map fun status =>
      .settingsApplyStatus profileId (status = "success") failureReason now := by
  have hprofile : j.value Json.asString "settings_profile_id" "unknown" = some profileId := by
    rw [Json.value, if_pos hreport.isObject, hreport.profileId]
    rfl
  have hreason : j.value Json.asString "failure_reason" "" = some failureReason := by
    rw [Json.value, if_pos hreport.isObject, hreport.failureReason]
    rfl
  rw [dispatchSettingsApply, hprofile, hreason]
  cases j.value Json.asString "status" "" with
  | none => rfl
  | some status => rfl

theorem SettingsReport.dropped_iff (hreport : SettingsReport j profileId failureReason) :
    j.value Json.asString "status" "" = none ↔ Dropped j := by
  rw [Json.value, if_pos hreport.isObject, Dropped]
  cases j.get? "status" with
  | none => simp
  | some status => simp

/-- The metadata are right exactly for texts without special characters. -/
theorem metadataRoundTrips_iff (hreport : SettingsReport j profileId failureReason) {now : ℕ} :
    MetadataRoundTrips j profileId failureReason now ↔
      Dropped j ∨ (PlainText profileId ∧ PlainText failureReason) := by
  rw [← hreport.dropped_iff, MetadataRoundTrips, hreport.dispatch_eq]
  cases j.value Json.asString "status" "" with
  | none => simp
  | some status =>
      simp only [reduceCtorEq, false_or]
      constructor
      · intro htrips
        have htells := htrips (.construct now) _ rfl _ List.mem_cons_self
        rw [metadata_settingsApplyRecord] at htells
        exact plain_of_tells htells
      · rintro ⟨hprofile, hreason⟩ m call hcall record hrecord
        cases hcall
        rw [List.mem_singleton.mp hrecord, metadata_settingsApplyRecord]
        exact tells_of_plain hprofile hreason

end

/-- A report about the settings `default` that could not be applied. -/
def failedReport (failureReason : String) : Json :=
  .obj [("failure_reason", .str failureReason), ("settings_profile_id", .str "default"),
    ("status", .str "failed")]

theorem settingsReport_failedReport (failureReason : String) :
    SettingsReport (failedReport failureReason) "default" failureReason :=
  ⟨rfl, rfl, rfl⟩

theorem metadataRoundTrips_timeout :
    SettingsReport (failedReport "timeout") "default" "timeout" ∧
    (MetadataRoundTrips (failedReport "timeout") "default" "timeout" 1000 ↔
      Dropped (failedReport "timeout") ∨ (PlainText "default" ∧ PlainText "timeout")) :=
  have hreport := settingsReport_failedReport "timeout"
  ⟨hreport, metadataRoundTrips_iff hreport⟩

/-- A reason with quotes in it: `no such key "volume"`. -/
theorem not_metadataRoundTrips_quotes :
    SettingsReport (failedReport "no such key \"volume\"") "default"
      "no such key \"volume\"" ∧
    ¬ MetadataRoundTrips (failedReport "no such key \"volume\"") "default"
      "no such key \"volume\"" 1000 := by
  refine ⟨settingsReport_failedReport _, ?_⟩
  intro htrips
  have htells := htrips (.construct 1000) _ rfl _ List.mem_cons_self
  rw [metadata_settingsApplyRecord] at htells
  exact absurd (plain_of_tells htells).2 (by decide)

end OroEdge.Health
