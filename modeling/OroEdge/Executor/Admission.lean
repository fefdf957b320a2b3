import OroEdge.Executor.Dispatcher
import Mathlib.Data.List.Nodup

/-!
# Admission of commands

An accepted message should carry an integer `signal_id` that is one of the inbound ids of
the registry, and be dispatched to the handler for that id (`AdmissionSound`).

The id is converted to 16 bits before it is looked up, a missing one is taken as 0, and 0
is the id of the descriptor that nobody has written.  So ids of another type or beyond 16
bits can slip through (`SlipsAs`), and 0 is accepted although it has no handler
(`admissionSound_iff`).

`accepted_iff` describes the accepted messages in full: each field of the header passes on its
own, and the id enters through the number that it is converted to, and through nothing else. 
With that the property is a statement about one number, `convertedId`, and the proof has three
cases: an id that is missing, an id that is no integer, and an integer.  Only in the last can
the number be the id that was carried, and there it is exactly if the id fits 16 bits
(`slipsAs_iff`).

What a float beyond the range is converted to is a parameter of the conversion.  So nothing is
said about which of these ids slip through on a given machine, only that they do if and only if
the number that the machine makes of them is accepted.
-/

namespace OroEdge.Executor

open OroEdge.Lib CommandDispatcher

/-! ## The property -/

/-- The `signal_id` that a message carries. -/
def carriedId? (j : Json) : Option Json := (header? j).bind fun header => header.get? "signal_id"

/-- If the message is accepted, its id is inbound, and is dispatched to its handler. -/
def AdmissionSound (casts : FloatCasts) (nowMs : ℤ) (activeCommandIds : List String) (j : Json) :
    Prop :=
  ∀ cmd, parse casts nowMs j = .parsed cmd → (validate activeCommandIds cmd).1 = true →
    ∃ n ∈ inboundIds, carriedId? j = some (.int n) ∧
      ∃ handler, dispatch n = some handler ∧ dispatch cmd.signalId = some handler

/-! ## The condition -/

/-- The number that an id is converted to: 0 if it is missing, and none if it is not a number. -/
def convertedId (casts : FloatCasts) (carried : Option Json) : Option ℕ :=
  match carried with
  | none => some 0
  | some id => (id.asInt32 casts).map toUint16

/-- The field is the text, or is missing and has it for a default. -/
def HasText (header : Json) (key missing text : String) : Prop :=
  match header.get? key with
  | some value => value = .str text
  | none => text = missing

/-- The fields beside the id can be read, and pass the validation. -/
structure FieldsPass (nowMs : ℤ) (activeCommandIds : List String) (signalId : ℕ) (header : Json) :
    Prop where
  isObject : header.isObject = true
  signalType : ∀ value ∈ header.get? "signal_type", ∃ text, value = .str text
  commandId : ∃ text, HasText header "command_id"
    ("CMD_" ++ toString signalId ++ "_" ++ toString nowMs) text ∧ text ≠ "" ∧
      text ∉ activeCommandIds
  issuedBy : ∃ text, HasText header "issued_by" "unknown_sender" text ∧ text ≠ ""
  eventTime : ∀ value ∈ header.get? "event_time",
    (∃ n, value = .int n) ∨ ∃ q, value = .float q

/-- An id that is missing, no integer, or beyond 16 bits is taken for a number that is
accepted. -/
def SlipsAs (casts : FloatCasts) (carried : Option Json) (id : ℕ) : Prop :=
  match carried with
  | none => id = 0
  | some (.int n) => (n < 1 ∨ 65535 < n) ∧ n % 65536 = id ∧ id ∈ 0 :: inboundIds
  | some (.float q) => toUint16 (casts.toInt32 q) = id ∧ id ∈ 0 :: inboundIds
  | some (.bool b) => b = false ∧ id = 0
  | some _ => False

/-- A message with an id that slips through is stopped by another field. -/
def NothingSlips (casts : FloatCasts) (nowMs : ℤ) (activeCommandIds : List String) (j : Json) :
    Prop :=
  ∀ id, SlipsAs casts (carriedId? j) id →
    ∀ header ∈ header? j, ¬ FieldsPass nowMs activeCommandIds id header

/-! ## What is accepted -/

theorem isInbound_iff (signalId : ℕ) : isInbound signalId = true ↔ signalId ∈ 0 :: inboundIds := by
  have hids : (commandRegistry.map SignalDescriptor.signalId).Nodup := by decide
  have hinbound : ∀ n, n ∈ 0 :: inboundIds ↔ n ∈ (commandRegistry.filter fun d =>
      d.direction = .inbound).map SignalDescriptor.signalId := by
    have hlist : (commandRegistry.filter fun d => d.direction = .inbound).map
        SignalDescriptor.signalId = inboundIds ++ [0] := by decide
    intro n
    rw [hlist, List.mem_append, List.mem_cons, List.mem_singleton, or_comm]
  rw [hinbound]
  unfold isInbound
  constructor
  · intro hfound
    split at hfound
    · rename_i d hd
      exact List.mem_map.mpr ⟨d, List.mem_filter.mpr ⟨List.mem_of_find?_eq_some hd, hfound⟩,
        by simpa using List.find?_some hd⟩
    · cases hfound
  · intro hmem
    obtain ⟨d, hd, rfl⟩ := List.mem_map.mp hmem
    obtain ⟨hd, hdirection⟩ := List.mem_filter.mp hd
    cases hfind : commandRegistry.find? fun d' => d'.signalId = d.signalId with
    | none => exact absurd (List.find?_eq_none.mp hfind d hd) (by simp)
    | some d' =>
        -- the ids of the registry are different
        have hsame : d'.signalId = d.signalId := by simpa using List.find?_some hfind
        rw [List.inj_on_of_nodup_map hids (List.mem_of_find?_eq_some hfind) hd hsame]
        exact hdirection

theorem validate_iff (activeCommandIds : List String) (cmd : Command) :
    (validate activeCommandIds cmd).1 = true ↔ cmd.signalId ∈ 0 :: inboundIds ∧
      (cmd.commandId ≠ "" ∧ cmd.commandId ∉ activeCommandIds) ∧ cmd.issuedBy ≠ "" := by
  rw [← isInbound_iff]
  unfold validate
  split_ifs with hinbound hmissing hduplicate
  · simp [hinbound]
  · rcases hmissing with hmissing | hmissing <;> simp [hmissing]
  · simp [hduplicate]
  · obtain ⟨hcommand, hissued⟩ := not_or.mp hmissing
    simp [hinbound, hcommand, hissued, hduplicate]

/-- What `validate` does to the known ids. -/
theorem validate_snd (activeCommandIds : List String) (cmd : Command) :
    (validate activeCommandIds cmd).2 =
      if (validate activeCommandIds cmd).1 then cmd.commandId :: activeCommandIds
      else activeCommandIds := by
  unfold validate
  by_cases hinbound : isInbound cmd.signalId = false
  · rw [if_pos hinbound]
    rfl
  by_cases hmissing : cmd.commandId = "" ∨ cmd.issuedBy = ""
  · rw [if_neg hinbound, if_pos hmissing]
    rfl
  by_cases hduplicate : cmd.commandId ∈ activeCommandIds
  · rw [if_neg hinbound, if_neg hmissing, if_pos hduplicate]
    rfl
  · rw [if_neg hinbound, if_neg hmissing, if_neg hduplicate]
    rfl

theorem parse_iff {casts : FloatCasts} {nowMs : ℤ} {j : Json} {cmd : Command} :
    parse casts nowMs j = .parsed cmd ↔
      ∃ header ∈ header? j, readCommand casts nowMs j header = some cmd := by
  unfold parse
  cases header? j with
  | none => simp
  | some header => cases hread : readCommand casts nowMs j header <;> simp [hread]

theorem isObject_of_header? {j header : Json} (hheader : header ∈ header? j) :
    j.isObject = true := by
  cases j with
  | obj fields => rfl
  | _ => cases hheader

section

variable {header : Json} (hobject : header.isObject = true)
include hobject

theorem fieldOr_iff {key missing text : String} :
    fieldOr header key missing = some text ↔ HasText header key missing text := by
  unfold fieldOr HasText Json.contains Json.value
  rw [if_pos hobject]
  cases hkey : header.get? key with
  | none => simp [eq_comm]
  | some value => cases value <;> simp [Json.asString]

theorem exists_signalId_iff (casts : FloatCasts) (n : ℕ) :
    (∃ id, Json.value (Json.asInt32 casts) header "signal_id" 0 = some id ∧ toUint16 id = n) ↔
      convertedId casts (header.get? "signal_id") = some n := by
  unfold Json.value convertedId
  rw [if_pos hobject]
  cases header.get? "signal_id" with
  | none => simp [toUint16, eq_comm]
  | some value => simp

theorem exists_signalType_iff :
    (∃ text, Json.value Json.asString header "signal_type" "" = some text) ↔
      ∀ value ∈ header.get? "signal_type", ∃ text, value = .str text := by
  unfold Json.value
  rw [if_pos hobject]
  cases header.get? "signal_type" with
  | none => simp
  | some value => cases value <;> simp [Json.asString]

theorem exists_eventTime_iff (casts : FloatCasts) :
    (∃ time, Json.value (Json.asInt64 casts) header "event_time" 0 = some time) ↔
      ∀ value ∈ header.get? "event_time", (∃ n, value = .int n) ∨ ∃ q, value = .float q := by
  unfold Json.value
  rw [if_pos hobject]
  cases header.get? "event_time" with
  | none => simp
  | some value => cases value <;> simp [Json.asInt64]

end

/-- Only objects can be read. -/
theorem isObject_of_readCommand {casts : FloatCasts} {nowMs : ℤ} {j header : Json} {cmd : Command}
    (hread : readCommand casts nowMs j header = some cmd) : header.isObject = true := by
  by_contra hobject
  have hnone : Json.value (Json.asInt32 casts) header "signal_id" 0 = none := if_neg hobject
  rw [readCommand, hnone] at hread
  cases hread

theorem carriedId?_of_header {j header : Json} (hheader : header ∈ header? j) :
    carriedId? j = header.get? "signal_id" := by
  rw [carriedId?, Option.mem_def.mp hheader]
  rfl

theorem exists_payload {j header : Json} (hheader : header ∈ header? j) :
    ∃ payload, Json.value some j "payload" (.obj []) = some payload := by
  unfold Json.value
  rw [if_pos (isObject_of_header? hheader)]
  cases j.get? "payload" <;> simp

/-- A message is accepted if its id is converted to 0 or to an inbound id, and its other
fields pass. -/
theorem accepted_iff (casts : FloatCasts) (nowMs : ℤ) (activeCommandIds : List String) (j : Json)
    (signalId : ℕ) :
    (∃ cmd, parse casts nowMs j = .parsed cmd ∧ (validate activeCommandIds cmd).1 = true ∧
        cmd.signalId = signalId) ↔
      (signalId ∈ 0 :: inboundIds ∧ convertedId casts (carriedId? j) = some signalId) ∧
        ∃ header ∈ header? j, FieldsPass nowMs activeCommandIds signalId header := by
  constructor
  · rintro ⟨cmd, hparse, hvalid, rfl⟩
    obtain ⟨header, hheader, hread⟩ := parse_iff.mp hparse
    obtain ⟨hinbound, hcommand, hissued⟩ := (validate_iff activeCommandIds cmd).mp hvalid
    have hobject := isObject_of_readCommand hread
    simp only [readCommand, Option.bind_eq_bind, Option.bind_eq_some_iff, Option.pure_def,
      Option.some.injEq] at hread
    obtain ⟨id, hid, signalType, htype, commandId, hcommandId, issuedBy, hissuedBy, eventTime,
      htime, payload, -, rfl⟩ := hread
    rw [carriedId?_of_header hheader]
    refine ⟨⟨hinbound, (exists_signalId_iff hobject casts _).mp ⟨id, hid, rfl⟩⟩, header, hheader,
      ?_⟩
    exact ⟨hobject, (exists_signalType_iff hobject).mp ⟨signalType, htype⟩,
      ⟨commandId, (fieldOr_iff hobject).mp hcommandId, hcommand⟩,
      ⟨issuedBy, (fieldOr_iff hobject).mp hissuedBy, hissued⟩,
      (exists_eventTime_iff hobject casts).mp ⟨eventTime, htime⟩⟩
  · rintro ⟨⟨hinbound, hconverted⟩, header, hheader, hobject, htype, ⟨commandId, hcommandId,
      hcommand⟩, ⟨issuedBy, hissuedBy, hissued⟩, htime⟩
    rw [carriedId?_of_header hheader] at hconverted
    obtain ⟨id, hid, rfl⟩ := (exists_signalId_iff hobject casts _).mpr hconverted
    obtain ⟨signalType, htype⟩ := (exists_signalType_iff hobject).mpr htype
    obtain ⟨eventTime, htime⟩ := (exists_eventTime_iff hobject casts).mpr htime
    obtain ⟨payload, hpayload⟩ := exists_payload hheader
    have hread : readCommand casts nowMs j header =
        some ⟨toUint16 id, signalType, commandId, issuedBy, eventTime, payload⟩ := by
      simp only [readCommand, Option.bind_eq_bind, Option.bind_eq_some_iff, Option.pure_def]
      exact ⟨id, hid, signalType, htype, commandId, (fieldOr_iff hobject).mpr hcommandId, issuedBy,
        (fieldOr_iff hobject).mpr hissuedBy, eventTime, htime, payload, hpayload, rfl⟩
    exact ⟨_, parse_iff.mpr ⟨header, hheader, hread⟩,
      (validate_iff activeCommandIds _).mpr ⟨hinbound, hcommand, hissued⟩, rfl⟩

/-! ## What slips through -/

theorem toUint16_wrap32_eq_iff (n : ℤ) (id : ℕ) : toUint16 (wrap32 n) = id ↔ n % 65536 = id := by
  have hmod : wrap32 n % 65536 = n % 65536 := by
    unfold wrap32 Int.bmod
    dsimp only
    split_ifs <;> omega
  unfold toUint16
  rw [hmod]
  omega

theorem pos_of_mem_inboundIds : ∀ n ∈ inboundIds, 1 ≤ n ∧ n ≤ 65535 := by decide

/-- An integer slips through only from beyond 16 bits: within them it is converted to itself. -/
theorem slipsAs_int_iff (casts : FloatCasts) (n : ℤ) (id : ℕ) :
    SlipsAs casts (some (.int n)) id ↔ (id ∈ 0 :: inboundIds ∧ n % 65536 = id) ∧
      ¬ ∃ m ∈ inboundIds, n = m := by
  constructor
  · rintro ⟨hbeyond, hmod, hmem⟩
    refine ⟨⟨hmem, hmod⟩, ?_⟩
    rintro ⟨m, hm, rfl⟩
    have hrange := pos_of_mem_inboundIds m hm
    omega
  · rintro ⟨⟨hmem, hmod⟩, hnot⟩
    refine ⟨?_, hmod, hmem⟩
    by_contra hwithin
    have hid : n = id := by omega
    rcases List.mem_cons.mp hmem with hzero | hinbound
    · omega
    · exact hnot ⟨id, hinbound, hid⟩

/-- An id slips through if it is converted to an accepted number, but is no inbound id. -/
theorem slipsAs_iff (casts : FloatCasts) (carried : Option Json) (id : ℕ) :
    SlipsAs casts carried id ↔ (id ∈ 0 :: inboundIds ∧ convertedId casts carried = some id) ∧
      ¬ ∃ n ∈ inboundIds, carried = some (.int n) := by
  cases carried with
  | none => simpa [SlipsAs, convertedId, eq_comm] using Or.inl
  | some value =>
      cases value with
      | int n =>
          have hconverted : convertedId casts (some (.int n)) = some id ↔ n % 65536 = id := by
            rw [← toUint16_wrap32_eq_iff]
            exact Option.some_inj
          rw [hconverted, slipsAs_int_iff]
          simp only [Option.some.injEq, Json.int.injEq]
      | float q =>
          have hconverted : convertedId casts (some (.float q)) = some id ↔
              toUint16 (casts.toInt32 q) = id := Option.some_inj
          rw [hconverted]
          simp [SlipsAs, and_comm]
      | bool b =>
          have hone : 1 ∉ 0 :: inboundIds := by decide
          cases b with
          | true =>
              refine iff_of_false (fun hslips => absurd hslips.1 (by decide)) ?_
              rintro ⟨⟨hmem, hconverted⟩, -⟩
              obtain rfl : 1 = id := Option.some.inj hconverted
              exact hone hmem
          | false =>
              have hconverted : convertedId casts (some (.bool false)) = some 0 := rfl
              rw [hconverted]
              simpa [SlipsAs, eq_comm] using Or.inl
      | _ => simp [SlipsAs, convertedId, Json.asInt32]

/-- **Admission, exactly.**  A message is admitted soundly if and only if its id does not slip
through the conversion. -/
theorem admissionSound_iff (casts : FloatCasts) (nowMs : ℤ) (activeCommandIds : List String)
    (j : Json) :
    AdmissionSound casts nowMs activeCommandIds j ↔
      NothingSlips casts nowMs activeCommandIds j := by
  constructor
  · intro hsound id hslips header hheader hfields
    obtain ⟨haccepted, hnot⟩ := (slipsAs_iff casts _ id).mp hslips
    obtain ⟨cmd, hparse, hvalid, -⟩ :=
      (accepted_iff casts nowMs activeCommandIds j id).mpr ⟨haccepted, header, hheader, hfields⟩
    obtain ⟨m, hm, hcarried, -⟩ := hsound cmd hparse hvalid
    exact hnot ⟨m, hm, hcarried⟩
  · intro hnothing cmd hparse hvalid
    obtain ⟨haccepted, header, hheader, hfields⟩ :=
      (accepted_iff casts nowMs activeCommandIds j cmd.signalId).mp ⟨cmd, hparse, hvalid, rfl⟩
    obtain ⟨m, hm, hcarried⟩ : ∃ m ∈ inboundIds, carriedId? j = some (.int m) := by
      by_contra hnot
      exact hnothing _ ((slipsAs_iff casts _ _).mpr ⟨haccepted, hnot⟩) header hheader hfields
    -- an inbound id is converted to itself, and has a handler
    have hself : ∀ m ∈ inboundIds, toUint16 (wrap32 m) = m := by decide
    have hhandler : ∀ m ∈ inboundIds, (dispatch m).isSome := by decide
    have hid : cmd.signalId = m := by
      have hsame : some (toUint16 (wrap32 m)) = some cmd.signalId := by
        rw [← haccepted.2, hcarried]
        rfl
      rw [← Option.some.inj hsame, hself m hm]
    obtain ⟨handler, hhandler⟩ := Option.isSome_iff_exists.mp (hhandler m hm)
    exact ⟨m, hm, hcarried, handler, hhandler, by rw [hid]; exact hhandler⟩

/-! ### A message without an id -/

/-- A header without `signal_id`. -/
def withoutId : Json :=
  .obj [("header", .obj [("command_id", .str "cmd-1"), ("issued_by", .str "owner")]),
    ("payload", .obj [])]

/-- The command that is read from it. -/
def commandZero : Command := ⟨0, "", "cmd-1", "owner", 0, .obj []⟩

/-- **Failing input.**  The message is accepted as a command with the id 0, which has no
handler. -/
theorem not_admissionSound_withoutId :
    (∀ casts, ¬ AdmissionSound casts 0 [] withoutId) ∧ (validate [] commandZero).1 = true ∧
      dispatch commandZero.signalId = none := by
  refine ⟨fun casts hsound => ?_, by decide, rfl⟩
  obtain ⟨n, -, hcarried, -⟩ := hsound commandZero rfl (by decide)
  cases hcarried

end OroEdge.Executor
