import OroEdge.Executor.Pipeline

/-!
# Exceptions of the parser

Whatever bytes a message has, `parse` should return: a command, or that there is none
(`Returns`).

It catches parse errors and nothing else.  So it returns exactly if no number of the text is
out of range, and every field of the header that it reads has the type that it expects
(`returns_parseText_iff`).  Any other message ends the process (`running_receive_iff`).

The JSON library is a parameter, as the property does not depend on its grammar: for a text it
gives a value, a parse error, or the exception for a number that is out of range, and `parse`
catches the second only.  `parseText` puts the parser of a JSON value behind it.

The rest is about values.  Each reader of the header succeeds under a condition on the type of
its field (`exists_asString_iff`, `exists_asInt32_iff`, `exists_value_iff`), and a missing field
has a default; so the conditions add up to `WellTyped` without any case split on the message
(`exists_readCommand_iff`).  A text that is no JSON, or has no header, is returned from early.
-/

namespace OroEdge.Executor

open OroEdge.Lib CommandDispatcher

/-! ## Parsing of bytes -/

/-- What the JSON library makes of a text: one of its two exceptions, or a value. -/
inductive ReadResult
  | parseError
  | outOfRange
  | json (j : Json)

/-- `parse` of a text, for what the JSON library makes of texts. -/
def parseText (readText : List UInt8 → ReadResult) (casts : FloatCasts) (nowMs : ℤ)
    (text : List UInt8) : Parsed :=
  match readText text with
  | .parseError => .rejected
  | .outOfRange => .threw
  | .json j => parse casts nowMs j

/-! ## The property -/

/-- The parser has returned, with a command or without one. -/
inductive Returns : Parsed → Prop
  | nullopt : Returns .rejected
  | command (cmd : Command) : Returns (.parsed cmd)

/-! ## The condition -/

/-- The fields of a header have the types that `parse` expects. -/
structure WellTyped (header : Json) : Prop where
  isObject : header.isObject = true
  signalId : ∀ value ∈ header.get? "signal_id",
    (∃ n, value = .int n) ∨ (∃ q, value = .float q) ∨ ∃ b, value = .bool b
  texts : ∀ key ∈ ["signal_type", "command_id", "issued_by"], ∀ value ∈ header.get? key,
    ∃ text, value = .str text
  eventTime : ∀ value ∈ header.get? "event_time",
    (∃ n, value = .int n) ∨ ∃ q, value = .float q

/-- A value that has a header has one of the right types. -/
def HeaderFits (j : Json) : Prop := ∀ header ∈ header? j, WellTyped header

/-! ## Readers that succeed -/

theorem exists_asString_iff {value : Json} :
    (∃ text, value.asString = some text) ↔ ∃ text, value = .str text := by
  cases value <;> simp [Json.asString]

theorem exists_asInt32_iff {casts : FloatCasts} {value : Json} :
    (∃ n, value.asInt32 casts = some n) ↔
      (∃ n, value = .int n) ∨ (∃ q, value = .float q) ∨ ∃ b, value = .bool b := by
  cases value <;> simp [Json.asInt32]

section

variable {header : Json} (hobject : header.isObject = true)
include hobject

theorem exists_value_iff {α : Type} {read : Json → Option α} {key : String} (fallback : α) :
    (∃ a, header.value read key fallback = some a) ↔
      ∀ value ∈ header.get? key, ∃ a, read value = some a := by
  rw [Json.value, if_pos hobject]
  cases header.get? key with
  | none => simp
  | some value => simp

theorem exists_fieldOr_iff {key missing : String} :
    (∃ text, fieldOr header key missing = some text) ↔
      ∀ value ∈ header.get? key, ∃ text, value = .str text := by
  unfold fieldOr
  split
  · simp only [exists_value_iff hobject "", exists_asString_iff]
  · rename_i hmissing
    have hnone : header.get? key = none := by
      simpa [Json.contains] using hmissing
    simp [hnone]

end

/-- A header is read exactly if its fields have the right types. -/
theorem exists_readCommand_iff (casts : FloatCasts) (nowMs : ℤ) (header : Json) {j : Json}
    (hobject : j.isObject = true) :
    (∃ cmd, readCommand casts nowMs j header = some cmd) ↔ WellTyped header := by
  constructor
  · rintro ⟨cmd, hread⟩
    have hheader := isObject_of_readCommand hread
    simp only [readCommand, Option.bind_eq_bind, Option.bind_eq_some_iff] at hread
    obtain ⟨signalId, hid, signalType, htype, commandId, hcommand, issuedBy, hissued, eventTime,
      htime, -⟩ := hread
    refine ⟨hheader, ?_, ?_, (exists_eventTime_iff hheader casts).mp ⟨eventTime, htime⟩⟩
    · intro value hvalue
      exact exists_asInt32_iff.mp ((exists_value_iff hheader 0).mp ⟨signalId, hid⟩ value hvalue)
    · intro key hkey
      simp only [List.mem_cons, List.not_mem_nil, or_false] at hkey
      rcases hkey with rfl | rfl | rfl
      · exact (exists_signalType_iff hheader).mp ⟨signalType, htype⟩
      · exact (exists_fieldOr_iff hheader).mp ⟨commandId, hcommand⟩
      · exact (exists_fieldOr_iff hheader).mp ⟨issuedBy, hissued⟩
  · rintro ⟨hheader, hid, htexts, htime⟩
    obtain ⟨signalId, hid⟩ := (exists_value_iff hheader 0).mpr fun value hvalue =>
      exists_asInt32_iff.mpr (hid value hvalue)
    obtain ⟨signalType, htype⟩ := (exists_signalType_iff hheader).mpr (htexts _ (by simp))
    obtain ⟨commandId, hcommand⟩ := (exists_fieldOr_iff hheader).mpr (htexts "command_id" (by simp))
    obtain ⟨issuedBy, hissued⟩ := (exists_fieldOr_iff hheader).mpr (htexts "issued_by" (by simp))
    obtain ⟨eventTime, htime⟩ := (exists_eventTime_iff hheader casts).mpr htime
    obtain ⟨payload, hpayload⟩ := (exists_value_iff hobject (.obj [])).mpr fun value _ =>
      ⟨value, rfl⟩
    simp only [readCommand, Option.bind_eq_bind, Option.bind_eq_some_iff]
    exact ⟨_, signalId, hid, signalType, htype, commandId, hcommand, issuedBy, hissued, eventTime,
      htime, payload, hpayload, rfl⟩

theorem returns_parse_iff (casts : FloatCasts) (nowMs : ℤ) (j : Json) :
    Returns (parse casts nowMs j) ↔ HeaderFits j := by
  unfold parse HeaderFits
  cases hheader : header? j with
  | none => simp [Returns.nullopt]
  | some header =>
      have hread := exists_readCommand_iff casts nowMs header (isObject_of_header? hheader)
      simp only [Option.mem_some_iff, forall_eq', ← hread]
      cases readCommand casts nowMs j header with
      | none => simpa using nofun
      | some cmd => simpa using Returns.command cmd

/-! ## The main results -/

/-- No exception escapes for a text exactly if its numbers are in range and its header has
fields of the right types. -/
theorem returns_parseText_iff (readText : List UInt8 → ReadResult) (casts : FloatCasts) (nowMs : ℤ)
    (text : List UInt8) :
    Returns (parseText readText casts nowMs text) ↔
      readText text ≠ .outOfRange ∧ ∀ j, readText text = .json j → HeaderFits j := by
  unfold parseText
  cases readText text with
  | parseError => simp [Returns.nullopt]
  | outOfRange => simpa using nofun
  | json j => simp [returns_parse_iff]

def bytes (text : String) : List UInt8 := text.toList.map fun c => c.toNat.toUInt8

/-- The library for two texts: an object whose header is a number, and a number that is beyond
those of `double`. -/
def readSamples (text : List UInt8) : ReadResult :=
  if text = bytes "\x7b\"header\":5\x7d" then .json (.obj [("header", .int 5)])
  else if text = bytes "1e999" then .outOfRange
  else .parseError

theorem not_returns_parseText :
    ¬ Returns (parseText readSamples .saturating 0 (bytes "\x7b\"header\":5\x7d")) ∧
    ¬ Returns (parseText readSamples .saturating 0 (bytes "1e999")) := by
  have hheader : readSamples (bytes "\x7b\"header\":5\x7d") =
      .json (.obj [("header", .int 5)]) := if_pos rfl
  have hnumber : readSamples (bytes "1e999") = .outOfRange := by
    rw [readSamples, if_neg (by decide), if_pos rfl]
  constructor
  · have hthrew : parseText readSamples .saturating 0 (bytes "\x7b\"header\":5\x7d") = .threw := by
      rw [parseText, hheader]
      rfl
    rw [hthrew]
    nofun
  · rw [parseText, hnumber]
    nofun

/-- The main loop has no handler of its own. -/
theorem running_receive_iff (s : Pipeline) (casts : FloatCasts) (nowMs : ℤ) (j : Json) :
    (s.receive casts nowMs j).running = true ↔ s.running = true ∧ HeaderFits j := by
  rw [← returns_parse_iff casts nowMs, Pipeline.receive]
  cases parse casts nowMs j with
  | rejected => simp [Returns.nullopt]
  | threw => simpa using nofun
  | parsed cmd => simp [Returns.command cmd]

end OroEdge.Executor
