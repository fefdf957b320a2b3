import OroEdge.Executor.Pipeline
import OroEdge.Executor.Responses

/-!
# Treats in the responses

The number of treats in the response to a `#85` command should be the truth: it is positive
for a success only, and it is the number of the row #125 (`ReportsTruthfully`).

The callback puts in a 1 where there is no number, and a command that is rejected or has
failed has none.  The number of a success is cast to an `int`; the logger takes it as it is.
So the property holds exactly for a success with a number that the cast keeps
(`reportsTruthfully_iff`).

A `#85` message has two ways to a response.  Either it is refused by `validate`, and the
callback makes a response without any number; or the worker runs the handler, and the callback
reads the number from its result.  In the first case, and in the second when the handler reports
a failure, the response is about a command that has dispensed nothing, and the 1 that is put in
is never true (`not_truthful_of_missing`).

For a success the number of the response is a cast of the number in the result, and the logger
has the number itself; both come from the same field, so that the cast decides
(`truthful_iff_of_completed`, `TreatsHandled.truthful_iff`).
-/

namespace OroEdge.Executor

open OroEdge.Lib CommandDispatcher SignalLogger Pipeline

/-! ## The property -/

/-- The number of treats in the result object of a message. -/
def treatsOf (m : Json) : Option ℚ := (m.at? ["result", "treats_dispensed"]).bind Json.asDouble

/-- What a message says about treats, beside the rows that are logged. -/
structure Truthful (m : Json) (rows : List LogRecord) : Prop where
  success : ∀ q ∈ treatsOf m, 0 < q → m.at? ["result", "status"] = some (.str "SUCCESS")
  logged : ∀ row ∈ rows, row.signalId = 125 → treatsOf m = some (row.numericVal.getD 0)

/-- The response to a command is truthful: that it is rejected, or what the worker says. -/
def ReportsTruthfully (activeCommandIds : List String) (e : Surroundings) (w : Worker)
    (cmd : Command) : Prop :=
  if (validate activeCommandIds cmd).1 then
    ∀ h, runHandler e w cmd = some h → ∀ m ∈ onResultCb e.casts e.nowMs h.execution,
      Truthful m (log h.worker.video.handlers.environment e.nowMs h.execution).records
  else ∀ m ∈ respond e.casts e.nowMs cmd .rejected validationFailed, Truthful m []

/-- A reply of `RadxaServices` about treats. -/
structure TreatReply (reply : Json) : Prop where
  isObject : reply.isObject = true
  nonneg : ∀ inner ∈ reply.get? "treats_dispensed", ∃ q, inner.asDouble = some q ∧ 0 ≤ q

/-- The treats that the reply tells of, or else those that the payload asks for. -/
def repliedTreats (reply payload : Json) : Option ℚ :=
  match reply.get? "treats_dispensed" with
  | some inner => inner.asDouble
  | none => readFirst Json.asDouble payload ["treat_quantity", "value"] 1

/-- `RadxaServices` has succeeded, with a number of treats that the cast keeps. -/
def CountsWhole (reply payload : Json) : Prop :=
  reply.get? "status" = some (.str "success") ∧ ∀ q ∈ repliedTreats reply payload, FitsInt q

/-! ## The response -/

section

variable {casts : FloatCasts} {cmd : Command} {status : CommandStatus} {result m : Json}

/-- Without a number, one treat is reported. -/
theorem treatsOf_missing (hresponse : Response casts cmd status result m)
    (h85 : cmd.signalId = 85) (hmissing : result.get? "treats_dispensed" = none) :
    treatsOf m = some 1 := by
  obtain ⟨treats, hreported, hget⟩ := hresponse.objectTreats h85
  rw [reportedTreats, hmissing] at hreported
  rw [treatsOf, hget, ← hreported]
  rfl

/-- A number is cast to an `int`. -/
theorem treatsOf_number (hresponse : Response casts cmd status result m)
    (h85 : cmd.signalId = 85) {inner : Json}
    (hinner : result.get? "treats_dispensed" = some inner) {q : ℚ}
    (hq : inner.asDouble = some q) : treatsOf m = some ((casts.toInt32 q : ℤ) : ℚ) := by
  obtain ⟨treats, hreported, hget⟩ := hresponse.objectTreats h85
  rw [reportedTreats, hinner] at hreported
  simp only [hq, Option.map_some, Option.some.injEq] at hreported
  rw [treatsOf, hget, ← hreported]
  rfl

/-- The one treat of a command that has not succeeded is not the truth. -/
theorem not_truthful_of_missing (hresponse : Response casts cmd status result m)
    (h85 : cmd.signalId = 85) (hmissing : result.get? "treats_dispensed" = none)
    (hstatus : status.text ≠ "SUCCESS") (rows : List LogRecord) : ¬ Truthful m rows := by
  intro htruthful
  have hsays := htruthful.success 1 (treatsOf_missing hresponse h85 hmissing) one_pos
  rw [hresponse.objectStatus] at hsays
  exact hstatus (by simpa using hsays)

theorem optionalNumeric_of_asDouble {key : String} {inner : Json} {q : ℚ}
    (hinner : result.get? key = some inner) (hq : inner.asDouble = some q) :
    optionalNumeric result key = some q := by
  unfold optionalNumeric
  rw [hinner]
  cases inner with
  | int n => exact hq
  | float p => exact hq
  | _ => cases hq

/-- A success is reported as it is logged if the cast keeps the number. -/
theorem truthful_iff_of_completed {environment : Option String} {nowMs : ℕ} {x : Execution}
    (h85 : x.cmd.signalId = 85) (hpayload : x.cmd.payload.dumps = true)
    (hresult : x.result.dumps = true) (hcompleted : x.completed = true)
    (hsent : onResultCb casts nowMs x = some m) {inner : Json}
    (hinner : x.result.get? "treats_dispensed" = some inner) {q : ℚ}
    (hq : inner.asDouble = some q) :
    Truthful m (log environment nowMs x).records ↔ FitsInt q := by
  have hresponse := response_of_respond hsent
  have htreats := treatsOf_number hresponse h85 hinner hq
  have hnumeric := optionalNumeric_of_asDouble hinner hq
  rw [← casts.toInt32_eq_iff]
  constructor
  · intro htruthful
    obtain ⟨hmem, h125⟩ := mem_log_treat_iff.mpr ⟨h85, hpayload, hresult, rfl⟩
    have hlogged := htruthful.logged _ hmem h125
    rw [htreats] at hlogged
    simpa [record, hnumeric] using hlogged
  · intro hkept
    refine ⟨fun _ _ _ => ?_, fun row hrow h125 => ?_⟩
    · have hstatus : x.status = .completed := if_pos hcompleted
      rw [hresponse.objectStatus, hstatus]
      rfl
    · obtain ⟨-, -, -, rfl⟩ := mem_log_treat_iff.mp ⟨hrow, h125⟩
      rw [htreats, hkept]
      simp [record, hnumeric]

end

/-! ## A command that is rejected -/

theorem not_truthful_of_rejected {cmd : Command} (h85 : cmd.signalId = 85) (casts : FloatCasts)
    (nowMs : ℕ) :
    ∃ m, respond casts nowMs cmd .rejected validationFailed = some m ∧ ¬ Truthful m [] := by
  have hrecord : validationFailed.Record := ⟨rfl, rfl⟩
  obtain ⟨m, hsent⟩ := exists_respond casts nowMs cmd .rejected hrecord
    fun _ inner hinner => by cases hinner
  exact ⟨m, hsent, not_truthful_of_missing (response_of_respond hsent) h85 rfl (by decide) []⟩

/-! ## A command that is run -/

section

variable {e : Surroundings} {w : Worker} {cmd : Command} {reply : Json}
  {parsed : reply.dumps = true}

theorem runHandler_treatDispense (h85 : cmd.signalId = 85) :
    runHandler e w cmd = handleTreatDispense e w cmd := by
  have hdispatch : dispatch cmd.signalId = some .treatDispense := by rw [h85]; rfl
  unfold runHandler
  rw [hdispatch]

/-- What the handler makes of a reply. -/
structure TreatsHandled (reply : Json) (cmd : Command) (h : Handled) : Prop where
  kept : h.cmd = cmd
  success : h.result.success = true ↔ reply.get? "status" = some (.str "success")
  data : h.result.success = true → h.result.data.Record ∧
    ∃ inner q, h.result.data.get? "treats_dispensed" = some inner ∧ inner.asDouble = some q ∧
      repliedTreats reply cmd.payload = some q

/-- The handler returns if quantity and speed can be read. -/
theorem exists_treatsHandled (hreply : e.radxaReply = .json reply parsed)
    (hradxa : TreatReply reply)
    (hquantity : Readable Json.asDouble cmd.payload ["treat_quantity", "value"])
    (hspeed : Readable (Json.asInt32 e.casts) cmd.payload ["treat_speed", "speed"]) :
    ∃ h, handleTreatDispense e w cmd = some h ∧ TreatsHandled reply cmd h := by
  obtain ⟨quantity, hquantity⟩ := (exists_readFirst_iff 1).mpr hquantity
  obtain ⟨speed, hspeed⟩ := (exists_readFirst_iff 3).mpr hspeed
  have hhandled (hres : (treatResult e.radxaReply).data.Record) :=
    exists_treatHandled w cmd hres quantity [.radxa (.obj [("speed", .int speed),
      ("topic", .str "/commands/treat/dispense"), ("value", .float quantity)])]
  by_cases hstatus : reply.get? "status" = some (.str "success")
  · have hresult : treatResult e.radxaReply = ⟨true, "", reply⟩ := by
      rw [hreply]
      exact treatResult_success parsed hstatus
    obtain ⟨data, hhandled, hrecord, htreats⟩ := hhandled (by
      rw [hresult]
      exact ⟨hradxa.isObject, parsed⟩)
    rw [hresult] at htreats
    refine ⟨_, by simpa [handleTreatDispense, hquantity, hspeed] using hhandled, rfl,
      iff_of_true (by rw [hresult]) hstatus, fun _ => ⟨hrecord, ?_⟩⟩
    unfold repliedTreats
    cases hget : reply.get? "treats_dispensed" with
    | none =>
        rw [hget] at htreats
        exact ⟨_, quantity, htreats, rfl, hquantity⟩
    | some inner =>
        rw [hget] at htreats
        obtain ⟨q, hq, -⟩ := hradxa.nonneg inner hget
        exact ⟨_, q, htreats, hq, hq⟩
  · obtain ⟨hfailure, hrecord⟩ : (treatResult e.radxaReply).success = false ∧
        (treatResult e.radxaReply).data.Record := by
      rw [hreply]
      refine treatResult_failure fun j _ hsame => ?_
      cases hsame
      exact hstatus
    obtain ⟨data, hhandled, -⟩ := hhandled hrecord
    exact ⟨_, by simpa [handleTreatDispense, hquantity, hspeed] using hhandled, rfl,
      iff_of_false (by simp [hfailure]) hstatus,
      fun hsuccess => absurd (hsuccess.symm.trans hfailure) (by decide)⟩

/-- The worker is truthful if and only if the reply counts whole treats. -/
theorem TreatsHandled.truthful_iff {h : Handled} (hh : TreatsHandled reply cmd h)
    (hpayload : cmd.payload.dumps = true) (h85 : cmd.signalId = 85) (environment : Option String)
    (casts : FloatCasts) (nowMs : ℕ) :
    (∀ m ∈ onResultCb casts nowMs h.execution,
      Truthful m (log environment nowMs h.execution).records) ↔ CountsWhole reply cmd.payload := by
  have h85 : h.execution.cmd.signalId = 85 := by
    show h.cmd.signalId = 85
    rw [hh.kept, h85]
  by_cases hsuccess : h.result.success = true
  · have hresult := result_of_success hsuccess
    obtain ⟨hrecord, inner, q, hinner, hq, hreplied⟩ := hh.data hsuccess
    rw [← hresult] at hrecord hinner
    obtain ⟨m, hsent⟩ := exists_respond casts nowMs h.execution.cmd h.execution.status hrecord
      fun _ inner' hinner' => by
        rw [hinner] at hinner'
        cases hinner'
        rw [hq]
        rfl
    have hpayload : h.execution.cmd.payload.dumps = true := by
      show h.cmd.payload.dumps = true
      rw [hh.kept, hpayload]
    have htruthful : Truthful m (log environment nowMs h.execution).records ↔ FitsInt q :=
      truthful_iff_of_completed h85 hpayload hrecord.dumps hsuccess hsent hinner hq
    have hsent : onResultCb casts nowMs h.execution = some m := hsent
    rw [hsent]
    simp only [Option.mem_def, Option.some.injEq, forall_eq', htruthful, CountsWhole, hreplied,
      hh.success.mp hsuccess, true_and]
  · obtain ⟨hrecord, -, hmissing⟩ := result_of_failure hsuccess
    have hmissing := hmissing "treats_dispensed" (by decide)
    obtain ⟨m, hsent⟩ := exists_respond casts nowMs h.execution.cmd h.execution.status hrecord
      fun _ inner hinner => by
        rw [hmissing] at hinner
        cases hinner
    have hfailed : h.execution.status.text ≠ "SUCCESS" := by
      rw [status_of_failure hsuccess]
      decide
    refine iff_of_false (fun htruthful => ?_) fun hcounts => hsuccess (hh.success.mpr hcounts.1)
    exact not_truthful_of_missing (response_of_respond hsent) h85 hmissing hfailed _
      (htruthful m hsent)

end

/-! ## Main theorem -/

theorem reportsTruthfully_iff_of_dumps (activeCommandIds : List String) {e : Surroundings}
    (w : Worker) {cmd : Command} (hpayload : cmd.payload.dumps = true) (h85 : cmd.signalId = 85)
    {reply : Json} {parsed : reply.dumps = true} (hreply : e.radxaReply = .json reply parsed)
    (hradxa : TreatReply reply) :
    ReportsTruthfully activeCommandIds e w cmd ↔
      (validate activeCommandIds cmd).1 = true ∧
        (Readable Json.asDouble cmd.payload ["treat_quantity", "value"] →
          Readable (Json.asInt32 e.casts) cmd.payload ["treat_speed", "speed"] →
            CountsWhole reply cmd.payload) := by
  unfold ReportsTruthfully
  by_cases haccepted : (validate activeCommandIds cmd).1 = true
  · rw [if_pos haccepted, runHandler_treatDispense h85]
    constructor
    · intro htruthful
      refine ⟨haccepted, fun hquantity hspeed => ?_⟩
      obtain ⟨h, hrun, hh⟩ := exists_treatsHandled (w := w) hreply hradxa hquantity hspeed
      exact (hh.truthful_iff hpayload h85 _ _ _).mp (htruthful h hrun)
    · rintro ⟨-, hcounts⟩ h hrun
      -- the handler has read what it needs
      have hread := hrun
      simp only [handleTreatDispense, Option.bind_eq_bind, Option.bind_eq_some_iff] at hread
      obtain ⟨quantity, hquantity, speed, hspeed, -⟩ := hread
      have hquantity := (exists_readFirst_iff 1).mp ⟨quantity, hquantity⟩
      have hspeed := (exists_readFirst_iff 3).mp ⟨speed, hspeed⟩
      obtain ⟨h', hrun', hh⟩ := exists_treatsHandled (w := w) hreply hradxa hquantity hspeed
      obtain rfl := Option.some.inj (hrun.symm.trans hrun')
      exact (hh.truthful_iff hpayload h85 _ _ _).mpr (hcounts hquantity hspeed)
  · rw [if_neg haccepted]
    obtain ⟨m, hsent, hnot⟩ := not_truthful_of_rejected h85 e.casts e.nowMs
    exact iff_of_false (fun htruthful => hnot (htruthful m hsent)) fun h => haccepted h.1

/-- **Truthful responses, exactly.**  What is said about the treats of a `#85` message is true
if and only if the command is accepted, and a payload that can be read meets a reply of success
with a number of treats that the cast to `int` keeps. -/
theorem reportsTruthfully_iff {casts : FloatCasts} {nowMs : ℤ} {j : Json} (hj : j.dumps = true)
    {cmd : Command} (hparse : parse casts nowMs j = .parsed cmd) (h85 : cmd.signalId = 85)
    (activeCommandIds : List String) (e : Surroundings) (w : Worker) {reply : Json}
    {parsed : reply.dumps = true} (hreply : e.radxaReply = .json reply parsed)
    (hradxa : TreatReply reply) :
    ReportsTruthfully activeCommandIds e w cmd ↔
      (validate activeCommandIds cmd).1 = true ∧
        (Readable Json.asDouble cmd.payload ["treat_quantity", "value"] →
          Readable (Json.asInt32 e.casts) cmd.payload ["treat_speed", "speed"] →
            CountsWhole reply cmd.payload) :=
  reportsTruthfully_iff_of_dumps activeCommandIds w (dumps_of_parse hj hparse) h85 hreply hradxa

/-! ### Two treats, and a jam -/

/-- The message that asks for two treats. -/
def twoTreatsMessage : Json :=
  .obj [("header", .obj [("command_id", .str "cmd-1"), ("issued_by", .str "owner"),
      ("signal_id", .int 85)]),
    ("payload", .obj [("treat_quantity", .int 2)])]

/-- The command that is read from it. -/
def twoTreats : Command := ⟨85, "", "cmd-1", "owner", 0, .obj [("treat_quantity", .int 2)]⟩

/-- `RadxaServices` replies with a status. -/
def treatReply (status : String) : Surroundings :=
  ⟨0, .timeout, .json (.obj [("status", .str status)]) rfl, .saturating, 0⟩

theorem treatReply_spec (status : String) : TreatReply (.obj [("status", .str status)]) :=
  ⟨rfl, fun inner hinner => by cases hinner⟩

theorem readable_twoTreats (casts : FloatCasts) :
    Readable Json.asDouble twoTreats.payload ["treat_quantity", "value"] ∧
    Readable (Json.asInt32 casts) twoTreats.payload ["treat_speed", "speed"] := by
  refine ⟨fun inner hinner => ?_, fun inner hinner => ?_⟩
  · obtain rfl : Json.int 2 = inner := Option.some.inj hinner
    rfl
  · cases hinner

theorem reportsTruthfully_twoTreats :
    ReportsTruthfully [] (treatReply "success") (.construct none) twoTreats := by
  have hj : twoTreatsMessage.dumps = true := rfl
  have hparse : parse .saturating 0 twoTreatsMessage = .parsed twoTreats := rfl
  refine (reportsTruthfully_iff hj hparse rfl [] _ _ rfl (treatReply_spec "success")).mpr
    ⟨by decide, fun _ _ => ⟨rfl, ?_⟩⟩
  rintro q hq
  obtain rfl : (2 : ℚ) = q := Option.some.inj hq
  exact ⟨2, rfl, by decide, by decide⟩

/-- **Failing input.**  The dispenser is jammed; the response says that the command has failed,
and that one treat has been dispensed. -/
theorem not_reportsTruthfully_jam :
    ¬ ReportsTruthfully [] (treatReply "jammed") (.construct none) twoTreats := by
  intro htruthful
  obtain ⟨-, hcounts⟩ := (reportsTruthfully_iff_of_dumps [] _ rfl rfl rfl
    (treatReply_spec "jammed")).mp htruthful
  obtain ⟨hquantity, hspeed⟩ := readable_twoTreats (treatReply "jammed").casts
  have hstatus : Json.str "jammed" = .str "success" :=
    Option.some.inj (hcounts hquantity hspeed).1
  exact absurd (Json.str.inj hstatus) (by decide)

end OroEdge.Executor
