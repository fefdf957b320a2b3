import OroEdge.Executor.LidOutcome
import OroEdge.Executor.McuAnswers

/-!
# The addressed lid

A `#64` command should move the lid that it names, and only that one, and open it exactly if
it asks for that (`OnlyAddressed`).

The handler reads both fields into eight bits, takes every lid but the second for the first,
and knows `open` in lower case only.  So the command is obeyed exactly as long as it names lid
1 or 2, gives no non-zero multiple of 256 as its action, and no other spelling of `open`
(`onlyAddressed_iff`), unless no packet is sent at all.

The proof goes through the packet.  `lidPacket?` is the handler up to the point where it has
handed its packet to the socket, so that the property can be stated without the replies of the
MCU, and `of_handleLidActuation_packet` says that a handler that returns has sent just this
packet.  `LidRequest.lidPacket?_eq_some_iff` then gives the packet of a well-typed payload,
unless it is `Refused`, and leaves two questions of arithmetic: whether the value of the packet
is the one that is asked for (`LidRequest.lidValue_iff`), and whether the number of the lid
survives the narrowing (`lid?_of_understood`).

A timeout beyond 32 bits is converted as the platform likes, so that `Refused` is stated for a
conversion that is given, and the theorem holds for each of them.
-/

namespace OroEdge.Executor

open OroEdge.Lib

/-! ## The packet -/

/-- The packet that the handler hands to the socket: what it does before it waits for a reply.
The socket refuses a timeout below -1. -/
def lidPacket? (casts : FloatCasts) (payload : Json) : Option Request := do
  let lidId ← readFirst (Json.asUint8 casts) payload ["lid_id"] 1
  let pid := if lidId = 2 then Peripheral.lid2Stepper else Peripheral.lid1Stepper
  let val := lidValue casts payload
  let rewritten ← rewriteAction payload (if val = 1 then "open" else "close")
  let timeoutMs ← readFirst (Json.asInt32 casts) rewritten ["timeout_ms"] 10000
  if timeoutMs < -1 then none else some (.mcu pid val timeoutMs)

/-- A handler that returns has sent the packet, and reports the number that it has read. -/
theorem of_handleLidActuation_packet {e : Surroundings} {w : Worker} {cmd : Command} {h : Handled}
    (hrun : handleLidActuation e w cmd = some h) : ∃ request lidId,
      lidPacket? e.casts cmd.payload = some request ∧ h.requests = [request] ∧
      readFirst (Json.asUint8 e.casts) cmd.payload ["lid_id"] 1 = some lidId ∧
      h.result.data.get? "lid_id" = some (.int lidId) := by
  simp only [handleLidActuation, Option.bind_eq_bind, Option.bind_eq_some_iff,
    Option.pure_def] at hrun
  obtain ⟨lidId, hlid, payload, hrewritten, timeoutMs, htimeout, res, hsend, action, -, data, hset,
    hreturn⟩ := hrun
  cases hreturn
  have hlow : ¬ timeoutMs < -1 := by
    intro hlow
    rw [sendPacketToMcu, if_pos hlow] at hsend
    cases hsend
  refine ⟨_, lidId, ?_, rfl, hlid, Json.get?_of_setAll? hset (by simp) (by simp)⟩
  simp only [lidPacket?, Option.bind_eq_bind, hlid, hrewritten, htimeout, Option.bind_some,
    if_neg hlow]

/-! ## The property -/

/-- The payloads in question: the lid and the action are integers, or the action is a text. -/
structure LidRequest (payload : Json) : Prop where
  isObject : payload.isObject = true
  lidId : ∀ inner ∈ payload.get? "lid_id", ∃ n, inner = .int n
  action : ∀ inner ∈ payload.get? "action", (∃ n, inner = .int n) ∨ ∃ s, inner = .str s

/-- The lid that a payload names; lid 1 if it names none. -/
def requestedLid (payload : Json) : ℤ :=
  match payload.get? "lid_id" with
  | some (.int n) => n
  | _ => 1

/-- Without an action, with a number other than 0, or with a word for it in any case. -/
def AsksToOpen (payload : Json) : Prop :=
  match payload.get? "action" with
  | some (.int n) => n ≠ 0
  | some (.str s) => lower s = "open".toList ∨ lower s = "1".toList
  | some _ => False
  | none => True

/-- The lid that a stepper moves. -/
def Peripheral.lid? : Peripheral → Option ℤ
  | lid1Stepper => some 1
  | lid2Stepper => some 2
  | cameraStepper => none

/-- A packet goes to the lid that is asked for, and opens it if that is asked for; and the
result names the lid that has been moved. -/
structure OnlyAddressed (casts : FloatCasts) (payload : Json) : Prop where
  lid : ∀ peripheral value timeoutMs,
    lidPacket? casts payload = some (.mcu peripheral value timeoutMs) →
      peripheral.lid? = some (requestedLid payload)
  value : ∀ peripheral value timeoutMs,
    lidPacket? casts payload = some (.mcu peripheral value timeoutMs) →
      (value = 1 ↔ AsksToOpen payload)
  result : ∀ e w cmd h, e.casts = casts → cmd.payload = payload →
    handleLidActuation e w cmd = some h →
    ∀ peripheral value timeoutMs, h.requests = [.mcu peripheral value timeoutMs] →
      ∃ lid, peripheral.lid? = some lid ∧ h.result.data.get? "lid_id" = some (.int lid)

/-! ## The condition -/

/-- The timeout is no number, or one that the socket refuses, so that no packet is sent. -/
def Refused (casts : FloatCasts) (payload : Json) : Prop :=
  ∀ timeoutMs, readFirst (Json.asInt32 casts) payload ["timeout_ms"] 10000 = some timeoutMs →
    timeoutMs < -1

/-- The action is no number that is reduced to 0, and no word for `open` in other letters. -/
def PlainAction (payload : Json) : Prop :=
  match payload.get? "action" with
  | some (.int n) => n % 256 = 0 → n = 0
  | some (.str s) => lower s = "open".toList ∨ lower s = "1".toList → s = "open" ∨ s = "1"
  | _ => True

/-- The command names one of the two lids, and its action is plain. -/
def Understood (payload : Json) : Prop :=
  (requestedLid payload = 1 ∨ requestedLid payload = 2) ∧ PlainAction payload

section

variable {casts : FloatCasts} {payload : Json}

theorem LidRequest.readFirst_lidId (hrequest : LidRequest payload) :
    readFirst (Json.asUint8 casts) payload ["lid_id"] 1 = some (requestedLid payload % 256) := by
  unfold readFirst requestedLid
  cases hlid : payload.get? "lid_id" with
  | none => simp [hlid]
  | some inner =>
      obtain ⟨n, rfl⟩ := hrequest.lidId inner hlid
      simp [hlid, Json.asUint8]

/-- The packet is sent, unless it is refused. -/
theorem LidRequest.lidPacket?_eq_some_iff (hrequest : LidRequest payload) {request : Request} :
    lidPacket? casts payload = some request ↔ ∃ timeoutMs,
      readFirst (Json.asInt32 casts) payload ["timeout_ms"] 10000 = some timeoutMs ∧
      ¬ timeoutMs < -1 ∧
      request = .mcu (if requestedLid payload % 256 = 2 then .lid2Stepper else .lid1Stepper)
        (lidValue casts payload) timeoutMs := by
  obtain ⟨rewritten, hrewritten⟩ :=
    exists_rewriteAction payload (if lidValue casts payload = 1 then "open" else "close")
  have htimeout := readFirst_timeout casts (of_rewriteAction hrewritten).2.1 10000
  simp only [lidPacket?, Option.bind_eq_bind, hrequest.readFirst_lidId, hrewritten,
    Option.bind_some, htimeout, Option.bind_eq_some_iff]
  constructor
  · rintro ⟨timeoutMs, hread, hsent⟩
    by_cases hlow : timeoutMs < -1
    · simp [hlow] at hsent
    · rw [if_neg hlow] at hsent
      exact ⟨timeoutMs, hread, hlow, (Option.some.inj hsent).symm⟩
  · rintro ⟨timeoutMs, hread, hlow, rfl⟩
    exact ⟨timeoutMs, hread, by rw [if_neg hlow]⟩

/-- The narrowing takes a number to 0 exactly if it is a multiple of 256. -/
theorem bmod_eq_zero_iff (n : ℤ) : n.bmod 256 = 0 ↔ n % 256 = 0 := by
  have hmod := n.emod_nonneg (b := 256) (by omega)
  rw [Int.bmod_def]
  split_ifs <;> omega

theorem lower_of_word {s : String} (hword : s = "open" ∨ s = "1") :
    lower s = "open".toList ∨ lower s = "1".toList := by
  rcases hword with rfl | rfl
  · exact Or.inl (by decide)
  · exact Or.inr (by decide)

/-- The value is the one that is asked for exactly if the action is plain. -/
theorem LidRequest.lidValue_iff (hrequest : LidRequest payload) :
    (lidValue casts payload = 1 ↔ AsksToOpen payload) ↔ PlainAction payload := by
  unfold lidValue AsksToOpen PlainAction
  cases haction : payload.get? "action" with
  | none => simp
  | some inner =>
      rcases hrequest.action inner haction with ⟨n, rfl⟩ | ⟨s, rfl⟩
      · simp only [bmod_eq_zero_iff]
        by_cases hzero : n % 256 = 0 <;> simp [hzero]
        omega
      · by_cases hword : s = "open" ∨ s = "1"
        · simpa [hword] using lower_of_word hword
        · simp [hword]

/-- Without a packet, nothing moves. -/
theorem LidRequest.onlyAddressed_of_refused (hrequest : LidRequest payload)
    (hrefused : Refused casts payload) : OnlyAddressed casts payload := by
  have hunsent : ∀ request, lidPacket? casts payload ≠ some request := by
    intro request hsent
    obtain ⟨timeoutMs, hread, hlow, -⟩ := hrequest.lidPacket?_eq_some_iff.mp hsent
    exact hlow (hrefused timeoutMs hread)
  constructor
  · intro peripheral value timeoutMs hsent
    exact absurd hsent (hunsent _)
  · intro peripheral value timeoutMs hsent
    exact absurd hsent (hunsent _)
  · intro e w cmd h hcasts hpayload hrun
    obtain ⟨request, -, hsent, -⟩ := of_handleLidActuation_packet hrun
    exact absurd (hcasts ▸ hpayload ▸ hsent) (hunsent request)

/-- A number of a lid is not changed by the reduction, and picks the stepper of the lid. -/
theorem lid?_of_understood (hunderstood : Understood payload) :
    requestedLid payload % 256 = requestedLid payload ∧
      (if requestedLid payload % 256 = 2 then Peripheral.lid2Stepper
        else .lid1Stepper).lid? = some (requestedLid payload) := by
  rcases hunderstood.1 with hone | htwo
  · simp [hone, Peripheral.lid?]
  · simp [htwo, Peripheral.lid?]

theorem LidRequest.onlyAddressed_of_understood (hrequest : LidRequest payload)
    (hunderstood : Understood payload) : OnlyAddressed casts payload := by
  obtain ⟨hsame, hmoved⟩ := lid?_of_understood hunderstood
  constructor
  · intro peripheral value timeoutMs hsent
    obtain ⟨_, -, -, hrequested⟩ := hrequest.lidPacket?_eq_some_iff.mp hsent
    cases hrequested
    exact hmoved
  · intro peripheral value timeoutMs hsent
    obtain ⟨_, -, -, hrequested⟩ := hrequest.lidPacket?_eq_some_iff.mp hsent
    cases hrequested
    exact hrequest.lidValue_iff.mpr hunderstood.2
  · intro e w cmd h hcasts hpayload hrun peripheral value timeoutMs hrequests
    subst hcasts hpayload
    obtain ⟨request, lidId, hsent, honly, hread, hresult⟩ := of_handleLidActuation_packet hrun
    obtain ⟨_, -, -, hrequested⟩ := hrequest.lidPacket?_eq_some_iff.mp hsent
    rw [honly, hrequested] at hrequests
    cases hrequests
    have hlid : requestedLid cmd.payload % 256 = lidId :=
      Option.some.inj (hrequest.readFirst_lidId.symm.trans hread)
    refine ⟨lidId, ?_, hresult⟩
    rw [hmoved, ← hlid, hsame]

/-- A packet that is sent as it should be has been understood. -/
theorem LidRequest.understood_of_onlyAddressed (hrequest : LidRequest payload)
    (hobeyed : OnlyAddressed casts payload) (hsent : ¬ Refused casts payload) :
    Understood payload := by
  simp only [Refused, not_forall] at hsent
  obtain ⟨timeoutMs, hread, hlow⟩ := hsent
  have hpacket := hrequest.lidPacket?_eq_some_iff.mpr ⟨timeoutMs, hread, hlow, rfl⟩
  have hlid := hobeyed.lid _ _ _ hpacket
  refine ⟨?_, hrequest.lidValue_iff.mp (hobeyed.value _ _ _ hpacket)⟩
  split_ifs at hlid
  · exact Or.inr (Option.some.inj hlid).symm
  · exact Or.inl (Option.some.inj hlid).symm

/-- **Only the addressed lid, exactly.**  Every command that is understood is obeyed, and of the
others those that send no packet. -/
theorem onlyAddressed_iff (hrequest : LidRequest payload) :
    OnlyAddressed casts payload ↔ Refused casts payload ∨ Understood payload := by
  constructor
  · intro hobeyed
    by_cases hrefused : Refused casts payload
    · exact Or.inl hrefused
    · exact Or.inr (hrequest.understood_of_onlyAddressed hobeyed hrefused)
  · rintro (hrefused | hunderstood)
    · exact hrequest.onlyAddressed_of_refused hrefused
    · exact hrequest.onlyAddressed_of_understood hunderstood

end

/-- A payload with a lid and an action. -/
def lidPayload (lidId : ℤ) (action : Json) : Json :=
  .obj [("action", action), ("lid_id", .int lidId)]

theorem lidRequest_lidPayload (lidId : ℤ) {action : Json}
    (haction : (∃ n, action = .int n) ∨ ∃ s, action = .str s) :
    LidRequest (lidPayload lidId action) := by
  refine ⟨rfl, ?_, ?_⟩
  · intro inner hinner
    exact ⟨lidId, (Option.some.inj hinner).symm⟩
  · intro inner hinner
    cases Option.some.inj hinner
    exact haction

theorem onlyAddressed_openFirst :
    LidRequest (lidPayload 1 (.str "open")) ∧
    (OnlyAddressed .saturating (lidPayload 1 (.str "open")) ↔
      Refused .saturating (lidPayload 1 (.str "open")) ∨
        Understood (lidPayload 1 (.str "open"))) :=
  have hrequest := lidRequest_lidPayload 1 (Or.inr ⟨"open", rfl⟩)
  ⟨hrequest, onlyAddressed_iff hrequest⟩

/-- The payload of the integration test closes the lid, and one for a lid 3 opens lid 1. -/
theorem not_onlyAddressed_capitals :
    (LidRequest (lidPayload 1 (.str "OPEN")) ∧
      ∀ casts, ¬ OnlyAddressed casts (lidPayload 1 (.str "OPEN"))) ∧
    LidRequest (lidPayload 3 (.int 1)) ∧
      ∀ casts, ¬ OnlyAddressed casts (lidPayload 3 (.int 1)) := by
  refine ⟨⟨lidRequest_lidPayload 1 (Or.inr ⟨"OPEN", rfl⟩), ?_⟩,
    lidRequest_lidPayload 3 (Or.inl ⟨1, rfl⟩), ?_⟩
  · intro casts hobeyed
    have hvalue := hobeyed.value .lid1Stepper 0 10000 rfl
    have hasked : AsksToOpen (lidPayload 1 (.str "OPEN")) := Or.inl (by decide)
    have hopen : (0 : ℤ) = 1 := hvalue.mpr hasked
    omega
  · intro casts hobeyed
    have hlid : some (1 : ℤ) = some 3 := hobeyed.lid .lid1Stepper 1 10000 rfl
    simp at hlid

end OroEdge.Executor
