import OroEdge.Executor.AtMostOnce
import OroEdge.Lib.Stamp

/-!
# The ids of commands

All commands that are pushed should have different ids, and a valid message that has no
`command_id` should not be refused as a duplicate (`UniqueIds`).

Two ids are generated: `CMD_`, the signal and the time for a message without one, and
`hw_evt_`, the signal and the time for a manual event.  Neither names the message or the
lid, and the time is in milliseconds.  So the property holds in a run in which no two such
messages for one signal, and no two events for one signal, share a millisecond
(`StampsApart`).

The invariant has two halves, as ids come from two places.  `Messages` says that the commands of
the messages have generated ids or a sender's and that no two messages have clashed, and
`Events` says the same of the events; both are preserved by a turn that makes no clash
(`messages_turn`, `events_turn`).  That the ids of messages differ then is an argument about
names: two of them are equal only if the messages carry the same id, which `validate` has
refused, or have been stamped alike (`Message.Named.same`).  A message and an event never share
an id, as the two generated kinds begin differently and `NamesGiven` keeps senders from using
either (`Unique.disjoint`).

The order of the queue and the numbers of the messages come from `AtMostOnce` and are not proved
again.
-/

namespace OroEdge.Executor

open OroEdge.Lib CommandDispatcher

/-! ## The property -/

/-- The header of a message has no `command_id`. -/
def Keyless (j : Json) : Prop := ∀ header ∈ header? j, header.contains "command_id" = false

/-- A sender's id is not one of the generated kinds. -/
def GivenId (text : String) : Prop := ¬ BeginsWith "hw_evt_" text ∧ ¬ BeginsWith "CMD_" text

namespace Pipeline

/-- The `command_id` of a message, if it has one, is a sender's. -/
def NamesGiven : Action → Prop
  | .receive _ _ (some j) => ∀ header ∈ header? j, ∀ text,
      header.get? "command_id" = some (.str text) → GivenId text
  | _ => True

/-- The pushed commands have ids of their own, and no message is refused for an id that the parser
has made up. -/
structure UniqueIds (s : Pipeline) : Prop where
  distinct : (s.pushed.map fun entry => entry.cmd.commandId).Nodup
  /-- A message without a `command_id` is refused for another reason only. -/
  notDuplicate : ∀ n ∈ s.refused, ∀ m ∈ s.messages[n]?, Keyless m.json → ¬ m.cmd.Valid

/-- No message without a `command_id` is parsed in the millisecond of an earlier one with its
signal, and no event is emitted in the millisecond of an earlier one of its kind. -/
def StampsApart (s : Pipeline) : Action → Prop
  | .receive casts nowMs (some j) => ∀ cmd, parse casts nowMs j = .parsed cmd → Keyless j →
      cmd.Valid → ∀ m ∈ s.messages, Keyless m.json → m.cmd.Valid → m.cmd.signalId = cmd.signalId →
        m.nowMs ≠ nowMs
  | .status clocks m => ∀ lid signalId, StatusSubscriber.Emits clocks s.subscriber m lid signalId →
      ∀ entry ∈ s.pushed, entry.message = none → entry.cmd.signalId = signalId →
        entry.cmd.eventTime ≠ clocks.nowMs
  | _ => True

end Pipeline

/-! ## Generated ids -/

theorem commandId_of_parse {casts : FloatCasts} {nowMs : ℤ} {j : Json} {cmd : Command}
    (hparse : parse casts nowMs j = .parsed cmd) :
    (Keyless j → cmd.commandId = stamped "CMD_" cmd.signalId nowMs) ∧
      (¬ Keyless j → ∃ header ∈ header? j,
        header.get? "command_id" = some (.str cmd.commandId)) := by
  obtain ⟨header, hheader, hread⟩ := parse_iff.mp hparse
  have hobject := isObject_of_readCommand hread
  simp only [readCommand, Option.bind_eq_bind, Option.bind_eq_some_iff, Option.pure_def,
    Option.some.injEq] at hread
  obtain ⟨id, -, signalType, -, commandId, hid, issuedBy, -, eventTime, -, payload, -, rfl⟩ := hread
  have htext := (fieldOr_iff hobject).mp hid
  unfold HasText at htext
  cases hget : header.get? "command_id" with
  | none =>
      rw [hget] at htext
      refine ⟨fun _ => htext, fun hkey => absurd (fun other hother => ?_) hkey⟩
      obtain rfl := Option.mem_unique hheader hother
      rw [Json.contains, hget]
      rfl
  | some value =>
      rw [hget] at htext
      simp only [] at htext
      refine ⟨fun hkeyless => ?_, fun _ => ⟨header, hheader, by rw [hget, htext]⟩⟩
      have hcontains := hkeyless header hheader
      rw [Json.contains, hget] at hcontains
      cases hcontains

/-- A command of a message has a generated id, or a sender's. -/
structure Message.Named (m : Message) : Prop where
  keyless : Keyless m.json → m.cmd.commandId = stamped "CMD_" m.cmd.signalId m.nowMs
  given : ¬ Keyless m.json → GivenId m.cmd.commandId

theorem Message.Named.notEvent {m : Message} (hm : m.Named) :
    ¬ BeginsWith "hw_evt_" m.cmd.commandId := by
  by_cases hkeyless : Keyless m.json
  · rw [hm.keyless hkeyless]
    exact (beginsWith_stamped _ _ _).not (by decide)
  · exact (hm.given hkeyless).1

/-- Two messages of which the second has no `command_id` have one id only if they have been
stamped alike. -/
theorem Message.Named.same {m m' : Message} (hm : m.Named) (hm' : m'.Named)
    (hkeyless : Keyless m'.json) (hsame : m.cmd.commandId = m'.cmd.commandId) :
    Keyless m.json ∧ m.cmd.signalId = m'.cmd.signalId ∧ m.nowMs = m'.nowMs := by
  rw [hm'.keyless hkeyless] at hsame
  have hkey : Keyless m.json := by
    by_contra hgiven
    refine (hm.given hgiven).2 ?_
    rw [hsame]
    exact beginsWith_stamped _ _ _
  rw [hm.keyless hkey] at hsame
  exact ⟨hkey, stamped_inj.mp hsame⟩

theorem commandId_manualCommand (nowMs : ℤ) (lid : Lid) (signalId : ℕ) :
    (manualCommand nowMs lid signalId).commandId = stamped "hw_evt_" signalId nowMs := rfl

/-! ## Steps -/

/-- The message that has been parsed and not yet validated. -/
def MainStage.reading : MainStage → List Message
  | parsed _ m => [m]
  | _ => []

namespace Pipeline

variable {s s' : Pipeline} {action : Action}

/-- Both have no `command_id`, are valid, and have one signal and one time. -/
def Clash (m m' : Message) : Prop :=
  (Keyless m.json ∧ m.cmd.Valid) ∧ (Keyless m'.json ∧ m'.cmd.Valid) ∧
    m.cmd.signalId = m'.cmd.signalId ∧ m.nowMs = m'.nowMs

/-- Both are events, of one kind and one time. -/
def EventClash (e e' : Entry) : Prop :=
  (e.message = none ∧ e'.message = none) ∧ e.cmd.signalId = e'.cmd.signalId ∧
    e.cmd.eventTime = e'.cmd.eventTime

/-- What is known about the messages. -/
structure Messages (s : Pipeline) : Prop where
  named : ∀ m ∈ s.messages, m.Named
  apart : s.messages.Pairwise fun m m' => ¬ Clash m m'
  /-- The one that is being read is the last. -/
  reading : ∃ earlier, s.messages = earlier ++ s.main.reading ∧
    ∀ n m, s.main = .parsed n m → n = earlier.length

/-- What is known about the events. -/
structure Events (s : Pipeline) : Prop where
  stamped : ∀ entry ∈ s.pushed, entry.message = none →
    entry.cmd.commandId = stamped "hw_evt_" entry.cmd.signalId entry.cmd.eventTime
  apart : s.pushed.Pairwise fun e e' => ¬ EventClash e e'

theorem messages_turn (hturn : Turn s action s') (hgiven : NamesGiven action)
    (happart : StampsApart s action) (hs : Messages s) : Messages s' := by
  have hkeep : ∀ s'' : Pipeline, s''.messages = s.messages → s''.main.reading = [] →
      (∀ n m, s''.main ≠ .parsed n m) → Messages s'' := by
    intro s'' hmessages hreading hmain
    refine ⟨by rw [hmessages]; exact hs.named, by rw [hmessages]; exact hs.apart, s.messages, ?_,
      fun n m h => absurd h (hmain n m)⟩
    rw [hmessages, hreading, List.append_nil]
  cases hturn with
  | idle => exact hs
  | ends => exact ⟨hs.named, hs.apart, hs.reading⟩
  | @receive casts nowMs j cmd hmain hparse =>
      obtain ⟨hkeyless, hkeyed⟩ := commandId_of_parse hparse
      refine ⟨fun m hm => ?_, ?_, s.messages, rfl, fun n m h => ?_⟩
      · rcases List.mem_append.mp hm with hm | hm
        · exact hs.named m hm
        · rw [List.mem_singleton.mp hm]
          refine ⟨hkeyless, fun hnot => ?_⟩
          obtain ⟨header, hheader, hget⟩ := hkeyed hnot
          exact hgiven header hheader _ hget
      · rw [List.pairwise_append]
        refine ⟨hs.apart, List.pairwise_singleton _ _, ?_⟩
        rintro m hm _ hnew ⟨⟨hkey, hvalid⟩, ⟨hkey', hvalid'⟩, hsignal, htime⟩
        obtain rfl := List.mem_singleton.mp hnew
        exact happart cmd hparse hkey' hvalid' m hm hkey hvalid hsignal htime
      · cases h
        rfl
  | accept hmain hvalid => exact hkeep _ rfl rfl fun _ _ => MainStage.noConfusion
  | refuse hmain hrefused => exact hkeep _ rfl rfl fun _ _ => MainStage.noConfusion
  | push hmain => exact hkeep _ rfl rfl fun _ _ => MainStage.noConfusion
  | status clocks m => exact ⟨hs.named, hs.apart, hs.reading⟩
  | pop hcurrent hqueue => exact ⟨hs.named, hs.apart, hs.reading⟩
  | process hcurrent hrun => exact ⟨hs.named, hs.apart, hs.reading⟩

theorem events_turn (hturn : Turn s action s') (happart : StampsApart s action)
    (hs : Events s) : Events s' := by
  cases hturn with
  | idle => exact hs
  | ends => exact ⟨hs.stamped, hs.apart⟩
  | receive hmain hparse => exact ⟨hs.stamped, hs.apart⟩
  | accept hmain hvalid => exact ⟨hs.stamped, hs.apart⟩
  | refuse hmain hrefused => exact ⟨hs.stamped, hs.apart⟩
  | @push n cmd hmain =>
      -- the pushed command is not an event
      refine ⟨fun entry hentry hnone => ?_, ?_⟩
      · rcases List.mem_append.mp hentry with hentry | hentry
        · exact hs.stamped entry hentry hnone
        · rw [List.mem_singleton.mp hentry] at hnone
          cases hnone
      · refine List.pairwise_append.mpr ⟨hs.apart, List.pairwise_singleton _ _, ?_⟩
        rintro e he e' he' ⟨⟨-, hnone⟩, -⟩
        rw [List.mem_singleton.mp he'] at hnone
        cases hnone
  | status clocks m =>
      cases hemitted : (s.subscriber.handleMessage clocks m).2 with
      | none =>
          refine ⟨?_, ?_⟩
          · simpa [enqueue] using hs.stamped
          · simpa [enqueue] using hs.apart
      | some cmd =>
          obtain ⟨lid, signalId, hemits, rfl⟩ :=
            StatusSubscriber.handleMessage_snd_eq_some_iff.mp hemitted
          refine ⟨fun entry hentry hnone => ?_, ?_⟩
          · rcases List.mem_append.mp hentry with hentry | hentry
            · exact hs.stamped entry hentry hnone
            · rw [List.mem_singleton.mp hentry]
              exact commandId_manualCommand clocks.nowMs lid signalId
          · refine List.pairwise_append.mpr ⟨hs.apart, List.pairwise_singleton _ _, ?_⟩
            rintro e he e' he' ⟨⟨hnone, -⟩, hsignal, htime⟩
            rw [List.mem_singleton.mp he'] at hsignal htime
            exact happart lid signalId hemits e he hnone hsignal htime
  | pop hcurrent hqueue => exact ⟨hs.stamped, hs.apart⟩
  | process hcurrent hrun => exact ⟨hs.stamped, hs.apart⟩

/-- An accepted command comes from a message that is not being read. -/
theorem exists_message_of_mem_accepted (hs : Filtered s) {earlier : List Message}
    (hmessages : s.messages = earlier ++ s.main.reading) {cmd : Command}
    (hcmd : cmd ∈ s.accepted) : ∃ m ∈ earlier, m.cmd = cmd ∧ m.cmd.Valid := by
  obtain ⟨judged, hjudged, hadmitted⟩ := hs.judged
  have hunjudged : s.main.unjudged = s.main.reading.map Message.cmd := by
    cases s.main <;> rfl
  rw [hmessages, hunjudged, List.map_append, List.append_cancel_right_eq] at hjudged
  rw [hadmitted] at hcmd
  have hmem := (admitted_sublist _ _).subset hcmd
  obtain ⟨hmem, hvalid⟩ := List.mem_filter.mp hmem
  rw [← hjudged] at hmem
  obtain ⟨m, hm, rfl⟩ := List.mem_map.mp hmem
  exact ⟨m, hm, rfl, of_decide_eq_true hvalid⟩

/-- The message that is being read is the last one. -/
theorem Messages.split (hs : Messages s) {n : ℕ} {m : Message} (hmain : s.main = .parsed n m) :
    ∃ earlier, s.messages = earlier ++ [m] ∧ n = earlier.length := by
  obtain ⟨earlier, hmessages, hnumber⟩ := hs.reading
  refine ⟨earlier, ?_, hnumber n m hmain⟩
  rw [hmessages, hmain]
  rfl

/-- The id of a message without a `command_id` is not known when it is read. -/
theorem Messages.notKnown (hs : Messages s) (hfiltered : Filtered s) {n : ℕ} {m : Message}
    (hmain : s.main = .parsed n m) (hkeyless : Keyless m.json) (hvalid : m.cmd.Valid) :
    m.cmd.commandId ∉ s.activeCommandIds := by
  intro hknown
  rw [mem_known_iff hfiltered] at hknown
  obtain ⟨cmd, hcmd, hsame⟩ := List.mem_map.mp hknown
  obtain ⟨earlier, hmessages, -⟩ := hs.split hmain
  have hreading : s.messages = earlier ++ s.main.reading := by rw [hmessages, hmain]; rfl
  -- an earlier message has been stamped alike
  obtain ⟨other, hother, rfl, hother'⟩ := exists_message_of_mem_accepted hfiltered hreading hcmd
  have hnamed : other.Named := hs.named other (by rw [hmessages]; simp [hother])
  have hnamed' : m.Named := hs.named m (by rw [hmessages]; simp)
  obtain ⟨hkey, hsignal, htime⟩ := hnamed.same hnamed' hkeyless hsame
  have hapart := hs.apart
  rw [hmessages, List.pairwise_append] at hapart
  exact hapart.2.2 other hother m (List.mem_singleton_self _)
    ⟨⟨hkey, hother'⟩, ⟨hkeyless, hvalid⟩, hsignal, htime⟩

/-- A message without a `command_id` is not refused as a duplicate. -/
theorem notDuplicate_turn (hturn : Turn s action s') (hfiltered : Filtered s) (hs : Messages s)
    (hrefused : ∀ n ∈ s.refused, ∀ m ∈ s.messages[n]?, Keyless m.json → ¬ m.cmd.Valid)
    (hbound : ∀ n ∈ s.refused, n < s.messages.length) :
    ∀ n ∈ s'.refused, ∀ m ∈ s'.messages[n]?, Keyless m.json → ¬ m.cmd.Valid := by
  cases hturn with
  | idle => exact hrefused
  | ends => exact hrefused
  | receive hmain hparse =>
      intro n hn m hm
      rw [Option.mem_def, List.getElem?_append_left (hbound n hn)] at hm
      exact hrefused n hn m hm
  | accept hmain hvalid => exact hrefused
  | @refuse casts nowMs n m hmain hfalse =>
      intro k hk m' hm' hkeyless hvalid
      rcases List.mem_append.mp hk with hk | hk
      · exact hrefused k hk m' hm' hkeyless hvalid
      · obtain ⟨earlier, hmessages, rfl⟩ := hs.split hmain
        obtain rfl := List.mem_singleton.mp hk
        have hlast : s.messages[earlier.length]? = some m := by rw [hmessages]; simp
        obtain rfl : m = m' := Option.some.inj (hlast.symm.trans hm')
        have hnew := hs.notKnown hfiltered hmain hkeyless hvalid
        rw [(validate_iff_valid _ _).mpr ⟨hvalid, hnew⟩] at hfalse
        cases hfalse
  | push hmain => exact hrefused
  | status clocks m => exact hrefused
  | pop hcurrent hqueue => exact hrefused
  | process hcurrent hrun => exact hrefused

/-! ## Main theorem -/

/-- The invariant of a run whose steps do not make the same id twice. -/
structure Unique (s : Pipeline) : Prop where
  inv : Inv s
  messages : Messages s
  events : Events s
  notDuplicate : ∀ n ∈ s.refused, ∀ m ∈ s.messages[n]?, Keyless m.json → ¬ m.cmd.Valid

/-- The numbers of refused messages are numbers of messages. -/
theorem Placed.lt_of_mem_refused (hs : Placed s) : ∀ n ∈ s.refused, n < s.messages.length := by
  intro n hn
  have hplaced := hs n
  have hpos := List.count_pos_iff.mpr hn
  unfold places at hplaced
  split_ifs at hplaced with hlt
  · exact hlt
  · omega

theorem unique_run (environment : Option String) {actions : List Action}
    (hgiven : ∀ action ∈ actions, NamesGiven action)
    (happart : AllSteps step StampsApart (start environment) actions) :
    Unique (run step (start environment) actions) := by
  refine ((AllSteps.of_forall hgiven).and happart).run_induction (fun s action hcond hs => ?_)
    ⟨inv_start environment, ⟨nofun, List.Pairwise.nil, [], rfl, nofun⟩, ⟨nofun, List.Pairwise.nil⟩,
      nofun⟩
  obtain ⟨hgiven, happart⟩ := hcond
  have hturn := turn_step s action
  exact ⟨inv_turn hturn hs.inv, messages_turn hturn hgiven happart hs.messages,
    events_turn hturn happart hs.events, notDuplicate_turn hturn hs.inv.filtered hs.messages
      hs.notDuplicate hs.inv.placed.lt_of_mem_refused⟩

/-- The ids of the commands that come from messages. -/
theorem Unique.nodup_inbound (hs : Unique s) :
    ((s.pushed.filter Entry.isInbound).map fun entry => entry.cmd.commandId).Nodup := by
  have hmap := (List.sublist_append_left ((s.pushed.filter Entry.isInbound).map Entry.cmd)
    s.main.unpushed).map Command.commandId
  rw [List.map_map] at hmap
  exact hs.inv.filtered.distinct.sublist hmap

/-- The ids of the commands of events. -/
theorem Unique.nodup_events (hs : Unique s) :
    ((s.pushed.filter fun entry => !entry.isInbound).map fun entry =>
      entry.cmd.commandId).Nodup := by
  refine List.pairwise_map.mpr ?_
  refine (hs.events.apart.filter _).imp_of_mem fun {e e'} he he' hclash hsame => hclash ?_
  obtain ⟨he, hnone⟩ := List.mem_filter.mp he
  obtain ⟨he', hnone'⟩ := List.mem_filter.mp he'
  have hnone : e.message = none := by simpa [Entry.isInbound] using hnone
  have hnone' : e'.message = none := by simpa [Entry.isInbound] using hnone'
  rw [hs.events.stamped e he hnone, hs.events.stamped e' he' hnone'] at hsame
  exact ⟨⟨hnone, hnone'⟩, stamped_inj.mp hsame⟩

/-- The id of a message's command is not that of an event. -/
theorem Unique.disjoint (hs : Unique s) {e e' : Entry} (he : e ∈ s.pushed)
    (hinbound : e.isInbound = true) (he' : e' ∈ s.pushed) (hevent : e'.message = none) :
    e.cmd.commandId ≠ e'.cmd.commandId := by
  intro hsame
  obtain ⟨earlier, hmessages, -⟩ := hs.messages.reading
  have haccepted : e.cmd ∈ s.accepted :=
    List.mem_append_left _ (List.mem_map_of_mem (List.mem_filter.mpr ⟨he, hinbound⟩))
  obtain ⟨m, hm, hcmd, -⟩ := exists_message_of_mem_accepted hs.inv.filtered hmessages haccepted
  refine (hs.messages.named m ?_).notEvent ?_
  · rw [hmessages]
    exact List.mem_append_left _ hm
  · rw [hcmd, hsame, hs.events.stamped e' he' hevent]
    exact beginsWith_stamped _ _ _

/-- **Ids of a run.**  In a run in which no stamps clash, the ids of all commands that are
pushed are different, and no message without one is refused as a duplicate. -/
theorem uniqueIds_run (environment : Option String) (actions : List Action)
    (hgiven : ∀ action ∈ actions, NamesGiven action)
    (happart : AllSteps step StampsApart (start environment) actions) :
    UniqueIds (run step (start environment) actions) := by
  have hs := unique_run environment hgiven happart
  generalize run step (start environment) actions = s at hs
  refine ⟨?_, hs.notDuplicate⟩
  have hsplit := (List.filter_append_perm Entry.isInbound s.pushed).map fun entry =>
    entry.cmd.commandId
  rw [List.map_append] at hsplit
  refine hsplit.nodup_iff.mp (List.nodup_append.mpr ⟨hs.nodup_inbound, hs.nodup_events, ?_⟩)
  rintro id hid id' hid' rfl
  obtain ⟨e, he, hsame⟩ := List.mem_map.mp hid
  obtain ⟨e', he', hsame'⟩ := List.mem_map.mp hid'
  obtain ⟨he, hinbound⟩ := List.mem_filter.mp he
  obtain ⟨he', hevent⟩ := List.mem_filter.mp he'
  exact hs.disjoint he hinbound he' (by simpa [Entry.isInbound] using hevent)
    (hsame.trans hsame'.symm)

/-! ### Two commands in one millisecond -/

/-- `#84` without a `command_id`. -/
def openedByHand : Json := .obj [("signal_id", .int 84)]

/-- The message is received and accepted, or refused. -/
def received (nowMs : ℕ) : List Action :=
  [.receive .saturating nowMs (some openedByHand), .validate .saturating nowMs, .push]

/-- In different milliseconds, both are accepted. -/
theorem uniqueIds_received :
    UniqueIds (run step (start none) (received 1 ++ received 2)) := by
  refine uniqueIds_run none _ (fun action haction => ?_) ?_
  · simp only [received, List.cons_append, List.nil_append, List.mem_cons, List.not_mem_nil,
      or_false] at haction
    have hgiven : ∀ header ∈ header? openedByHand, ∀ text,
        header.get? "command_id" = some (.str text) → GivenId text := by
      intro header hheader text htext
      obtain rfl := Option.some.inj hheader
      cases htext
    rcases haction with rfl | rfl | rfl | rfl | rfl | rfl
    · exact hgiven
    · trivial
    · trivial
    · exact hgiven
    · trivial
    · trivial
  · refine ⟨fun _ _ _ _ m hm => absurd hm List.not_mem_nil, trivial, trivial,
      fun _ _ _ _ m hm _ _ _ => ?_, trivial, trivial, trivial⟩
    -- the first message has been received at the time 1
    obtain rfl := List.mem_singleton.mp hm
    decide

/-- A lid that was closed is opened by hand. -/
def openByHand (lid : Lid) (nowMs : ℤ) : List Action :=
  [0, 3, 1].map fun value => .status ⟨5000000000, nowMs⟩ ⟨lid.topic, 14, 0, .finite value⟩

/-- **Failing inputs.**  Both lids are opened by hand in one millisecond, and two commands with
one id are pushed; two messages are received in one millisecond, and the second is refused as
a duplicate. -/
theorem not_uniqueIds_sameMillisecond :
    ¬ (run step (start none) (openByHand .lid1 7 ++ openByHand .lid2 7)).UniqueIds ∧
      ¬ (run step (start none) (received 7 ++ received 7)).UniqueIds := by
  constructor
  · intro hunique
    have hdistinct := hunique.distinct
    revert hdistinct
    decide +kernel
  · intro hunique
    refine hunique.notDuplicate 1 (by decide +kernel)
      ⟨7, openedByHand, ⟨84, "", "CMD_84_7", "unknown_sender", 0, .obj []⟩⟩ rfl ?_ ?_
    · intro header hheader
      obtain rfl := Option.some.inj hheader
      rfl
    · decide +kernel

end Pipeline

end OroEdge.Executor
