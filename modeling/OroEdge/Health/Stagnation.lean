import OroEdge.Health.Watchdog

/-!
# Stagnant heartbeats

A heartbeat is stagnant when its number has been repeated for 3 s.  The event of
a `tick` should mean just that, and should not come again before a new number
has arrived (`StagnantAfterRepeats`, `RearmedBetween`).

The second holds of every run.  The first fails for a device that counts from
`0`: the monitor starts with the number `0` and the time `0`, so the first
heartbeats are taken for repetitions of a number that was received at the start
of the epoch.  `TakenForRepeat` is a tick at which this matters.

* `FirstNumbers`: what the held time of the last change stands for.
* `exists_raise_of_stale`: a stale watchdog has raised its event before.
* `not_stale_or_new_number`: how it comes to be armed again.

Both parts rest on what moves the latch of the watchdog: an event closes it, and only a
heartbeat with another number than the held one opens it (`hbStale_call`).  The second property
is an induction over the calls after an event.  The first one needs the time of the last change
in addition, and there `FirstNumbers` separates a monitor that has never seen a number other
than `0` from one that has.  In the first the time is that of the epoch, and `TakenForRepeat` is
just the case in which it is mistaken for the time of a heartbeat.
-/

namespace OroEdge.Health

open OroEdge.Lib

/-! ## The property -/

/-- An event `stagnant` means that the last number had been received 3 s ago or
earlier, and that no other has arrived since. -/
def StagnantAfterRepeats (start : ℕ) (calls : List Call) : Prop :=
  ∀ earlier sysInfo now later, calls = earlier ++ .tick sysInfo now :: later →
    Writes start earlier (.tick sysInfo now) "device_heartbeat_missed_event" "stagnant" →
      ∃ before seqNum since repeats, heartbeats earlier = before ++ (seqNum, since) :: repeats ∧
        since + 3000 ≤ now ∧ ∀ received ∈ repeats, received.1 = seqNum

/-- The tick writes an event of the watchdog, of either text. -/
def WritesMissed (start : ℕ) (earlier : List Call) (sysInfo : HealthMonitor.NetworkInfo)
    (now : ℕ) : Prop :=
  recordsOf "device_heartbeat_missed_event" (handedOver start earlier (.tick sysInfo now)) ≠ []

/-- Between two events there is a heartbeat with another number than the one before it. -/
def RearmedBetween (start : ℕ) (calls : List Call) : Prop :=
  ∀ earlier sysInfo now between sysInfo' now' later,
    calls = earlier ++ .tick sysInfo now :: between ++ .tick sysInfo' now' :: later →
      WritesMissed start earlier sysInfo now →
        WritesMissed start (earlier ++ .tick sysInfo now :: between) sysInfo' now' →
          ∃ first seqNum t rest, between = first ++ .deviceHeartbeat seqNum t :: rest ∧
            ∃ previous ∈ (heartbeats (earlier ++ .tick sysInfo now :: first)).getLast?,
              previous.1 ≠ seqNum

/-- All heartbeats so far are numbered `0`, and the first has come less than 3 s ago. -/
def TakenForRepeat (earlier : List Call) (now : ℕ) : Prop :=
  3000 ≤ now ∧ (∀ received ∈ heartbeats earlier, received.1 = 0) ∧
    ∃ first ∈ (heartbeats earlier).head?, now < first.2 + 3000

/-! ## The watchdog is armed by a new number -/

theorem writesMissed_iff {start : ℕ} {earlier : List Call} {sysInfo : HealthMonitor.NetworkInfo}
    {now : ℕ} : WritesMissed start earlier sysInfo now ↔
      (HealthMonitor.after start earlier).raisesMissed now := by
  unfold WritesMissed handedOver
  rw [HealthMonitor.call, HealthMonitor.recordsOf_missed_tick]
  simp

theorem hbStale_of_raisesMissed {m : HealthMonitor} {now : ℕ} (hraises : m.raisesMissed now) :
    m.hbStale = false ∧ 0 < m.lastHbArrivalTimeMs := by
  simp only [HealthMonitor.raisesMissed, Bool.and_eq_true, decide_eq_true_eq,
    Bool.not_eq_true'] at hraises
  exact ⟨hraises.2, hraises.1.1⟩

/-- What one call does to the latch. -/
theorem hbStale_call (m : HealthMonitor) (call : Call) :
    (m.call call).1.hbStale = m.hbStale ∨
      (∃ sysInfo now, call = .tick sysInfo now ∧ m.raisesMissed now) ∨
      ∃ seqNum now, call = .deviceHeartbeat seqNum now ∧ seqNum ≠ m.lastHbSeq ∧
        (m.call call).1.hbStale = false := by
  rcases call_cases m call with ⟨sysInfo, now, rfl⟩ | ⟨seqNum, now, rfl⟩ | ⟨status, now, rfl⟩ |
    ⟨state, rfl⟩ | ⟨level, batteryId, powerMode, now, rfl⟩ | hunrelated
  · have hstale := (HealthMonitor.ticked_tick sysInfo now m).stale
    cases hraises : m.raisesMissed now with
    | true => exact Or.inr (Or.inl ⟨sysInfo, now, rfl, hraises⟩)
    | false =>
        rw [hraises, Bool.or_false] at hstale
        exact Or.inl hstale
  · by_cases hseq : seqNum = m.lastHbSeq
    · exact Or.inl (by simp [HealthMonitor.call, HealthMonitor.updateDeviceHeartbeat, hseq])
    · exact Or.inr (Or.inr ⟨seqNum, now, rfl, hseq,
        by simp [HealthMonitor.call, HealthMonitor.updateDeviceHeartbeat, hseq]⟩)
  · simp only [HealthMonitor.call, HealthMonitor.updateWaterPumpState]
    split
    · split <;> exact Or.inl rfl
    · exact Or.inl rfl
  · exact Or.inl rfl
  · simp only [HealthMonitor.call, HealthMonitor.updateBatteryLevel]
    split <;> exact Or.inl rfl
  · exact Or.inl hunrelated.same.stale

/-- A stale watchdog has raised its event, and stays stale as long as no new number
arrives. -/
theorem not_stale_or_new_number (start : ℕ) (earlier between : List Call)
    (hstale : (HealthMonitor.after start earlier).hbStale = true)
    (hlater : (HealthMonitor.after start (earlier ++ between)).hbStale = false) :
    ∃ first seqNum t rest, between = first ++ .deviceHeartbeat seqNum t :: rest ∧
      seqNum ≠ (HealthMonitor.after start (earlier ++ first)).lastHbSeq := by
  induction between using List.reverseRecOn with
  | nil =>
      rw [List.append_nil, hstale] at hlater
      cases hlater
  | append_singleton between call ih =>
      rw [← List.append_assoc, after_append_singleton] at hlater
      cases hbefore : (HealthMonitor.after start (earlier ++ between)).hbStale with
      | false =>
          obtain ⟨first, seqNum, t, rest, hsplit, hseq⟩ := ih hbefore
          exact ⟨first, seqNum, t, rest ++ [call], by simp [hsplit], hseq⟩
      | true =>
          rcases hbStale_call (HealthMonitor.after start (earlier ++ between)) call with
            hsame | ⟨sysInfo, now, -, hraises⟩ | ⟨seqNum, t, rfl, hseq, -⟩
          · rw [hsame, hbefore] at hlater
            cases hlater
          · rw [(hbStale_of_raisesMissed hraises).1] at hbefore
            cases hbefore
          · exact ⟨between, seqNum, t, [], rfl, hseq⟩

theorem exists_raise_of_stale (start : ℕ) (calls : List Call)
    (hstale : (HealthMonitor.after start calls).hbStale = true) :
    ∃ earlier sysInfo now later, calls = earlier ++ .tick sysInfo now :: later ∧
      (HealthMonitor.after start earlier).raisesMissed now := by
  induction calls using List.reverseRecOn with
  | nil => cases hstale
  | append_singleton calls call ih =>
      rw [after_append_singleton] at hstale
      rcases hbStale_call (HealthMonitor.after start calls) call with
        hsame | ⟨sysInfo, now, rfl, hraises⟩ | ⟨seqNum, t, -, -, hfresh⟩
      · rw [hsame] at hstale
        obtain ⟨earlier, sysInfo, now, later, hsplit, hraises⟩ := ih hstale
        exact ⟨earlier, sysInfo, now, later ++ [call], by simp [hsplit], hraises⟩
      · exact ⟨calls, sysInfo, now, [], rfl, hraises⟩
      · rw [hfresh] at hstale
        cases hstale

/-- The last heartbeat before an event. -/
theorem exists_last_of_raisesMissed {start : ℕ} {earlier : List Call} {now : ℕ}
    (hraises : (HealthMonitor.after start earlier).raisesMissed now) :
    ∃ last ∈ (heartbeats earlier).getLast?,
      (HealthMonitor.after start earlier).lastHbArrivalTimeMs = last.2 := by
  have harrival := (follows_after start earlier).arrival
  have harmed := (hbStale_of_raisesMissed hraises).2
  cases hlast : (heartbeats earlier).getLast? with
  | none =>
      rw [hlast] at harrival
      rw [harrival] at harmed
      cases harmed
  | some last =>
      rw [hlast] at harrival
      exact ⟨last, rfl, harrival⟩

/-! ## The time of the last change -/

/-- Before a number other than `0` has arrived, the number `0` is held since the time
`0`; afterwards the last number is held since it first arrived. -/
structure FirstNumbers (received : List (ℕ × ℕ)) (m : HealthMonitor) : Prop where
  zeros : (∀ heartbeat ∈ received, heartbeat.1 = 0) →
    m.lastHbSeq = 0 ∧ m.lastHbChangeTimeMs = 0
  changed : ¬ (∀ heartbeat ∈ received, heartbeat.1 = 0) →
    ∃ before repeats, received = before ++ (m.lastHbSeq, m.lastHbChangeTimeMs) :: repeats ∧
      ∀ heartbeat ∈ repeats, heartbeat.1 = m.lastHbSeq

theorem FirstNumbers.updateDeviceHeartbeat {received : List (ℕ × ℕ)} {m : HealthMonitor}
    (hfirst : FirstNumbers received m) (seqNum now : ℕ) :
    FirstNumbers (received ++ [(seqNum, now)]) (m.updateDeviceHeartbeat seqNum now).1 := by
  by_cases hseq : seqNum = m.lastHbSeq
  · -- a repetition
    have hkept :
        (m.updateDeviceHeartbeat seqNum now).1 = { m with lastHbArrivalTimeMs := now } := by
      simp [HealthMonitor.updateDeviceHeartbeat, hseq]
    rw [hkept]
    constructor
    · intro hzeros
      exact hfirst.zeros fun heartbeat hmem => hzeros heartbeat (List.mem_append_left _ hmem)
    · intro hother
      have hbefore : ¬ ∀ heartbeat ∈ received, heartbeat.1 = 0 := by
        intro hzeros
        apply hother
        intro heartbeat hmem
        rcases List.mem_append.mp hmem with hmem | hmem
        · exact hzeros heartbeat hmem
        · rw [List.mem_singleton.mp hmem, hseq]
          exact (hfirst.zeros hzeros).1
      obtain ⟨before, repeats, hsplit, hrepeats⟩ := hfirst.changed hbefore
      refine ⟨before, repeats ++ [(seqNum, now)], by simp [hsplit], fun heartbeat hmem => ?_⟩
      rcases List.mem_append.mp hmem with hmem | hmem
      · exact hrepeats heartbeat hmem
      · rw [List.mem_singleton.mp hmem]
        exact hseq
  · -- a new number
    have hset : (m.updateDeviceHeartbeat seqNum now).1 =
        { m with
          lastHbArrivalTimeMs := now
          lastHbSeq := seqNum
          lastHbChangeTimeMs := now
          hbStale := false } := by
      simp [HealthMonitor.updateDeviceHeartbeat, hseq]
    rw [hset]
    constructor
    · intro hzeros
      have hzero : seqNum = 0 := hzeros (seqNum, now) (by simp)
      have hheld := (hfirst.zeros fun heartbeat hmem =>
        hzeros heartbeat (List.mem_append_left _ hmem)).1
      exact absurd (hzero.trans hheld.symm) hseq
    · intro _
      exact ⟨received, [], rfl, by simp⟩

theorem FirstNumbers.congr {received : List (ℕ × ℕ)} {m m' : HealthMonitor}
    (hfirst : FirstNumbers received m) (hseq : m'.lastHbSeq = m.lastHbSeq)
    (hchange : m'.lastHbChangeTimeMs = m.lastHbChangeTimeMs) : FirstNumbers received m' := by
  constructor
  · rw [hseq, hchange]
    exact hfirst.zeros
  · rw [hseq, hchange]
    exact hfirst.changed

theorem FirstNumbers.call {calls : List Call} {m : HealthMonitor}
    (hfirst : FirstNumbers (heartbeats calls) m) (call : Call) :
    FirstNumbers (heartbeats (calls ++ [call])) (m.call call).1 := by
  have hsame : Health.heartbeat call = none → heartbeats (calls ++ [call]) = heartbeats calls := by
    intro hnone
    simp [heartbeats, hnone]
  rcases call_cases m call with ⟨sysInfo, now, rfl⟩ | ⟨seqNum, now, rfl⟩ | ⟨status, now, rfl⟩ |
    ⟨state, rfl⟩ | ⟨level, batteryId, powerMode, now, rfl⟩ | hunrelated
  · have hticked := HealthMonitor.ticked_tick sysInfo now m
    rw [hsame rfl]
    exact hfirst.congr hticked.seq hticked.change
  · have hheartbeats : heartbeats (calls ++ [.deviceHeartbeat seqNum now]) =
        heartbeats calls ++ [(seqNum, now)] := by
      simp [heartbeats, Health.heartbeat]
    rw [hheartbeats]
    exact hfirst.updateDeviceHeartbeat seqNum now
  · rw [hsame rfl]
    simp only [HealthMonitor.call, HealthMonitor.updateWaterPumpState]
    split
    · split <;> exact hfirst.congr rfl rfl
    · exact hfirst.congr rfl rfl
  · rw [hsame rfl]
    exact hfirst.congr rfl rfl
  · rw [hsame rfl]
    simp only [HealthMonitor.call, HealthMonitor.updateBatteryLevel]
    split <;> exact hfirst.congr rfl rfl
  · rw [hsame hunrelated.heartbeat]
    exact hfirst.congr hunrelated.same.seq hunrelated.same.change

theorem firstNumbers_after (start : ℕ) (calls : List Call) :
    FirstNumbers (heartbeats calls) (HealthMonitor.after start calls) := by
  induction calls using List.reverseRecOn with
  | nil => exact ⟨fun _ => ⟨rfl, rfl⟩, fun hnot => absurd (by simp [heartbeats]) hnot⟩
  | append_singleton calls call ih =>
      rw [after_append_singleton]
      exact ih.call call

/-! ## Every run -/

theorem rearmedBetween (start : ℕ) (calls : List Call) : RearmedBetween start calls := by
  intro earlier sysInfo now between sysInfo' now' later hsplit hfirst hsecond
  rw [writesMissed_iff] at hfirst hsecond
  have hstale : (HealthMonitor.after start (earlier ++ [.tick sysInfo now])).hbStale = true := by
    rw [after_append_singleton]
    have hlatch := (HealthMonitor.ticked_tick sysInfo now (HealthMonitor.after start earlier)).stale
    rw [hfirst, Bool.or_true] at hlatch
    exact hlatch
  have hjoin : ∀ rest, earlier ++ .tick sysInfo now :: rest =
      earlier ++ [.tick sysInfo now] ++ rest := by
    simp
  rw [hjoin] at hsecond
  obtain ⟨first, seqNum, t, rest, hbetween, hseq⟩ := not_stale_or_new_number start _ between
    hstale (hbStale_of_raisesMissed hsecond).1
  refine ⟨first, seqNum, t, rest, hbetween, ?_⟩
  -- a heartbeat had been received before the first event
  have hheld := (follows_after start (earlier ++ [.tick sysInfo now] ++ first)).seq
  obtain ⟨last, hlast, -⟩ := exists_last_of_raisesMissed hfirst
  rw [hjoin]
  cases hprevious : (heartbeats (earlier ++ [.tick sysInfo now] ++ first)).getLast? with
  | none =>
      exfalso
      have hempty := List.getLast?_eq_none_iff.mp hprevious
      have hnone : heartbeats earlier = [] := by
        simp only [heartbeats, List.filterMap_append, List.append_eq_nil_iff] at hempty
        exact hempty.1.1
      rw [hnone] at hlast
      cases hlast
  | some previous =>
      rw [hprevious] at hheld
      refine ⟨previous, rfl, fun heq => hseq ?_⟩
      rw [hheld]
      exact heq.symm

/-- The times of a run do not go back. -/
def InOrder (calls : List Call) : Prop := (calls.filterMap Call.now?).Pairwise (· ≤ ·)

instance (calls : List Call) : Decidable (InOrder calls) := by
  unfold InOrder
  infer_instance

theorem InOrder.le_of_mem {earlier : List Call} {call call' : Call} {later : List Call} {t now : ℕ}
    (horder : InOrder (earlier ++ call :: later)) (hmem : call' ∈ earlier)
    (ht : call'.now? = some t) (hnow : call.now? = some now) : t ≤ now := by
  unfold InOrder at horder
  rw [List.filterMap_append, List.pairwise_append] at horder
  exact horder.2.2 t (List.mem_filterMap.mpr ⟨call', hmem, ht⟩) now
    (List.mem_filterMap.mpr ⟨call, List.mem_cons_self, hnow⟩)

theorem now?_of_heartbeat {call : Call} {received : ℕ × ℕ}
    (hreceived : heartbeat call = some received) : call.now? = some received.2 := by
  cases call with
  | deviceHeartbeat seqNum now =>
      obtain rfl := Option.some.inj hreceived
      rfl
  | _ => cases hreceived

/-- The first heartbeat is the earliest. -/
theorem InOrder.first_le {calls : List Call} (horder : InOrder calls) {first received : ℕ × ℕ}
    (hfirst : (heartbeats calls).head? = some first) (hmem : received ∈ heartbeats calls) :
    first.2 ≤ received.2 := by
  have hpairwise : (heartbeats calls).Pairwise fun a b => a.2 ≤ b.2 := by
    unfold InOrder at horder
    rw [List.pairwise_filterMap] at horder
    rw [heartbeats, List.pairwise_filterMap]
    refine horder.imp ?_
    intro call call' hle received hreceived received' hreceived'
    exact hle _ (now?_of_heartbeat hreceived) _ (now?_of_heartbeat hreceived')
  obtain ⟨rest, hsplit⟩ := List.head?_eq_some_iff.mp hfirst
  rw [hsplit] at hpairwise hmem
  rcases List.mem_cons.mp hmem with rfl | hrest
  · exact le_rfl
  · exact List.rel_of_pairwise_cons hpairwise hrest

section Tick

variable {start : ℕ} {earlier later : List Call} {sysInfo : HealthMonitor.NetworkInfo} {now : ℕ}

theorem InOrder.heartbeat_le (horder : InOrder (earlier ++ .tick sysInfo now :: later))
    {received : ℕ × ℕ} (hmem : received ∈ heartbeats earlier) : received.2 ≤ now :=
  horder.le_of_mem (mem_of_mem_heartbeats hmem) rfl rfl

theorem writes_stagnant_iff :
    Writes start earlier (.tick sysInfo now) "device_heartbeat_missed_event" "stagnant" ↔
      (HealthMonitor.after start earlier).raisesMissed now ∧
        (HealthMonitor.after start earlier).heartbeatSilent now = false := by
  rw [writes_missed_iff]
  cases (HealthMonitor.after start earlier).heartbeatSilent now <;> simp

/-- If no tick so far has taken first heartbeats for repetitions, `stagnant` is what it
says. -/
theorem exists_repeats_of_writes (horder : InOrder (earlier ++ .tick sysInfo now :: later))
    (hnow : now < 18446744073709551616) (htaken : ¬ TakenForRepeat earlier now)
    (hwrites : Writes start earlier (.tick sysInfo now) "device_heartbeat_missed_event"
      "stagnant") :
    ∃ before seqNum since repeats, heartbeats earlier = before ++ (seqNum, since) :: repeats ∧
      since + 3000 ≤ now ∧ ∀ received ∈ repeats, received.1 = seqNum := by
  rw [writes_stagnant_iff] at hwrites
  obtain ⟨hraises, hloud⟩ := hwrites
  have hfirst := firstNumbers_after start earlier
  obtain ⟨last, hlast, -⟩ := exists_last_of_raisesMissed hraises
  have helapsed : 3000 ≤ sub64 now (HealthMonitor.after start earlier).lastHbChangeTimeMs := by
    simp only [HealthMonitor.raisesMissed, hloud, Bool.false_or, Bool.and_eq_true] at hraises
    exact of_decide_eq_true hraises.1.2
  by_cases hzeros : ∀ received ∈ heartbeats earlier, received.1 = 0
  · -- the time of the last change is `0`, which is no time of a heartbeat
    rw [(hfirst.zeros hzeros).2, sub64_of_le (Nat.zero_le now) hnow] at helapsed
    cases hreceived : heartbeats earlier with
    | nil =>
        rw [hreceived] at hlast
        cases hlast
    | cons first rest =>
        have hlong : first.2 + 3000 ≤ now := by
          by_contra hshort
          exact htaken ⟨by omega, hzeros, first, by rw [hreceived]; rfl, by omega⟩
        refine ⟨[], first.1, first.2, rest, rfl, hlong, fun received hmem => ?_⟩
        rw [hzeros first (by simp [hreceived]), hzeros received (by simp [hreceived, hmem])]
  · obtain ⟨before, repeats, hsplit, hrepeats⟩ := hfirst.changed hzeros
    have hchange : ((HealthMonitor.after start earlier).lastHbSeq,
        (HealthMonitor.after start earlier).lastHbChangeTimeMs) ∈ heartbeats earlier := by
      rw [hsplit]
      exact List.mem_append_cons_self
    have hle := horder.heartbeat_le hchange
    rw [sub64_of_le hle hnow] at helapsed
    exact ⟨before, _, _, repeats, hsplit, by omega, hrepeats⟩

/-- At such a tick no heartbeat is 3 s old. -/
theorem TakenForRepeat.lt_of_mem (htaken : TakenForRepeat earlier now) (horder : InOrder earlier)
    {received : ℕ × ℕ} (hmem : received ∈ heartbeats earlier) : now < received.2 + 3000 := by
  obtain ⟨-, -, first, hfirst, hshort⟩ := htaken
  have hle := horder.first_le hfirst hmem
  omega

theorem TakenForRepeat.writes (htaken : TakenForRepeat earlier now)
    (horder : InOrder (earlier ++ .tick sysInfo now :: later))
    (hnow : now < 18446744073709551616)
    (hstale : (HealthMonitor.after start earlier).hbStale = false) :
    Writes start earlier (.tick sysInfo now) "device_heartbeat_missed_event" "stagnant" := by
  have hbefore : InOrder earlier := by
    unfold InOrder at horder ⊢
    rw [List.filterMap_append] at horder
    exact (List.pairwise_append.mp horder).1
  have hchange := ((firstNumbers_after start earlier).zeros htaken.2.1).2
  have harrival := (follows_after start earlier).arrival
  obtain ⟨first, hfirst, -⟩ := htaken.2.2
  obtain ⟨last, hlast⟩ : ∃ last, (heartbeats earlier).getLast? = some last := by
    cases hreceived : heartbeats earlier with
    | nil =>
        rw [hreceived] at hfirst
        cases hfirst
    | cons first rest => exact ⟨_, List.getLast?_cons⟩
  rw [hlast] at harrival
  have htime : (HealthMonitor.after start earlier).lastHbArrivalTimeMs = last.2 := harrival
  have hmem : last ∈ heartbeats earlier := List.mem_of_mem_getLast? hlast
  have hshort := htaken.lt_of_mem hbefore hmem
  have hle := horder.heartbeat_le hmem
  have hlate := htaken.1
  have hsilent : (HealthMonitor.after start earlier).heartbeatSilent now = false := by
    rw [HealthMonitor.heartbeatSilent, htime, sub64_of_le hle hnow]
    exact decide_eq_false (by omega)
  have hstagnant : (HealthMonitor.after start earlier).heartbeatStagnant now = true := by
    rw [HealthMonitor.heartbeatStagnant, hchange, sub64_of_le (Nat.zero_le now) hnow]
    exact decide_eq_true (by omega)
  rw [writes_stagnant_iff]
  refine ⟨?_, hsilent⟩
  rw [HealthMonitor.raisesMissed, htime, hsilent, hstagnant, hstale]
  simp only [Bool.or_true, Bool.and_true, Bool.not_false, decide_eq_true_eq]
  omega

end Tick

theorem not_takenForRepeat {start : ℕ} {calls : List Call} (horder : InOrder calls)
    (htimes : ∀ call ∈ calls, ∀ t ∈ call.now?, t < 18446744073709551616)
    (hstagnant : StagnantAfterRepeats start calls) {earlier : List Call}
    {sysInfo : HealthMonitor.NetworkInfo} {now : ℕ} {later : List Call}
    (hsplit : calls = earlier ++ .tick sysInfo now :: later) : ¬ TakenForRepeat earlier now := by
  intro htaken
  have horder' : InOrder (earlier ++ .tick sysInfo now :: later) := hsplit ▸ horder
  have hbefore : InOrder earlier := by
    unfold InOrder at horder' ⊢
    rw [List.filterMap_append] at horder'
    exact (List.pairwise_append.mp horder').1
  have hnow : now < 18446744073709551616 := htimes (.tick sysInfo now) (by simp [hsplit]) now rfl
  cases hstale : (HealthMonitor.after start earlier).hbStale with
  | false =>
      obtain ⟨before, seqNum, since, repeats, hreceived, hlong, -⟩ := hstagnant earlier sysInfo now
        later hsplit (htaken.writes horder' hnow hstale)
      have hmem : (seqNum, since) ∈ heartbeats earlier := by
        simp [hreceived]
      have hshort := htaken.lt_of_mem hbefore hmem
      omega
  | true =>
      -- the event was raised before, when the heartbeats were still younger
      obtain ⟨earlier', sysInfo', now', later', rfl, hraises⟩ := exists_raise_of_stale start _ hstale
      have hbeforeTick : .tick sysInfo' now' ∈ earlier' ++ .tick sysInfo' now' :: later' := by
        simp
      have hle : now' ≤ now := horder'.le_of_mem hbeforeTick rfl rfl
      have hmem : ∀ {received}, received ∈ heartbeats earlier' →
          received ∈ heartbeats (earlier' ++ .tick sysInfo' now' :: later') := by
        intro received hreceived
        rw [heartbeats, List.filterMap_append]
        exact List.mem_append_left _ hreceived
      cases hsilent : (HealthMonitor.after start earlier').heartbeatSilent now' with
      | true =>
          obtain ⟨last, hlast, htime⟩ := exists_last_of_raisesMissed hraises
          have hlastMem : last ∈ heartbeats earlier' := List.mem_of_mem_getLast? hlast
          have hshort := htaken.lt_of_mem hbefore (hmem hlastMem)
          have hlastLe := hbefore.heartbeat_le hlastMem
          have hnow' : now' < 18446744073709551616 := by omega
          rw [HealthMonitor.heartbeatSilent, htime, sub64_of_le hlastLe hnow'] at hsilent
          have helapsed := of_decide_eq_true hsilent
          omega
      | false =>
          have hwrites : Writes start earlier' (.tick sysInfo' now')
              "device_heartbeat_missed_event" "stagnant" :=
            writes_stagnant_iff.mpr ⟨hraises, hsilent⟩
          obtain ⟨before, seqNum, since, repeats, hreceived, hlong, -⟩ := hstagnant earlier'
            sysInfo' now' (later' ++ .tick sysInfo now :: later) (by simp [hsplit]) hwrites
          have hmem' : (seqNum, since) ∈ heartbeats earlier' := by
            simp [hreceived]
          have hshort := htaken.lt_of_mem hbefore (hmem hmem')
          omega

/-- **Stagnation, exactly.**  In a run with times in order, the events `stagnant` mean
what they say and are not repeated without a new number, if and only if no tick falls
into the first 3 s of a device that counts from `0`. -/
theorem stagnant_iff_not_takenForRepeat (start : ℕ) (calls : List Call) (horder : InOrder calls)
    (htimes : ∀ call ∈ calls, ∀ t ∈ call.now?, t < 18446744073709551616) :
    (StagnantAfterRepeats start calls ∧ RearmedBetween start calls) ↔
      ∀ earlier sysInfo now later, calls = earlier ++ .tick sysInfo now :: later →
        ¬ TakenForRepeat earlier now := by
  constructor
  · rintro ⟨hstagnant, -⟩ earlier sysInfo now later hsplit
    exact not_takenForRepeat horder htimes hstagnant hsplit
  · intro htaken
    refine ⟨?_, rearmedBetween start calls⟩
    rintro earlier sysInfo now later hsplit hwrites
    have hnow : now < 18446744073709551616 := htimes (.tick sysInfo now) (by simp [hsplit]) now rfl
    exact exists_repeats_of_writes (hsplit ▸ horder) hnow (htaken earlier sysInfo now later hsplit)
      hwrites

/-! ## A run of each kind -/

/-- Heartbeats with one number at 5 s and 6 s, then a tick. -/
def repeatedHeartbeat (seqNum now : ℕ) : List Call :=
  [.deviceHeartbeat seqNum 5000, .deviceHeartbeat seqNum 6000, .tick ⟨"unknown", "N/A"⟩ now]

/-- The number 7, repeated for 3 s. -/
theorem stagnant_seven :
    StagnantAfterRepeats 0 (repeatedHeartbeat 7 8000) ∧
      RearmedBetween 0 (repeatedHeartbeat 7 8000) := by
  refine (stagnant_iff_not_takenForRepeat 0 (repeatedHeartbeat 7 8000) (by decide)
    (by decide)).mpr ?_
  intro earlier sysInfo now later hsplit htaken
  obtain rfl : earlier = [.deviceHeartbeat 7 5000, .deviceHeartbeat 7 6000] := by
    rcases earlier with _ | ⟨first, _ | ⟨second, _ | ⟨third, rest⟩⟩⟩ <;>
      simp_all [repeatedHeartbeat]
  exact absurd (htaken.2.1 (7, 5000) (by decide)) (by decide)

/-- The number 0, repeated for 1 s. -/
theorem not_stagnant_zero : ¬ (StagnantAfterRepeats 0 (repeatedHeartbeat 0 6000) ∧
    RearmedBetween 0 (repeatedHeartbeat 0 6000)) := by
  rintro ⟨hstagnant, -⟩
  have hwritten : Writes 0 [.deviceHeartbeat 0 5000, .deviceHeartbeat 0 6000]
      (.tick ⟨"unknown", "N/A"⟩ 6000) "device_heartbeat_missed_event" "stagnant" := by
    rw [writes_missed_iff]
    decide +kernel
  obtain ⟨before, seqNum, since, repeats, hreceived, hlong, -⟩ := hstagnant
    [.deviceHeartbeat 0 5000, .deviceHeartbeat 0 6000] ⟨"unknown", "N/A"⟩ 6000 [] rfl hwritten
  have hmem : (seqNum, since) ∈ heartbeats [.deviceHeartbeat 0 5000, .deviceHeartbeat 0 6000] := by
    rw [hreceived]
    exact List.mem_append_cons_self
  simp only [heartbeats, heartbeat, List.filterMap_cons, List.filterMap_nil, List.mem_cons,
    Prod.mk.injEq, List.not_mem_nil, or_false] at hmem
  omega

end OroEdge.Health
