import OroEdge.Executor.Logger
import OroEdge.Storage.Iso8601

/-!
# The stamps of logged commands

`log` stamps what it writes about a command with `stamp`, made from the command's
`event_time`.  A header may hold any 64-bit number there, but the system clock
counts nanoseconds: from the year 2262 on the milliseconds wrap on their way to the
clock, and the stamp denotes another instant.

The stamp itself is that of the storage library, with the condition under which it denotes the
instant that it is made from.  What is left for this module is the way from the `event_time` to
that instant: by its size a time is taken for seconds or for milliseconds, and in either case
the instant can be stamped exactly if the nanoseconds fit (`normalizedEpochMs_le_iff`).

That two stamps compare as texts like their instants needs no more than that both are exact
(`NanosFit.stampsOrdered`), since the text of a time is ordered as the time is.  The property
asks for it before the year 10000 only: beyond it a year has five digits, and no text of this
form would do.
-/

namespace OroEdge.Executor

open OroEdge.Lib OroEdge.Storage

namespace SignalLogger

/-- `ts_iso` of a command with the event time. -/
def stamp (now : ℕ) (eventTime : ℤ) : String := unixMsToIso8601 (normalizedEpochMs now eventTime)

/-- The stamp denotes exactly the instant that the event time is taken for. -/
def StampExact (now : ℕ) (eventTime : ℤ) : Prop :=
  readIso8601 (stamp now eventTime) = some (normalizedEpochMs now eventTime : ℤ)

/-- The first millisecond of the year 10000. -/
def yearTenThousand : ℤ := newYearsDay 10000 * 86400000

/-- The instant of the first event time being the earlier one, its stamp is the smaller text. -/
def StampsOrdered (now : ℕ) (eventTime later : ℤ) : Prop :=
  normalizedEpochMs now eventTime < normalizedEpochMs now later →
    (normalizedEpochMs now later : ℤ) < yearTenThousand → stamp now eventTime < stamp now later

/-- Two times are logged exactly, and compare as the texts do. -/
structure StampsFaithful (now : ℕ) (eventTime other : ℤ) : Prop where
  exact_left : StampExact now eventTime
  exact_right : StampExact now other
  ordered : StampsOrdered now eventTime other
  ordered_symm : StampsOrdered now other eventTime

/-- The nanoseconds of the event time, in seconds or in milliseconds, fit in 64 bits. -/
def NanosFit (eventTime : ℤ) : Prop :=
  eventTime ≤ 9223372036 ∨ 100000000000 < eventTime ∧ eventTime ≤ 9223372036854

variable {now : ℕ} {eventTime other : ℤ}

theorem normalizedEpochMs_le_iff (now : ℕ) (hpos : 0 < eventTime) :
    normalizedEpochMs now eventTime ≤ 9223372036854 ↔ NanosFit eventTime := by
  unfold normalizedEpochMs NanosFit
  rw [if_neg (by omega)]
  split_ifs <;> omega

theorem stampExact_iff (now : ℕ) (hpos : 0 < eventTime) :
    StampExact now eventTime ↔ NanosFit eventTime :=
  (readIso8601_eq_some_iff _).trans (normalizedEpochMs_le_iff now hpos)

theorem NanosFit.stampsOrdered (hfits : NanosFit eventTime) (hother : NanosFit other)
    (hpos : 0 < eventTime) (hpos' : 0 < other) : StampsOrdered now eventTime other := by
  intro hlt _
  have hexact := (writtenMs_eq_iff _).mpr ((normalizedEpochMs_le_iff now hpos).mpr hfits)
  have hexact' := (writtenMs_eq_iff _).mpr ((normalizedEpochMs_le_iff now hpos').mpr hother)
  refine unixMsToIso8601_lt ?_
  rw [hexact, hexact']
  exact_mod_cast hlt

/-- **The stamps of two positive event times are faithful exactly when the nanoseconds
of both fit in 64 bits.** -/
theorem stampsFaithful_iff (now : ℕ) (hpos : 0 < eventTime) (hpos' : 0 < other) :
    StampsFaithful now eventTime other ↔ NanosFit eventTime ∧ NanosFit other := by
  constructor
  · intro hfaithful
    exact ⟨(stampExact_iff now hpos).mp hfaithful.exact_left,
      (stampExact_iff now hpos').mp hfaithful.exact_right⟩
  · rintro ⟨hfits, hother⟩
    exact
      { exact_left := (stampExact_iff now hpos).mpr hfits
        exact_right := (stampExact_iff now hpos').mpr hother
        ordered := hfits.stampsOrdered hother hpos hpos'
        ordered_symm := hother.stampsOrdered hfits hpos' hpos }

/-- Seconds and milliseconds of the year 2026. -/
theorem stampsFaithful_2026 : StampsFaithful 0 1780000000 1780000000001 ∧
    stamp 0 1780000000 = "2026-05-28T20:26:40.000Z" ∧
    stamp 0 1780000000 < stamp 0 1780000000001 :=
  have hfaithful := (stampsFaithful_iff 0 (by decide) (by decide)).mpr
    ⟨Or.inl (by decide), Or.inr (by decide)⟩
  ⟨hfaithful, by decide +kernel, hfaithful.ordered (by decide) (by decide)⟩

/-- A time of the year 2286, in seconds, is stamped with the year 1702. -/
theorem not_stampsFaithful_2286 : stamp 0 10000000000 = "1702-05-02T18:12:07.000Z" ∧
    ¬ StampExact 0 10000000000 ∧ ¬ StampsOrdered 0 1780000000 10000000000 := by
  unfold StampExact StampsOrdered
  decide +kernel

end SignalLogger

end OroEdge.Executor
