import OroEdge.Lib.Calendar
import OroEdge.Lib.Word

/-!
# Millisecond stamps in the database

`unix_ms_to_iso8601` takes a time point of the system clock, a signed 64-bit
count of nanoseconds, so the milliseconds wrap on the way; the text is made of
the seconds of the time point and the milliseconds of the argument.
`unixMsToMicros` is the instant that PostgreSQL reads back from the text.

The instants of rows are compared by the jobs, and an interval of the order of minutes decides
whether something is stale or due, so it matters that a stamp denotes the instant it was made
from.  For times of day it does, and for the next 250 years (`unixMsToMicros_of_lt`): a count of
nanoseconds in 64 bits ends in the year 2262.  A node whose clock is not set, and shows a time
before, is not concerned, as its milliseconds are not negative.

Both the text and the instant are functions of the milliseconds only; the text is taken apart in
`OroEdge.Storage.Iso8601`.
-/

namespace OroEdge.Storage

open OroEdge.Lib

/-- `system_clock::to_time_t` of the time point of a millisecond count. -/
def unixMsToTimeT (unixMs : ℕ) : ℤ := (wrap64 (wrap64 unixMs * 1000000)).tdiv 1000000000

/-- The instant that the text denotes. -/
def unixMsToMicros (unixMs : ℕ) : ℤ :=
  unixMsToTimeT unixMs * secondMicros + (unixMs % 1000 : ℕ) * 1000

/-- `%H:%M:%S`. -/
def clockText (secondOfDay : ℤ) : String :=
  padded 2 (secondOfDay / 3600) ++ ":" ++ padded 2 (secondOfDay / 60 % 60) ++ ":" ++
    padded 2 (secondOfDay % 60)

/-- `unix_ms_to_iso8601`, in UTC and with milliseconds. -/
def unixMsToIso8601 (unixMs : ℕ) : String :=
  let time := unixMsToTimeT unixMs
  (civilDate (time / 86400)).iso ++ "T" ++ clockText (time % 86400) ++ "." ++
    padded 3 (unixMs % 1000 : ℕ) ++ "Z"

/-- Stamps of the next 250 years denote the instant they were made from. -/
theorem unixMsToMicros_of_lt {unixMs : ℕ} (hlt : unixMs < 9223372036854) :
    unixMsToMicros unixMs = unixMs * 1000 := by
  have hinner : wrap64 (unixMs : ℤ) = unixMs :=
    wrap64_eq_self (by unfold int64Min; omega) (by unfold int64Min; omega)
  have houter : wrap64 ((unixMs : ℤ) * 1000000) = unixMs * 1000000 :=
    wrap64_eq_self (by unfold int64Min; omega) (by unfold int64Min; omega)
  unfold unixMsToMicros unixMsToTimeT secondMicros
  rw [hinner, houter, Int.tdiv_eq_ediv_of_nonneg (by omega)]
  omega

end OroEdge.Storage
