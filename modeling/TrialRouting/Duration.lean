/-!
# Durations

A duration is a whole number of nanoseconds. The virtual clock counts whole
milliseconds, so a duration is shown by its whole milliseconds, reduced to 64
bits, and a deadline falls on the first millisecond at which the whole duration
has passed. An instant past the range of the clock is no instant at all.
-/

namespace TrialRouting

/-- A span of time with nanosecond resolution. -/
structure Duration where
  /-- Total length in nanoseconds. -/
  nanoseconds : Nat
  deriving DecidableEq, Repr, Inhabited

namespace Duration

/-- The duration of `seconds` and `nanos`; nanoseconds past a full second carry. -/
def ofParts (seconds nanos : Nat) : Duration :=
  ⟨seconds * 1000000000 + nanos⟩

/-- The duration of a whole number of milliseconds. -/
def ofMillis (millis : Nat) : Duration :=
  ⟨millis * 1000000⟩

/-- The longest duration whose seconds fit in 64 bits. -/
def longest : Duration :=
  ofParts (UInt64.size - 1) 999999999

/-- Whole seconds. -/
def seconds (d : Duration) : Nat :=
  d.nanoseconds / 1000000000

/-- Nanoseconds past the last whole second. -/
def subsecond (d : Duration) : Nat :=
  d.nanoseconds % 1000000000

/-- Whole milliseconds, cut to 64 bits: the figure shown in messages and traces
    and the one a circuit breaker compares with. -/
def millis (d : Duration) : UInt64 :=
  (d.nanoseconds / 1000000).toUInt64

/-- The least number of whole milliseconds that is no shorter than the duration. -/
def ceilMillis (d : Duration) : Nat :=
  (d.nanoseconds + 999999) / 1000000

/-- No time at all. -/
def isZero (d : Duration) : Bool :=
  d.nanoseconds == 0

/-- Whole milliseconds below `2 ^ 64` are shown as they were given. -/
theorem millis_ofMillis (n : UInt64) : (ofMillis n.toNat).millis = n := by
  simp [ofMillis, millis]

/-- A duration of whole milliseconds needs no rounding up. -/
theorem ceilMillis_ofMillis (n : Nat) : (ofMillis n).ceilMillis = n := by
  simp only [ofMillis, ceilMillis]
  omega

end Duration

/-- A millisecond of the virtual clock, counted from its start. -/
abbrev Instant := Nat

namespace Instant

/-- The last millisecond the clock can represent: its seconds are signed 64-bit numbers. -/
def last : Instant :=
  (Nat.pow 2 63 - 1) * 1000 + 999

/-- The millisecond at which a duration that starts `now` has passed, if the
    clock can represent it. -/
def after? (now : Instant) (d : Duration) : Option Instant :=
  if now + d.ceilMillis ≤ last then some (now + d.ceilMillis) else none

end Instant

end TrialRouting
