import TrialRouting.Duration

/-!
# Timers

Decorators bound the time of an attempt by a timer of the runtime, which is no part of this
library. All that they rely on is that the timer is exact within its range: a bound that ends
there lasts as long as it says, up to the clock's millisecond. How long one lasts that ends
beyond the range is up to the timer, and nothing is proved about that.
-/

namespace TrialRouting

/-- A timer of the runtime. -/
structure Timer where
  /-- The last instant up to which it keeps bounds exactly. -/
  range : Instant
  /-- For how many milliseconds a bound lasts that is set at an instant, if it ever runs out. -/
  lasts? : Instant → Duration → Option Nat
  /-- Within the range that is the bound itself, to the clock's millisecond. -/
  exact : ∀ now limit, now + limit.ceilMillis ≤ range → lasts? now limit = some limit.ceilMillis

namespace Timer

/-- When a bound runs out that is set now. -/
def due? (timer : Timer) (now : Instant) (limit : Duration) : Option Instant :=
  (timer.lasts? now limit).map (now + ·)

/-- How long the usual timer keeps a bound whose end the clock cannot represent: some thirty
    years, in milliseconds. -/
def farFuture : Nat :=
  86400 * 365 * 30 * 1000

/-- The usual timer. Its range is that of the clock. -/
def usual : Timer where
  range := Instant.last
  lasts? now limit :=
    some (if now + limit.ceilMillis ≤ Instant.last then limit.ceilMillis else farFuture)
  exact _ _ within := by rw [if_pos within]

end Timer

end TrialRouting
