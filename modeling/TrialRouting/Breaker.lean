import TrialRouting.Duration
import TrialRouting.Directory

/-!
# Circuit breakers

A breaker counts consecutive failures of one key. At the threshold its circuit
opens and attempts are rejected. Once the reset time has passed since it opened, a
single attempt is admitted as a probe, which closes the circuit by succeeding and
opens it again by failing. An attempt that is cancelled or abandoned counts as
neither, and frees the probe's place if it was the probe.

Times are milliseconds. Attempts admitted while the circuit was closed may settle
long after it has opened, so settling takes no part of the state for granted.
-/

namespace TrialRouting

/-- The state of a circuit. -/
inductive CircuitState where
  | closed
  | opened
  | halfOpen
  deriving DecidableEq, Repr, Inhabited

/-- The name of a state. -/
def CircuitState.name : CircuitState → String
  | closed => "Closed"
  | opened => "Open"
  | halfOpen => "HalfOpen"

/-- As what an attempt was admitted. -/
inductive Admission where
  | normal
  | probe
  deriving DecidableEq, Repr, Inhabited

/-- When a circuit opens and for how long. -/
structure BreakerConfig where
  /-- Consecutive failures of one key that open its circuit. -/
  threshold : UInt32 := 5
  /-- How long an open circuit rejects before it lets a probe through. -/
  reset : Duration := .ofMillis 30000
  deriving DecidableEq, Repr, Inhabited

/-- The breaker of one key. -/
structure Breaker where
  state : CircuitState := .closed
  /-- Failures in a row. -/
  failures : UInt32 := 0
  /-- When the circuit last opened. -/
  openedAt : Nat := 0
  /-- Whether a probe is running. -/
  probing : Bool := false
  deriving DecidableEq, Repr, Inhabited

namespace Breaker

/-- A probe is admitted unless one is running. -/
def probe (b : Breaker) : Breaker × Option Admission :=
  if b.probing then (b, none) else ({ b with probing := true }, some .probe)

/-- An attempt arrives: how it is admitted, if at all. -/
def arrive (b : Breaker) (now reset : Nat) : Breaker × Option Admission :=
  match b.state with
  | .closed => (b, some .normal)
  | .opened =>
      if now - b.openedAt < reset then (b, none) else { b with state := .halfOpen }.probe
  | .halfOpen => b.probe

/-- The breaker after its circuit has opened. -/
def trip (b : Breaker) (now : Nat) : Breaker :=
  { b with state := .opened, failures := 0, openedAt := now }

/-- The probe's place is free again. -/
def release (b : Breaker) : Admission → Breaker
  | .normal => b
  | .probe => { b with probing := false }

/-- An admitted attempt succeeds. -/
def succeed (b : Breaker) (a : Admission) : Breaker :=
  { b with state := .closed, failures := 0 }.release a

/-- An admitted attempt fails; whether that opens the circuit. -/
def fail (b : Breaker) (a : Admission) (now : Nat) (threshold : UInt32) : Breaker × Bool :=
  match a with
  | .probe => ((b.trip now).release .probe, true)
  | .normal =>
      let counted := { b with failures := b.failures + 1 }
      if threshold ≤ counted.failures ∧ counted.state = .closed then (counted.trip now, true)
      else (counted, false)

/-- An admitted attempt is cancelled or abandoned. -/
def ignore (b : Breaker) (a : Admission) : Breaker :=
  b.release a

end Breaker

/-- The breakers of one decorator, one for each key it has met. -/
structure Circuits where
  config : BreakerConfig
  /-- When the decorator was made; breakers count from there. -/
  origin : Instant := 0
  breakers : Directory Breaker := []
  deriving Repr, Inhabited

namespace Circuits

/-- The breaker of a key; a key never met has a closed circuit. -/
def breaker (c : Circuits) (key : String) : Breaker :=
  (c.breakers.lookup? key).getD {}

/-- The circuits with the breaker of one key replaced. -/
def put (c : Circuits) (key : String) (b : Breaker) : Circuits :=
  { c with breakers := c.breakers.set key b }

/-- Milliseconds since the decorator was made, cut to 64 bits. -/
def clock (c : Circuits) (now : Instant) : Nat :=
  (Duration.ofMillis (now - c.origin)).millis.toNat

/-- The reset time in milliseconds, cut to 64 bits. -/
def resetMillis (c : Circuits) : Nat :=
  c.config.reset.millis.toNat

/-- How an attempt on a key would be admitted. -/
def admission? (c : Circuits) (key : String) (now : Instant) : Option Admission :=
  ((c.breaker key).arrive (c.clock now) c.resetMillis).2

/-- The circuits after an attempt on a key has arrived. -/
def arrive (c : Circuits) (key : String) (now : Instant) : Circuits :=
  c.put key ((c.breaker key).arrive (c.clock now) c.resetMillis).1

/-- The circuits after an attempt on a key has succeeded. -/
def succeed (c : Circuits) (key : String) (a : Admission) : Circuits :=
  c.put key ((c.breaker key).succeed a)

/-- Whether the failure of an attempt on a key opens its circuit. -/
def opensOnFailure (c : Circuits) (key : String) (a : Admission) (now : Instant) : Bool :=
  ((c.breaker key).fail a (c.clock now) c.config.threshold).2

/-- The circuits after an attempt on a key has failed. -/
def fail (c : Circuits) (key : String) (a : Admission) (now : Instant) : Circuits :=
  c.put key ((c.breaker key).fail a (c.clock now) c.config.threshold).1

/-- The circuits after an attempt on a key has been cancelled or abandoned. -/
def ignore (c : Circuits) (key : String) (a : Admission) : Circuits :=
  c.put key ((c.breaker key).ignore a)

/-- The state of a key's circuit. -/
def state (c : Circuits) (key : String) : CircuitState :=
  (c.breaker key).state

end Circuits

end TrialRouting
