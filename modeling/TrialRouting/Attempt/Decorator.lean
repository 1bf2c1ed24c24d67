import TrialRouting.Attempt.Interceptor
import TrialRouting.State

/-!
# Decorators

The decorators around an attempt, outermost first. Factories make them for a router:
a factory that was told nothing falls back on the router's configuration. Circuits
and permits are shared by all attempts that pass the same decorator, so they live in
the state and the decorator holds their place there.
-/

namespace TrialRouting

/-- Router-wide defaults. -/
structure RouterConfig where
  /-- Name of the router in traces. -/
  name : String := "switchyard"
  /-- Milliseconds an attempt may take. -/
  attemptMillis : Nat := 30000
  /-- Attempts that may run at once. -/
  maxConcurrent : Nat := 1000
  breaker : BreakerConfig := {}
  deriving Repr, Inhabited

/-- A decorator in place. -/
inductive Decorator where
  /-- A span around each attempt, with its duration and outcome. -/
  | logging (router : String)
  /-- A bound on the time of each attempt. -/
  | timeout (limit : Duration)
  /-- Circuits by key; their place in the state. -/
  | circuitBreaker (slot : Nat)
  /-- A bound on the attempts at once; its place in the state. -/
  | concurrencyLimit (slot : Nat)
  | interceptor (i : Interceptor)

/-- How a decorator is asked for. -/
inductive Factory where
  | logging
  | timeout (limit : Option Duration)
  | circuitBreaker (config : Option BreakerConfig)
  | concurrencyLimit (limit : Option Nat)
  | interceptor (i : Interceptor)

namespace State

/-- Circuits put in place for a decorator made now. -/
def addCircuits (s : State) (config : BreakerConfig) : State :=
  { s with circuits := s.circuits ++ [{ config, origin := s.now }] }

/-- A limiter put in place. -/
def addLimiter (s : State) (limit : Nat) : State :=
  { s with limiters := s.limiters ++ [.full limit] }

end State

namespace Decorator

/-- A decorator with its own circuits. -/
def makeBreaker (s : State) (config : BreakerConfig) : State × Decorator :=
  (s.addCircuits config, .circuitBreaker s.circuits.length)

/-- A decorator with its own permits. -/
def makeLimit (s : State) (limit : Nat) : State × Decorator :=
  (s.addLimiter limit, .concurrencyLimit s.limiters.length)

end Decorator

/-- The decorator of one factory, for a router of a service. -/
def Factory.create (f : Factory) (config : RouterConfig) (service : String) (s : State) :
    State × Decorator :=
  match f with
  | logging => (s, .logging config.name)
  | timeout limit => (s, .timeout (limit.getD (.ofMillis config.attemptMillis)))
  | circuitBreaker breaker => Decorator.makeBreaker s (breaker.getD config.breaker)
  | concurrencyLimit limit => Decorator.makeLimit s (limit.getD config.maxConcurrent)
  | interceptor i => (s.note (.created i.kind service config.name), .interceptor i)

/-- Decorators around an attempt, outermost first. -/
abbrev Pipeline := List Decorator

/-- The pipeline of a list of factories: each makes one decorator, in order. -/
def Pipeline.build (config : RouterConfig) (service : String) :
    List Factory → State → State × Pipeline
  | [], s => (s, [])
  | f :: rest, s =>
      let made := f.create config service s
      let others := build config service rest made.1
      (others.1, made.2 :: others.2)

end TrialRouting
