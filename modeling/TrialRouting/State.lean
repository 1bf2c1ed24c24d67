import TrialRouting.Timer
import TrialRouting.Token
import TrialRouting.Breaker
import TrialRouting.Limiter
import TrialRouting.Journal
import TrialRouting.Selection.Mode

/-!
# State

Everything that calls share and change while they run: the virtual clock, the
cancellation tokens, circuits, permits, the catalog, the selection modes and their
sources, and what has been written to the journal, the trace and the metrics.
-/

namespace TrialRouting

/-- What calls share. -/
structure State where
  /-- The virtual clock, in milliseconds. -/
  now : Instant := 0
  /-- The timer that bounds the time of attempts; nothing changes it. -/
  timer : Timer := .usual
  tokens : TokenForest := {}
  /-- Tokens that have been handed to running work, in order. -/
  handedOut : List Token := []
  /-- The circuits of each breaking decorator. -/
  circuits : List Circuits := []
  /-- The limiter of each limiting decorator. -/
  limiters : List Limiter := []
  catalog : Catalog := {}
  selector : Selector := {}
  /-- The clock that activation looks at, in milliseconds. -/
  wallClock : UInt64 := 0
  /-- How often an activation predicate has been asked. -/
  predicateCalls : Nat := 0
  /-- Calls identified so far. -/
  invocations : Nat := 0
  /-- Telemetry scopes started so far. -/
  reporters : Nat := 0
  /-- Spans opened so far. -/
  spans : Nat := 0
  journal : List Note := []
  trace : List Trace.Entry := []
  samples : List Telemetry.Sample := []

namespace State

/-- A line added to the journal. -/
def note (s : State) (n : Note) : State :=
  { s with journal := s.journal ++ [n] }

/-- Lines added to the journal. -/
def notes (s : State) (ns : List Note) : State :=
  { s with journal := s.journal ++ ns }

/-- An entry added to the trace. -/
def record (s : State) (e : Trace.Entry) : State :=
  { s with trace := s.trace ++ [e] }

/-- An event emitted inside a span, or outside all spans. -/
def emit (s : State) (current : Option Trace.Span) (e : Trace.Event) : State :=
  s.record (.event e current)

/-- The state with a new page: nothing written and no token handed out yet. -/
def newPage (s : State) : State :=
  { s with journal := [], trace := [], handedOut := [] }

/-- The next span to be opened for a call. -/
def nextSpan (s : State) (name : String) (invocation : Nat) : Trace.Span :=
  ⟨s.spans, name, invocation⟩

/-- A span opened. -/
def openSpan (s : State) (span : Trace.Span) (fields : List Trace.Field) : State :=
  { s.record (.opened span fields) with spans := s.spans + 1 }

/-! ### Tokens -/

/-- Whether a token is cancelled. -/
def isCancelled (s : State) (t : Token) : Bool :=
  s.tokens.isCancelled t

/-- The token that was next has been issued. -/
def issueToken (s : State) : State :=
  { s with tokens := s.tokens.issue }

/-- A token cancelled. -/
def cancel (s : State) (t : Token) : State :=
  { s with tokens := s.tokens.cancel t }

/-- A token handed to running work. -/
def handOut (s : State) (t : Token) : State :=
  { s with handedOut := s.handedOut ++ [t] }

/-! ### Circuits and permits -/

/-- The circuits of one decorator. -/
def circuitsAt (s : State) (slot : Nat) : Circuits :=
  (s.circuits[slot]?).getD { config := {} }

/-- The circuits of one decorator changed. -/
def updateCircuits (s : State) (slot : Nat) (f : Circuits → Circuits) : State :=
  { s with circuits := s.circuits.modify slot f }

/-- The limiter of one decorator. -/
def limiterAt (s : State) (slot : Nat) : Limiter :=
  (s.limiters[slot]?).getD (.full 0)

/-- The limiter of one decorator changed. -/
def updateLimiter (s : State) (slot : Nat) (f : Limiter → Limiter) : State :=
  { s with limiters := s.limiters.modify slot f }

/-! ### Scopes -/

/-- A scope opened for an attempt. -/
def openScope (s : State) : State :=
  { s.note (.scopeOpened s.catalog.nextScope) with catalog := s.catalog.openScope }

/-- A guard disposes its scope, unless it did so before. -/
def disposeGuard (s : State) (guard : ScopeGuard) : State × ScopeGuard :=
  let s := match guard.held with
    | some id => s.note (.scopeDisposed id)
    | none => s
  let disposal := guard.dispose s.catalog
  ({ s with catalog := disposal.1 }, disposal.2)

/-- A guard dropped: its scope is disposed, unless the guard did so before. -/
def dropGuard (s : State) (guard : ScopeGuard) : State :=
  (s.disposeGuard guard).1

/-- The state after a scope has been asked for an implementation. -/
def afterResolution (s : State) (r : Resolution) : State :=
  { s.notes (r.built.toList.map fun (name, number) => .built name number) with
    catalog := r.catalog }

/-- An implementation registered. -/
def implement (s : State) (recipe : Recipe) : State :=
  { s.emit none ⟨.debug, "implementation registered", [Trace.text "implementation" recipe.name]⟩
    with catalog := s.catalog.register recipe }

/-- An implementation registered whose one instance is built right away. -/
def implementInstance (s : State) (recipe : Recipe) : State :=
  { (s.note (.built recipe.name 1)).emit none
      ⟨.debug, "implementation registered", [Trace.text "implementation" recipe.name]⟩
    with catalog := s.catalog.registerInstance recipe }

/-! ### Selection modes -/

/-- A mode registered. -/
def registerMode (s : State) (name : String) (mode : Mode) : State :=
  { s.emit none (Selector.registeredEvent name) with selector := s.selector.register name mode }

/-- The built-in modes registered. -/
def registerBuiltIns (s : State) : State :=
  Selector.builtIns.foldl (fun s (name, mode) => s.registerMode name mode) s

/-- The state after a mode has been asked about a method of a trial. -/
def afterAsking (s : State) (r : Registration) (method : String) (mode : Mode) : State :=
  let s := { s with selector := s.selector.afterAsking mode }
  match mode with
  | .custom m =>
      s.note (.modeAsked m.name r.service method r.selector r.defaultKey r.keys.length)
  | _ => s

/-- The state after the activation gate has looked at a trial. -/
def afterGate (s : State) (predicateCalls : Nat) : State :=
  { s with predicateCalls := s.predicateCalls + predicateCalls }

/-! ### Telemetry -/

/-- A report to a telemetry scope. -/
def report (s : State) (provider : Telemetry.Provider) (current : Option Trace.Span)
    (scope : Telemetry.Scope) (r : Telemetry.Report) : State :=
  match provider with
  | .silent => s
  | .recorder => s.note (.telemetry scope r)
  | .tracing =>
      match r.event? scope with
      | none => s
      | some e => s.emit current e
  | .metrics => { s with samples := s.samples ++ r.samples scope }

/-- Reports through a guard; one that has been closed says nothing more. -/
def reportAll (s : State) (provider : Telemetry.Provider) (current : Option Trace.Span)
    (guard : Telemetry.Guard) (reports : List Telemetry.Report) : State :=
  match guard with
  | none => s
  | some scope => reports.foldl (fun s r => s.report provider current scope r) s

end State

end TrialRouting
