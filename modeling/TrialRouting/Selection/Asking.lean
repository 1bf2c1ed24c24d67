import TrialRouting.Gate
import TrialRouting.State

/-!
# Asking for a key

The activation gate comes first; a trial that takes part in the call asks its mode,
which may take some time to answer. Nothing here fails: the answer is a selection.
-/

namespace TrialRouting

/-- Where asking for a key stands. -/
inductive Asked where
  | settled (selection : Selection)
  /-- The mode has an opinion that it gives at an instant. -/
  | waiting (due : Instant) (opinion : Opinion)

namespace State

/-- A mode's opinion turned into a selection. -/
def settle (s : State) (r : Registration) (opinion : Opinion) : State × Selection :=
  (s.emit none (Selection.opinionEvent r opinion), .ofOpinion r opinion)

/-- The trial's mode is asked. -/
def ask (s : State) (r : Registration) (method : String) : State × Asked :=
  match s.selector.mode? r.mode with
  | none => (s.emit none (Selection.unregisteredEvent r), .settled (.byDefault r .default))
  | some mode =>
      let opinion := s.selector.opinion r method mode
      let delay := Selector.delay mode
      let s := s.afterAsking r method mode
      if delay = 0 then
        let settled := s.settle r opinion
        (settled.1, .settled settled.2)
      else (s, .waiting (s.now + delay) opinion)

/-- The gate is passed, or the selection is the default key. -/
def choose (s : State) (r : Registration) (method : String) : State × Asked :=
  let inactive := r.inactive? method s.wallClock
  let s := s.afterGate (r.predicateCalls s.wallClock)
  match inactive with
  | some reason =>
      (s.emit none ⟨.debug, "trial inactive, using default key",
        [Trace.text "service" r.service, Trace.text "method" method,
          Trace.text "reason" reason.label]⟩,
        .settled (.inactive r reason))
  | none => s.ask r method

/-- Asking with the clock moved on to the answer. -/
def await (r : Registration) : State × Asked → State × Selection
  | (s, .settled selection) => (s, selection)
  | (s, .waiting due opinion) => { s with now := due }.settle r opinion

end State

end TrialRouting
