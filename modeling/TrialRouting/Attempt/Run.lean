import TrialRouting.Attempt.Flight
import TrialRouting.Schedule

/-!
# Running a pipeline by itself

An invocation that goes through a pipeline outside any router: no scope, no
fallbacks, no span around it.
-/

namespace TrialRouting

/-- An invocation under the caller's own token. -/
def Invocation.conduct (pipeline : Pipeline) : Conduct Invocation Flight Outcome where
  start inv s := step (inv.enter none pipeline inv.caller s)
  resume inv flight s := step (inv.resume none flight s)
  abandon inv flight s := inv.abandon flight s
  timers flight := flight.timers
where
  /-- The state of an invocation after it has been entered or resumed. -/
  step : State × Reply → State × Step Flight Outcome
    | (s, .done o) => (s, .finished o)
    | (s, .pending flight) => (s, .running flight)

end TrialRouting
