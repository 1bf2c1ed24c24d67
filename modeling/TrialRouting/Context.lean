/-!
# Invocation context

What decorators and telemetry are told about a call. The fallback attempts of a
call get the context of its primary attempt with key and number replaced.
-/

namespace TrialRouting

/-- The context of one attempt of a call. -/
structure Context where
  /-- Identifies the call; all its attempts share it. -/
  invocation : Nat
  service : String
  method : String
  selector : String
  /-- Key of the primary attempt. -/
  selected : String
  /-- Trial keys in registration order. -/
  candidates : List String
  /-- Key of this attempt. -/
  key : String
  /-- Zero for the primary attempt, and counted in 32 bits from there. -/
  attempt : UInt32
  deriving DecidableEq, Repr

namespace Context

/-- The context of a primary attempt. -/
def primary (invocation : Nat) (service method selector selected : String)
    (candidates : List String) : Context :=
  { invocation, service, method, selector, selected, candidates, key := selected, attempt := 0 }

/-- The context of another attempt of the same call. -/
def forAttempt (c : Context) (key : String) (attempt : UInt32) : Context :=
  { c with key, attempt }

/-- Whether the attempt follows an earlier one. -/
def isFallback (c : Context) : Bool :=
  0 < c.attempt

end Context

end TrialRouting
