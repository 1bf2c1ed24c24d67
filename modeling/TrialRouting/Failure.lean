import TrialRouting.Causes

/-!
# Failures

A failed attempt carries either the fault its implementation raised or an error
raised by the routing around it. The caller gets its own kind of fault back
unchanged; a fault of any other kind reaches it as an unrecognized failure.
-/

namespace TrialRouting

/-- Why no implementation instance could be had. -/
inductive ResolveError where
  | unregistered (implementation : String)
  | construction (implementation reason : String)
  | disposed
  deriving DecidableEq, Repr

namespace ResolveError

/-- The error in words. -/
def message : ResolveError → String
  | unregistered implementation => s!"no implementation registered as `{implementation}`"
  | construction implementation reason => s!"failed to construct `{implementation}`: {reason}"
  | disposed => "scope already disposed"

/-- The short name of the error. -/
def name : ResolveError → String
  | unregistered _ => "Unregistered"
  | construction _ _ => "Construction"
  | disposed => "Disposed"

end ResolveError

/-- What an implementation raised. -/
inductive Fault where
  /-- The routed interface's own kind of error. -/
  | own (text : String)
  /-- An error of another kind. -/
  | foreign (text : String)
  deriving DecidableEq, Repr

/-- What a fault says. -/
def Fault.message : Fault → String
  | own text => text
  | foreign text => text

/-- An error raised by the routing or by a decorator. -/
inductive RoutingError where
  | timeout (key : String) (millis : UInt64)
  | circuitOpen (service key : String)
  | overloaded
  | cancelled
  | resolution (key : String) (source : ResolveError)
  | resultShape (method : String)
  | decorator (causes : Causes)
  | unrecognized (fault : Fault)
  deriving DecidableEq, Repr

namespace RoutingError

/-- The error in words. -/
def message : RoutingError → String
  | timeout key millis => s!"attempt on `{key}` timed out after {millis}ms"
  | circuitOpen service key => s!"circuit open for `{service}` key `{key}`"
  | overloaded => "invocation rejected: concurrency limit reached"
  | cancelled => "invocation cancelled"
  | resolution key _ => s!"failed to resolve implementation for key `{key}`"
  | resultShape method => s!"result for `{method}` has an unexpected type"
  | decorator causes => "decorator failure: " ++ causes.outermost
  | unrecognized fault => "unrecognized implementation failure: " ++ fault.message

/-- Label of the error in logs and metrics. -/
def kind : RoutingError → String
  | timeout _ _ => "timeout"
  | circuitOpen _ _ => "circuit_open"
  | overloaded => "overloaded"
  | cancelled => "cancelled"
  | resolution _ _ => "resolution"
  | resultShape _ => "result_shape"
  | decorator _ => "decorator"
  | unrecognized _ => "unrecognized"

/-- What led to the error, nearest first. -/
def sources : RoutingError → List String
  | resolution _ source => [source.message]
  | decorator causes => causes.texts
  | unrecognized fault => [fault.message]
  | _ => []

end RoutingError

/-- A failed attempt. -/
inductive Failure where
  /-- The implementation raised a fault. -/
  | implementation (fault : Fault)
  /-- The attempt failed around the implementation. -/
  | routing (error : RoutingError)
  deriving DecidableEq, Repr

/-- What a caller is told in the end. -/
inductive CallerError where
  /-- A fault of the interface's own kind. -/
  | fault (text : String)
  /-- Anything else. -/
  | routing (error : RoutingError)
  deriving DecidableEq, Repr

namespace Failure

/-- The failure in words. -/
def message : Failure → String
  | implementation fault => fault.message
  | routing error => error.message

/-- Label of the failure in logs and metrics. -/
def kind : Failure → String
  | implementation _ => "implementation"
  | routing error => error.kind

/-- What led to the failure, nearest first. -/
def sources : Failure → List String
  | implementation _ => []
  | routing error => error.sources

/-- The failure's own text and the texts of what led to it. -/
def chain (f : Failure) : List String :=
  f.message :: f.sources

/-- Whether a deadline ended the attempt. -/
def isTimeout : Failure → Bool
  | routing (.timeout _ _) => true
  | _ => false

/-- Whether the attempt was cancelled. -/
def isCancelled : Failure → Bool
  | routing .cancelled => true
  | _ => false

/-- The caller's error, for a caller that takes the faults `recognises` accepts as
    its own. -/
def toCaller (recognises : Fault → Bool) : Failure → CallerError
  | implementation fault =>
      if recognises fault then .fault fault.message else .routing (.unrecognized fault)
  | routing error => .routing error

/-- The error for a caller of the routed interface. -/
def toInterface : Failure → CallerError :=
  toCaller fun
    | .own _ => true
    | .foreign _ => false

/-- The error for a caller whose error type is not the interface's. -/
def toStranger : Failure → CallerError :=
  toCaller fun _ => false

end Failure

/-- What an attempt returns before it is handed back under its method's own type. -/
inductive Value where
  | text (value : String)
  | count (value : Nat)
  | unit
  /-- A value of a type no method returns. -/
  | other
  deriving DecidableEq, Repr

/-- How an attempt ends. -/
abbrev Outcome := Except Failure Value

/-- The label of an outcome in logs: `ok` or the kind of the failure. -/
def Outcome.label : Outcome → String
  | .ok _ => "ok"
  | .error f => f.kind

end TrialRouting
