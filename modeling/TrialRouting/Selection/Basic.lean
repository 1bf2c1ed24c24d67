import TrialRouting.Registration.Basic
import TrialRouting.Causes
import TrialRouting.Trace

/-!
# Selections

A selection is the key of the primary attempt together with where it came from. A
selection mode may name a key, have no opinion, or fail; whatever it does, the
selected key is a trial key, because everything but a trial key it names leads to
the default key.
-/

namespace TrialRouting

/-- Where the key of the primary attempt came from. -/
inductive SelectionSource where
  /-- The mode named a trial key. -/
  | provider
  /-- The mode named none. -/
  | default
  /-- The trial takes no part in the call, so no mode was asked. -/
  | inactive (reason : InactiveReason)
  deriving DecidableEq, Repr, Inhabited

namespace SelectionSource

/-- The label of the source in metrics. -/
def label : SelectionSource → String
  | provider => "provider"
  | default => "default"
  | inactive _ => "inactive"

/-- The source in words, with the reason of an inactive trial. -/
def text : SelectionSource → String
  | inactive reason => "inactive (" ++ reason.label ++ ")"
  | other => other.label

end SelectionSource

/-- Why a mode could not answer. -/
inductive SelectionError where
  | unknownMode (mode : String)
  | flagUndefined (flag : String)
  | valueMissing (path : String)
  | unsupportedValue (path : String)
  | source (causes : Causes)
  deriving DecidableEq, Repr

namespace SelectionError

/-- The error in words. -/
def message : SelectionError → String
  | unknownMode mode => s!"no selection mode registered as `{mode}`"
  | flagUndefined flag => s!"flag `{flag}` is not defined"
  | valueMissing path => s!"no configuration value at `{path}`"
  | unsupportedValue path => s!"configuration value at `{path}` cannot be used as a key"
  | source causes => "selection source failed: " ++ causes.outermost

/-- The short name of the error. -/
def name : SelectionError → String
  | unknownMode _ => "UnknownMode"
  | flagUndefined _ => "FlagUndefined"
  | valueMissing _ => "ValueMissing"
  | unsupportedValue _ => "UnsupportedValue"
  | source _ => "Source"

/-- The error's own text and the texts of what led to it. -/
def chain (e : SelectionError) : List String :=
  e.message :: match e with
    | source causes => causes.texts
    | _ => []

end SelectionError

/-- What a mode answers: a key, no opinion, or an error. -/
abbrev Opinion := Except SelectionError (Option String)

/-- The key of the primary attempt and its source. -/
structure Selection where
  key : String
  source : SelectionSource
  deriving DecidableEq, Repr, Inhabited

namespace Selection

/-- The default key, from a given source. -/
def byDefault (r : Registration) (source : SelectionSource) : Selection :=
  ⟨r.defaultKey, source⟩

/-- The selection for a call that the trial takes no part in. -/
def inactive (r : Registration) (reason : InactiveReason) : Selection :=
  byDefault r (.inactive reason)

/-- The selection that follows from a mode's opinion. -/
def ofOpinion (r : Registration) : Opinion → Selection
  | .ok (some key) => if r.contains key then ⟨key, .provider⟩ else byDefault r .default
  | .ok none => byDefault r .default
  | .error _ => byDefault r .default

/-- What a trace says about a mode's opinion. -/
def opinionEvent (r : Registration) (opinion : Opinion) : Trace.Event :=
  let fields := [Trace.text "service" r.service, Trace.text "mode" r.mode]
  match opinion with
  | .ok (some key) =>
      let fields := fields ++ [Trace.text "key" key]
      if r.contains key then ⟨.debug, "key selected", fields⟩
      else ⟨.warn, "selected key is not a trial key, using default key", fields⟩
  | .ok none => ⟨.debug, "no key selected, using default key", fields⟩
  | .error e =>
      ⟨.warn, "selection failed, using default key", fields ++ [Trace.text "error" e.message]⟩

/-- What a trace says when no mode is registered under the trial's name. -/
def unregisteredEvent (r : Registration) : Trace.Event :=
  ⟨.warn, "selection mode not registered, using default key",
    [Trace.text "service" r.service, Trace.text "mode" r.mode]⟩

end Selection

end TrialRouting
