import TrialRouting.Registration.Basic
import TrialRouting.Registration.Error

/-!
# Drafts

A draft collects a trial step by step; `Draft.build` checks it and fills in the
selector. The rules are checked in one fixed order, so a draft that violates
several is reported by the first of them: trials and their keys, the default key,
the error policy, the timeout, the window.
-/

namespace TrialRouting

/-- A trial that has not been checked yet. -/
structure Draft where
  service : String
  mode : String := booleanFlagMode
  /-- The service name is used when no selector is given. -/
  selector : Option String := none
  defaultKey : Option String := none
  trials : List Trial := []
  onError : OnError := .throw
  timeout : Option TimeoutPolicy := none
  window : Window := .unbounded
  predicate : Option Predicate := none

namespace Draft

/-- One step of writing a draft. -/
inductive Step where
  /-- Sets the mode together with its selector. -/
  | mode (mode selector : String)
  /-- Adds a trial. -/
  | trial (trial : Trial)
  /-- Adds a trial and makes its key the default. -/
  | defaultTrial (trial : Trial)
  | defaultKey (key : String)
  | onError (policy : OnError)
  | timeout (policy : TimeoutPolicy)
  | activeFrom (start : UInt64)
  | activeUntil (finish : UInt64)
  | window (window : Window)
  | predicate (predicate : Predicate)

/-- The draft after one more step; a later setting replaces an earlier one. -/
def apply (d : Draft) : Step → Draft
  | .mode mode selector => { d with mode := mode, selector := some selector }
  | .trial t => { d with trials := d.trials ++ [t] }
  | .defaultTrial t => { d with trials := d.trials ++ [t], defaultKey := some t.key }
  | .defaultKey key => { d with defaultKey := some key }
  | .onError policy => { d with onError := policy }
  | .timeout policy => { d with timeout := some policy }
  | .activeFrom start => { d with window := { d.window with start := some start } }
  | .activeUntil finish => { d with window := { d.window with finish := some finish } }
  | .window window => { d with window := window }
  | .predicate predicate => { d with predicate := some predicate }

/-- The draft after a list of steps. -/
def applyAll (d : Draft) (steps : List Step) : Draft :=
  steps.foldl apply d

/-- Keys of the trials, in order. -/
def keys (d : Draft) : List String :=
  d.trials.map (·.key)

/-- The first key that is empty or repeats one of `seen` or an earlier key. -/
def checkKeys (seen : List String) : List String → Except RegistrationError Unit
  | [] => .ok ()
  | key :: rest =>
      if key.isEmpty then .error .emptyKey
      else if seen.contains key then .error (.duplicateKey key)
      else checkKeys (key :: seen) rest

/-- A draft needs trials, and their keys are distinct and not empty. -/
def checkTrials (d : Draft) : Except RegistrationError Unit :=
  if d.trials.isEmpty then .error (.emptyTrials d.service)
  else checkKeys [] d.keys

/-- The default key, which has to be a trial key. -/
def checkDefault (d : Draft) : Except RegistrationError String :=
  match d.defaultKey with
  | none => .error (.missingDefaultKey d.service)
  | some key => if d.keys.contains key then .ok key else .error (.unknownDefaultKey key)

/-- An error policy names trial keys, and an ordered one names at least one. -/
def checkOnError (d : Draft) : Except RegistrationError Unit :=
  match d.onError with
  | .redirectToSpecific key =>
      if d.keys.contains key then .ok () else .error (.unknownFallbackKey key)
  | .redirectOrdered [] => .error .emptyFallbackList
  | .redirectOrdered keys =>
      match keys.find? (!d.keys.contains ·) with
      | some key => .error (.unknownFallbackKey key)
      | none => .ok ()
  | _ => .ok ()

/-- A timeout takes some time, and its action names a trial key. -/
def checkTimeout (d : Draft) : Except RegistrationError Unit :=
  match d.timeout with
  | none => .ok ()
  | some policy =>
      if policy.duration.isZero then .error .zeroTimeout
      else match policy.action with
        | .fallbackToSpecific key =>
            if d.keys.contains key then .ok () else .error (.unknownTimeoutFallbackKey key)
        | _ => .ok ()

/-- A window does not start after it ends. -/
def checkWindow (d : Draft) : Except RegistrationError Unit :=
  match d.window.inverted? with
  | some (start, finish) => .error (.invertedWindow start finish)
  | none => .ok ()

/-- The registration of a draft that violates no rule, or the first violated rule. -/
def build (d : Draft) : Except RegistrationError Registration := do
  d.checkTrials
  let defaultKey ← d.checkDefault
  d.checkOnError
  d.checkTimeout
  d.checkWindow
  return {
    service := d.service
    mode := d.mode
    selector := d.selector.getD d.service
    defaultKey
    trials := d.trials
    onError := d.onError
    timeout := d.timeout
    window := d.window
    predicate := d.predicate }

end Draft

end TrialRouting
