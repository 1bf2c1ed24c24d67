import TrialRouting.Registration.Policy
import TrialRouting.Registration.Activation

/-!
# Trial registrations

A trial names a service, the mode and selector that pick a key per call, the
implementation behind each key, the key used when nothing is picked, and what
follows a failure or a missed deadline. A registration is made from a draft by
`Draft.build`, which checks it; nothing here checks again.
-/

namespace TrialRouting

/-- The implementation behind one key; several keys may share an implementation. -/
structure Trial where
  /-- Key that selects this trial. -/
  key : String
  /-- Name under which the implementation is looked up. -/
  implementation : String
  deriving DecidableEq, Repr, Inhabited

/-- One service's trial. -/
structure Registration where
  /-- Service being routed. -/
  service : String
  /-- Selection mode that is asked for a key. -/
  mode : String
  /-- What the mode looks up: a flag name, a configuration path. -/
  selector : String
  /-- Key used when the mode picks none. -/
  defaultKey : String
  /-- Trials in the order they were added. -/
  trials : List Trial
  /-- What follows a failed attempt. -/
  onError : OnError
  /-- Deadline, if any. -/
  timeout : Option TimeoutPolicy
  /-- When the trial is active. -/
  window : Window
  /-- For which calls the trial is active. -/
  predicate : Option Predicate

namespace Registration

/-- Trial keys in registration order. -/
def keys (r : Registration) : List String :=
  r.trials.map (·.key)

/-- Implementation names in registration order. -/
def implementations (r : Registration) : List String :=
  r.trials.map (·.implementation)

/-- Whether `key` is a trial key. -/
def contains (r : Registration) (key : String) : Bool :=
  r.keys.contains key

/-- The trial of a key. -/
def trial? (r : Registration) (key : String) : Option Trial :=
  r.trials.find? (·.key == key)

end Registration

/-- The selection mode of a trial that names none. -/
def booleanFlagMode : String := "boolean-flag"

end TrialRouting
