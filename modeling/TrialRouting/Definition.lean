import TrialRouting.Registration.Draft

/-!
# Trial definitions

The declarative form of a trial, as configuration files hold it. A definition
becomes a draft and is checked like any other; a registration gives back the
definition with mode and selector filled in. Predicates are code and have no
declarative form. Timeouts are whole milliseconds here.
-/

namespace TrialRouting

/-- The deadline of a trial, declaratively. -/
structure TimeoutDefinition where
  millis : UInt64
  action : TimeoutAction := .throw
  scope : TimeoutScope := .wholeSequence
  deriving DecidableEq, Repr, Inhabited

/-- A trial, declaratively. -/
structure Definition where
  service : String
  /-- The boolean-flag mode is used when none is given. -/
  mode : Option String := none
  /-- The service name is used when none is given. -/
  selector : Option String := none
  defaultKey : String
  trials : List Trial
  onError : OnError := .throw
  timeout : Option TimeoutDefinition := none
  activation : Window := .unbounded
  deriving DecidableEq, Repr, Inhabited

/-- The timeout policy that a definition stands for. -/
def TimeoutDefinition.policy (t : TimeoutDefinition) : TimeoutPolicy where
  duration := .ofMillis t.millis.toNat
  action := t.action
  scope := t.scope

/-- The declarative form of a timeout policy, cut to whole milliseconds. -/
def TimeoutPolicy.definition (p : TimeoutPolicy) : TimeoutDefinition where
  millis := p.duration.millis
  action := p.action
  scope := p.scope

/-- The draft of a definition. A mode without a selector looks up the service
    name; a selector without a mode belongs to the boolean-flag mode. -/
def Definition.toDraft (d : Definition) : Draft where
  service := d.service
  mode := d.mode.getD booleanFlagMode
  selector := d.selector
  defaultKey := some d.defaultKey
  trials := d.trials
  onError := d.onError
  timeout := d.timeout.map (·.policy)
  window := d.activation

/-- The registration of a definition, checked. -/
def Registration.ofDefinition (d : Definition) : Except RegistrationError Registration :=
  d.toDraft.build

/-- The declarative form of a registration; its predicate is left out. -/
def Registration.toDefinition (r : Registration) : Definition where
  service := r.service
  mode := some r.mode
  selector := some r.selector
  defaultKey := r.defaultKey
  trials := r.trials
  onError := r.onError
  timeout := r.timeout.map (·.definition)
  activation := r.window

end TrialRouting
