import TrialRouting.Definition
import TrialRouting.Proofs.TrialKeys

/-!
# The normal form of a definition

A definition may leave out its mode, its selector, or both; what it leaves out is filled in at
three places on the way to a trial. The definition that comes back from the trial has both, and
differs from the one that went in by nothing else: it is the normal form.

A definition says what a builder is to be told, but not how often, nor in which order. Of each
setting a builder keeps what it has been told last, so two builders that have been told the same
in the end build the same trial, or fail for the same reason. `Definition.GivenBy` says when a
builder has been told what a definition says.
-/

namespace TrialRouting

namespace Draft

namespace Step

/-! ### What a step sets -/

/-- The mode and the selector, which are only set together. -/
def mode? : Step → Option (String × String)
  | .mode name selector => some (name, selector)
  | _ => none

/-- The trial that a step adds. -/
def trial? : Step → Option Trial
  | .trial t => some t
  | .defaultTrial t => some t
  | _ => none

def defaultKey? : Step → Option String
  | .defaultKey key => some key
  | .defaultTrial t => some t.key
  | _ => none

def onError? : Step → Option OnError
  | .onError policy => some policy
  | _ => none

def timeout? : Step → Option TimeoutPolicy
  | .timeout policy => some policy
  | _ => none

/-- The start of the window, which may be set to none. -/
def start? : Step → Option (Option UInt64)
  | .activeFrom start => some (some start)
  | .window w => some w.start
  | _ => none

/-- The end of the window, which may be set to none. -/
def finish? : Step → Option (Option UInt64)
  | .activeUntil finish => some (some finish)
  | .window w => some w.finish
  | _ => none

end Step

/-- What a list of steps sets last, if anything. -/
def lastSet {α : Type} (read? : Step → Option α) (steps : List Step) : Option α :=
  (steps.filterMap read?).getLast?

variable {d : Draft} {steps : List Step}

/-- A part of a draft that each step sets or leaves alone is in the end as it was set last. The
induction follows the steps from the last one on, which decides unless it leaves the part alone. -/
theorem applyAll_eq_lastSet {α : Type} (get : Draft → α) (read? : Step → Option α)
    (each : ∀ d step, get (apply d step) = (read? step).getD (get d)) (d : Draft)
    (steps : List Step) : get (d.applyAll steps) = (lastSet read? steps).getD (get d) := by
  induction steps generalizing d with
  | nil => rfl
  | cons step rest ih =>
    have onwards : get (d.applyAll (step :: rest)) =
        (lastSet read? rest).getD ((read? step).getD (get d)) := by
      rw [← each]
      exact ih (apply d step)
    rw [onwards]
    cases sets : read? step with
    | none => simp only [lastSet, List.filterMap_cons, sets, Option.getD_none]
    | some value =>
      simp only [lastSet, List.filterMap_cons, sets, List.getLast?_cons, Option.getD_some]

/-- A part of a draft that each step sets to some value or leaves alone has the value that was
set last, if any. -/
theorem applyAll_eq_lastSet_map {α β : Type} (get : Draft → β) (read? : Step → Option α)
    (f : α → β) (each : ∀ d step, get (apply d step) = ((read? step).map f).getD (get d))
    (d : Draft) (steps : List Step) :
    get (d.applyAll steps) = ((lastSet read? steps).map f).getD (get d) := by
  have last : lastSet (fun step => (read? step).map f) steps = (lastSet read? steps).map f := by
    rw [lastSet, lastSet, ← List.map_filterMap, List.getLast?_map]
  rw [applyAll_eq_lastSet get _ each, last]

/-- The trials are those that have been added, in order. -/
theorem trials_applyAll (d : Draft) (steps : List Step) :
    (d.applyAll steps).trials = d.trials ++ steps.filterMap Step.trial? := by
  induction steps generalizing d with
  | nil => exact (List.append_nil _).symm
  | cons step rest ih =>
    have added : (apply d step).trials = d.trials ++ step.trial?.toList := by
      cases step <;> simp [apply, Step.trial?]
    have onwards : (d.applyAll (step :: rest)).trials =
        (d.trials ++ step.trial?.toList) ++ rest.filterMap Step.trial? := by
      rw [← added]
      exact ih (apply d step)
    rw [onwards]
    cases adds : step.trial? with
    | none => simp [adds]
    | some t => simp [adds]

/-- No step changes the service. -/
theorem service_applyAll (d : Draft) (steps : List Step) :
    (d.applyAll steps).service = d.service := by
  induction steps generalizing d with
  | nil => rfl
  | cons step rest ih =>
    have kept : (apply d step).service = d.service := by cases step <;> rfl
    rw [← kept]
    exact ih (apply d step)

/-- A draft is as the steps for a service tell: each part is as it has been set last, and the
trials are those that have been added. -/
structure ToldBy (d : Draft) (service : String) (steps : List Step) : Prop where
  service : d.service = service
  mode : (d.mode, d.selector) =
    ((lastSet Step.mode? steps).map fun set => (set.1, some set.2)).getD (booleanFlagMode, none)
  trials : d.trials = steps.filterMap Step.trial?
  defaultKey : d.defaultKey = lastSet Step.defaultKey? steps
  onError : d.onError = (lastSet Step.onError? steps).getD .throw
  timeout : d.timeout = lastSet Step.timeout? steps
  start : d.window.start = (lastSet Step.start? steps).getD none
  finish : d.window.finish = (lastSet Step.finish? steps).getD none

/-- A draft is as it has been told. -/
theorem toldBy_applyAll (service : String) (steps : List Step) :
    (({ service := service } : Draft).applyAll steps).ToldBy service steps where
  service := service_applyAll _ steps
  mode := applyAll_eq_lastSet_map (fun a => (a.mode, a.selector)) Step.mode?
    (fun set => (set.1, some set.2)) (by rintro _ (_ | _) <;> rfl) _ steps
  trials := (trials_applyAll _ steps).trans (List.nil_append _)
  defaultKey := by
    rw [applyAll_eq_lastSet_map (·.defaultKey) Step.defaultKey? some
      (by rintro _ (_ | _) <;> rfl) _ steps]
    cases lastSet Step.defaultKey? steps <;> rfl
  onError := applyAll_eq_lastSet (·.onError) Step.onError? (by rintro _ (_ | _) <;> rfl) _ steps
  timeout := by
    rw [applyAll_eq_lastSet_map (·.timeout) Step.timeout? some
      (by rintro _ (_ | _) <;> rfl) _ steps]
    cases lastSet Step.timeout? steps <;> rfl
  start := applyAll_eq_lastSet (·.window.start) Step.start?
    (by rintro _ (_ | _) <;> rfl) _ steps
  finish := applyAll_eq_lastSet (·.window.finish) Step.finish?
    (by rintro _ (_ | _) <;> rfl) _ steps

/-- The draft with its selector filled in, and without its predicate. -/
def filled (d : Draft) : Draft :=
  { d with selector := some (d.selector.getD d.service), predicate := none }

/-- Filling in the selector changes neither whether a draft is built nor what is built, and no check
looks at the predicate. An unset selector is the service in any case, and building fills it in if
nobody has before. -/
theorem build_filled (d : Draft) :
    d.filled.build = d.build.map fun r => { r with predicate := none } := by
  have trials : d.filled.checkTrials = d.checkTrials := rfl
  have byDefault : d.filled.checkDefault = d.checkDefault := rfl
  have onError : d.filled.checkOnError = d.checkOnError := rfl
  have timeout : d.filled.checkTimeout = d.checkTimeout := rfl
  have window : d.filled.checkWindow = d.checkWindow := rfl
  simp only [build, trials, byDefault, onError, timeout, window, bind, Except.bind]
  cases d.checkTrials with
  | error e => rfl
  | ok _ =>
    cases d.checkDefault with
    | error e => rfl
    | ok key =>
      cases d.checkOnError with
      | error e => rfl
      | ok _ =>
        cases d.checkTimeout with
        | error e => rfl
        | ok _ => cases d.checkWindow <;> rfl

end Draft

namespace Definition

variable {d : Definition} {told : List Draft.Step}

/-- The definition with what it leaves out filled in. -/
def normal (d : Definition) : Definition :=
  { d with
    mode := some (d.mode.getD booleanFlagMode)
    selector := some (d.selector.getD d.service) }

/-- A builder for the service has been told what a definition says: the settings it has been
told last are those of the definition. If the definition has neither a mode nor a selector, the
builder need not have been told any. -/
structure GivenBy (d : Definition) (told : List Draft.Step) : Prop where
  mode : ∀ set, Draft.lastSet Draft.Step.mode? told = some set →
    set = (d.mode.getD booleanFlagMode, d.selector.getD d.service)
  unset : Draft.lastSet Draft.Step.mode? told = none → d.mode = none ∧ d.selector = none
  trials : told.filterMap Draft.Step.trial? = d.trials
  defaultKey : Draft.lastSet Draft.Step.defaultKey? told = some d.defaultKey
  onError : (Draft.lastSet Draft.Step.onError? told).getD .throw = d.onError
  timeout : Draft.lastSet Draft.Step.timeout? told = d.timeout.map (·.policy)
  start : (Draft.lastSet Draft.Step.start? told).getD none = d.activation.start
  finish : (Draft.lastSet Draft.Step.finish? told).getD none = d.activation.finish

/-- What a builder is told about the mode: with a mode its selector or the service, and with a
selector alone the boolean-flag mode. -/
def modeSteps (d : Definition) : List Draft.Step :=
  match d.mode, d.selector with
  | some mode, selector => [.mode mode (selector.getD d.service)]
  | none, some selector => [.mode booleanFlagMode selector]
  | none, none => []

/-- What a builder is told about everything else but the trials. -/
def settingSteps (d : Definition) : List Draft.Step :=
  [.defaultKey d.defaultKey, .onError d.onError, .window d.activation] ++
    (d.timeout.map fun t => .timeout t.policy).toList

/-- What a builder is told by a definition. -/
def steps (d : Definition) : List Draft.Step :=
  d.modeSteps ++ d.trials.map .trial ++ d.settingSteps

/-- What a definition says of the mode and of the trials sets nothing else. So for every other
setting only the steps that are about settings have to be looked at. -/
theorem lastSet_steps {α : Type} (d : Definition) {read? : Draft.Step → Option α}
    (mode : ∀ name selector, read? (.mode name selector) = none)
    (trial : ∀ t, read? (.trial t) = none) :
    Draft.lastSet read? d.steps = Draft.lastSet read? d.settingSteps := by
  have modes : d.modeSteps.filterMap read? = [] := by
    unfold modeSteps
    split <;> simp [mode]
  have trials : (d.trials.map Draft.Step.trial).filterMap read? = [] := by
    simp [trial]
  rw [Draft.lastSet, steps, List.filterMap_append, List.filterMap_append, modes, trials]
  rfl

/-- A definition with neither a mode nor a selector does not set them; any other sets both, with
what is missing filled in. A builder has one step for the two, and cannot be told of one alone. -/
theorem lastMode_steps (d : Definition) :
    (Draft.lastSet Draft.Step.mode? d.steps = none ∧ d.mode = none ∧ d.selector = none) ∨
      Draft.lastSet Draft.Step.mode? d.steps =
        some (d.mode.getD booleanFlagMode, d.selector.getD d.service) := by
  have trials : (d.trials.map Draft.Step.trial).filterMap Draft.Step.mode? = [] := by
    simp [Draft.Step.mode?]
  have settings : d.settingSteps.filterMap Draft.Step.mode? = [] := by
    unfold settingSteps
    cases d.timeout <;> rfl
  have modes : d.steps.filterMap Draft.Step.mode? = d.modeSteps.filterMap Draft.Step.mode? := by
    rw [steps, List.filterMap_append, List.filterMap_append, trials, settings, List.append_nil,
      List.append_nil]
  rw [Draft.lastSet, modes, modeSteps]
  cases d.mode with
  | some name => exact .inr rfl
  | none =>
    cases d.selector with
    | some selector => exact .inr rfl
    | none => exact .inl ⟨rfl, rfl, rfl⟩

/-- What a definition says of everything but the trials adds none. -/
theorem trials_steps (d : Definition) : d.steps.filterMap Draft.Step.trial? = d.trials := by
  have modes : d.modeSteps.filterMap Draft.Step.trial? = [] := by
    unfold modeSteps
    split <;> rfl
  have trials : (d.trials.map Draft.Step.trial).filterMap Draft.Step.trial? = d.trials := by
    rw [List.filterMap_map]
    exact List.filterMap_some
  have settings : d.settingSteps.filterMap Draft.Step.trial? = [] := by
    unfold settingSteps
    cases d.timeout <;> rfl
  rw [steps, List.filterMap_append, List.filterMap_append, modes, trials, settings,
    List.append_nil]
  rfl

/-- A builder that is told by a definition what to do is told what the definition says. The mode and
the trials have their own steps; each of the other settings is what its own step says. -/
theorem givenBy_steps (d : Definition) : d.GivenBy d.steps := by
  refine ⟨?_, ?_, d.trials_steps, ?_, ?_, ?_, ?_, ?_⟩
  · intro set last
    rcases d.lastMode_steps with ⟨silent, -⟩ | told
    · rw [silent] at last
      cases last
    · exact Option.some.inj (last.symm.trans told)
  · intro silent
    rcases d.lastMode_steps with ⟨-, absent⟩ | told
    · exact absent
    · rw [told] at silent
      cases silent
  all_goals
    rw [lastSet_steps d (fun _ _ => rfl) (fun _ => rfl), settingSteps]
    cases d.timeout <;> rfl

/-- A builder that has been told what a definition says has the draft of the definition, when both
have their selectors filled in. The two drafts agree part by part, since each part is as it has been
set last. Where nothing has been said of the mode, the builder has the one that the definition fills
in. -/
theorem filled_eq_of_givenBy (given : d.GivenBy told) :
    (({ service := d.service } : Draft).applyAll told).filled = d.toDraft.filled := by
  have heard := Draft.toldBy_applyAll d.service told
  obtain ⟨a, built⟩ : ∃ a, a = ({ service := d.service } : Draft).applyAll told := ⟨_, rfl⟩
  rw [← built] at heard ⊢
  have modes := heard.mode
  obtain ⟨mode, selector⟩ : a.mode = d.mode.getD booleanFlagMode ∧
      a.selector.getD d.service = d.selector.getD d.service := by
    cases set : Draft.lastSet Draft.Step.mode? told with
    | some names =>
      rw [set, given.mode names set] at modes
      obtain ⟨mode, selector⟩ := Prod.mk.inj modes
      exact ⟨mode, congrArg (·.getD d.service) selector⟩
    | none =>
      obtain ⟨noMode, noSelector⟩ := given.unset set
      rw [set] at modes
      obtain ⟨mode, selector⟩ := Prod.mk.inj modes
      rw [noMode, noSelector, mode, selector]
      exact ⟨rfl, rfl⟩
  have window : a.window = d.activation :=
    calc a.window = ⟨a.window.start, a.window.finish⟩ := rfl
      _ = ⟨d.activation.start, d.activation.finish⟩ := by
        rw [heard.start.trans given.start, heard.finish.trans given.finish]
  simp only [Draft.filled, toDraft, heard.service, mode, selector,
    heard.defaultKey.trans given.defaultKey, heard.trials.trans given.trials,
    heard.onError.trans given.onError, heard.timeout.trans given.timeout, window]

/-- Building the draft of a definition with its selector filled in makes no difference, since a
definition has no predicate. -/
theorem build_filled_toDraft (d : Definition) :
    d.toDraft.filled.build = Registration.ofDefinition d := by
  rw [Draft.build_filled, Registration.ofDefinition]
  cases built : d.toDraft.build with
  | error e => rfl
  | ok r =>
    obtain ⟨key, -, rfl⟩ := Draft.passes_of_build built
    rfl

/-- A builder that has been told what a definition says fails as the definition does, or builds the
same trial, but for a predicate that it has been given besides. Their drafts agree once their
selectors are filled in, and that does not change what is built. -/
theorem build_of_givenBy (given : d.GivenBy told) :
    ((({ service := d.service } : Draft).applyAll told).build.map fun r =>
      { r with predicate := none }) = Registration.ofDefinition d := by
  rw [← Draft.build_filled, filled_eq_of_givenBy given, build_filled_toDraft]

/-- What is built from a definition is what its draft describes. -/
theorem eq_of_ofDefinition {r : Registration} (built : Registration.ofDefinition d = .ok r) :
    r = d.toDraft.registration d.defaultKey := by
  obtain ⟨key, passes, rfl⟩ := Draft.passes_of_build built
  have byDefault := passes.byDefault
  have named : d.toDraft.defaultKey = some d.defaultKey := rfl
  simp only [Draft.checkDefault, named] at byDefault
  split at byDefault
  · cases byDefault
    rfl
  · cases byDefault

/-- Any number of milliseconds of a timeout is kept. -/
theorem definition_policy (t : TimeoutDefinition) : t.policy.definition = t := by
  simp only [TimeoutPolicy.definition, TimeoutDefinition.policy, Duration.millis_ofMillis]

/-- The definition that comes back from a trial is the normal form. The mode and the selector of a
trial are always set, and all else goes over and comes back as it was, a timeout of any number of
milliseconds included. -/
theorem toDefinition_eq_normal {r : Registration} (built : Registration.ofDefinition d = .ok r) :
    r.toDefinition = d.normal := by
  have timeout : (d.timeout.map (·.policy)).map (·.definition) = d.timeout := by
    cases d.timeout with
    | none => rfl
    | some t => exact congrArg some (definition_policy t)
  rw [eq_of_ofDefinition built]
  simp only [Registration.toDefinition, Draft.registration, toDraft, timeout, normal]

/-- The normal form builds what the definition does. What it fills in is what building would have
filled in. -/
theorem ofDefinition_normal (d : Definition) :
    Registration.ofDefinition d.normal = Registration.ofDefinition d := by
  have draft : d.normal.toDraft = d.toDraft.filled := rfl
  rw [← build_filled_toDraft d, ← draft]
  rfl

/-- Building a trial from a definition and taking its definition back is normalising. -/
structure Normalises (d : Definition) : Prop where
  /-- The definition tells a builder what it says. -/
  given : d.GivenBy d.steps
  /-- Any builder that has been told the same fails with an error exactly if the definition fails
  with it. -/
  error : ∀ told, d.GivenBy told → ∀ e,
    (({ service := d.service } : Draft).applyAll told).build = .error e ↔
      Registration.ofDefinition d = .error e
  /-- Otherwise both build the same trial, but for a predicate, which a definition does not have. -/
  built : ∀ told, d.GivenBy told → ∀ r,
    (({ service := d.service } : Draft).applyAll told).build = .ok r →
      Registration.ofDefinition d = .ok { r with predicate := none }
  /-- The trial gives back the definition with its mode and its selector filled in, and with
  every other member as it was. -/
  back : ∀ r, Registration.ofDefinition d = .ok r → r.toDefinition =
    { d with
      mode := some (d.mode.getD booleanFlagMode)
      selector := some (d.selector.getD d.service) }
  /-- From that definition the same trial is built again. -/
  again : ∀ r, Registration.ofDefinition d = .ok r →
    Registration.ofDefinition r.toDefinition = .ok r
  /-- The normal form fails as the definition does, or builds the same trial, -/
  same : Registration.ofDefinition d.normal = Registration.ofDefinition d
  /-- and it has nothing left to fill in. -/
  idempotent : d.normal.normal = d.normal

/-- Whichever of its mode and its selector a definition leaves out, and whether or not it describes
a trial, it means what a builder is told by it, and its trial gives its normal form back.

Proof: of each setting a builder keeps what it has been told last, so that whatever it is told that
comes to the same leads to the same draft. With the selectors filled in that draft is the
definition's own, and building does not see the difference. -/
theorem normalises (d : Definition) : d.Normalises where
  given := d.givenBy_steps
  error told given e := by
    have same := build_of_givenBy given
    rw [← same]
    cases (({ service := d.service } : Draft).applyAll told).build with
    | error e' => rfl
    | ok r => simp [Except.map]
  built told given r built := by
    have same := build_of_givenBy given
    rw [built] at same
    exact same.symm
  back r built := toDefinition_eq_normal built
  again r built := by
    rw [toDefinition_eq_normal built, ofDefinition_normal]
    exact built
  same := ofDefinition_normal d
  idempotent := rfl

/-- A definition that leaves its mode out. -/
def flagged : Definition where
  service := "greeter"
  selector := some "beta"
  defaultKey := "only"
  trials := [⟨"only", "good"⟩]
  timeout := some { millis := 18446744073709551615 }

/-- It gets the boolean-flag mode, and keeps its selector and its long timeout. -/
theorem selector_alone_gets_flag_mode :
    flagged.Normalises ∧ ∃ r, Registration.ofDefinition flagged = .ok r ∧ r.toDefinition =
      { flagged with mode := some "boolean-flag" } := by
  have normalises := flagged.normalises
  obtain ⟨r, built⟩ : ∃ r, Registration.ofDefinition flagged = .ok r := ⟨_, rfl⟩
  exact ⟨normalises, r, built, normalises.back r built⟩

end Definition

end TrialRouting
