import TrialRouting.Fallback
import TrialRouting.Registration.Draft
import TrialRouting.Selection.Asking

/-!
# The keys of a trial

Every key that routing can come to is a trial key. A draft that is built has been checked
for it: the default key, the keys of the error policy and the key of the timeout action
are keys of trials. A selection names a trial key or falls back on the default key. So
each attempt of a call finds its trial.
-/

namespace TrialRouting

/-- The keys an error policy names for a trial, in the order in which they are tried. -/
def OnError.plan (r : Registration) : OnError → List String
  | .throw => []
  | .redirectToDefault => [r.defaultKey]
  | .redirectToAny => r.keys
  | .redirectToSpecific key => [key]
  | .redirectOrdered keys => keys

/-- The keys a timeout action names for a trial. -/
def TimeoutAction.plan (r : Registration) : TimeoutAction → List String
  | .throw => []
  | .fallbackToDefault => [r.defaultKey]
  | .fallbackToSpecific key => [key]

namespace Registration

/-- Everything a trial names is one of its keys. -/
structure Valid (r : Registration) : Prop where
  byDefault : r.defaultKey ∈ r.keys
  afterError : ∀ key ∈ r.onError.plan r, key ∈ r.keys
  afterTimeout : ∀ policy, r.timeout = some policy →
    ∀ key ∈ policy.action.plan r, key ∈ r.keys

/-- Each key of a trial has its entry there: the keys are read off the entries, so that looking for
one of them cannot come to nothing. -/
theorem exists_trial (r : Registration) {key : String} (member : key ∈ r.keys) :
    ∃ trial, r.trial? key = some trial := by
  obtain ⟨trial, listed, rfl⟩ := List.mem_map.mp member
  refine Option.isSome_iff_exists.mp ?_
  rw [trial?, List.find?_isSome]
  exact ⟨trial, listed, beq_self_eq_true _⟩

end Registration

namespace Draft

/-- The trial that a draft describes if its default key is the given one. -/
def registration (d : Draft) (key : String) : Registration where
  service := d.service
  mode := d.mode
  selector := d.selector.getD d.service
  defaultKey := key
  trials := d.trials
  onError := d.onError
  timeout := d.timeout
  window := d.window
  predicate := d.predicate

/-- A draft passes all checks, with a default key. -/
structure Passes (d : Draft) (key : String) : Prop where
  trials : d.checkTrials = .ok ()
  byDefault : d.checkDefault = .ok key
  onError : d.checkOnError = .ok ()
  timeout : d.checkTimeout = .ok ()
  window : d.checkWindow = .ok ()

/-- A draft that passes all checks is built. -/
theorem build_of_passes {d : Draft} {key : String} (passes : d.Passes key) :
    d.build = .ok (d.registration key) := by
  simp only [build, passes.trials, passes.byDefault, passes.onError, passes.timeout,
    passes.window, bind, Except.bind, pure, Except.pure, registration]

/-- A draft that is built passes all checks, and it describes what is built. Building stops at the
first check that fails; so the proof goes through the checks in order, and in each place only the
check that passes leaves a registration. -/
theorem passes_of_build {d : Draft} {r : Registration} (built : d.build = .ok r) :
    ∃ key, d.Passes key ∧ r = d.registration key := by
  simp only [build, bind, Except.bind, pure, Except.pure] at built
  cases trials : d.checkTrials with
  | error e => simp [trials] at built
  | ok _ =>
    cases byDefault : d.checkDefault with
    | error e => simp [trials, byDefault] at built
    | ok key =>
      cases onError : d.checkOnError with
      | error e => simp [trials, byDefault, onError] at built
      | ok _ =>
        cases timeout : d.checkTimeout with
        | error e => simp [trials, byDefault, onError, timeout] at built
        | ok _ =>
          cases window : d.checkWindow with
          | error e => simp [trials, byDefault, onError, timeout, window] at built
          | ok _ =>
            simp only [trials, byDefault, onError, timeout, window, Except.ok.injEq] at built
            exact ⟨key, ⟨trials, byDefault, onError, timeout, window⟩, built.symm⟩

/-- A draft that is built has passed its checks, and the trial is what it says. -/
theorem checked_of_build {d : Draft} {r : Registration} (built : d.build = .ok r) :
    (∃ key, d.checkDefault = .ok key ∧ r.defaultKey = key) ∧ d.checkOnError = .ok () ∧
      d.checkTimeout = .ok () ∧ r.trials = d.trials ∧ r.onError = d.onError ∧
        r.timeout = d.timeout := by
  obtain ⟨key, passes, rfl⟩ := passes_of_build built
  exact ⟨⟨key, passes.byDefault, rfl⟩, passes.onError, passes.timeout, rfl, rfl, rfl⟩

/-- The default key that passes its check is a key of the draft. -/
theorem mem_of_checkDefault {d : Draft} {key : String} (checked : d.checkDefault = .ok key) :
    key ∈ d.keys := by
  unfold checkDefault at checked
  split at checked
  · cases checked
  · split at checked
    · next listed =>
      cases checked
      exact List.contains_iff_mem.mp listed
    · cases checked

/-- An error policy that passes its check names keys of the draft. The check itself only looks at
the keys that the policy spells out; those of a redirection to the default or to any trial are taken
from the trial, and are its keys anyway. -/
theorem mem_of_checkOnError {d : Draft} {r : Registration} (checked : d.checkOnError = .ok ())
    (byDefault : r.defaultKey ∈ d.keys) (same : r.keys = d.keys) :
    ∀ key ∈ d.onError.plan r, key ∈ d.keys := by
  unfold checkOnError at checked
  cases policy : d.onError with
  | throw => exact fun _ impossible => absurd impossible List.not_mem_nil
  | redirectToDefault => exact fun _ member => List.mem_singleton.mp member ▸ byDefault
  | redirectToAny => exact fun _ member => same ▸ member
  | redirectToSpecific key =>
    simp only [policy] at checked
    split at checked
    · next listed => exact fun _ member =>
        List.mem_singleton.mp member ▸ List.contains_iff_mem.mp listed
    · cases checked
  | redirectOrdered keys =>
    cases keys with
    | nil => exact fun _ impossible => absurd impossible List.not_mem_nil
    | cons first rest =>
      simp only [policy] at checked
      split at checked
      · cases checked
      · next unlisted =>
        intro key member
        have listed := List.find?_eq_none.mp unlisted key member
        simpa using listed

/-- A timeout that passes its check has an action that names keys of the draft. Only a fallback to a
specific key is looked up; the default key is known from its own check. -/
theorem mem_of_checkTimeout {d : Draft} {r : Registration} {policy : TimeoutPolicy}
    (checked : d.checkTimeout = .ok ()) (set : d.timeout = some policy)
    (byDefault : r.defaultKey ∈ d.keys) :
    ∀ key ∈ policy.action.plan r, key ∈ d.keys := by
  simp only [checkTimeout, set] at checked
  split at checked
  · cases checked
  · cases action : policy.action with
    | throw => exact fun _ impossible => absurd impossible List.not_mem_nil
    | fallbackToDefault => exact fun _ member => List.mem_singleton.mp member ▸ byDefault
    | fallbackToSpecific key =>
      simp only [action] at checked
      split at checked
      · next listed => exact fun _ member =>
          List.mem_singleton.mp member ▸ List.contains_iff_mem.mp listed
      · cases checked

/-- A draft that is built names only its trials' keys. This is what routing rests on: whichever way
a call comes to a key, by default, after an error or after a missed deadline, there is a trial for
it. -/
theorem valid_of_build {d : Draft} {r : Registration} (built : d.build = .ok r) : r.Valid := by
  obtain ⟨⟨key, default, chosen⟩, onError, timeout, trials, policy, bound⟩ :=
    checked_of_build built
  have same : r.keys = d.keys := by rw [Registration.keys, trials, keys]
  have byDefault : r.defaultKey ∈ d.keys := chosen ▸ mem_of_checkDefault default
  refine ⟨same ▸ byDefault, ?_, ?_⟩
  · rw [policy, same]
    exact mem_of_checkOnError onError byDefault same
  · intro policy set
    rw [same]
    exact mem_of_checkTimeout timeout (bound ▸ set) byDefault

end Draft

/-! ### Selections -/

namespace Registration.Valid

variable {r : Registration}

/-- Whatever a mode's opinion is, the selected key is a trial key. An opinion that names a key of no
trial, like no opinion at all, is passed over for the default key, which is one. -/
theorem key_ofOpinion_mem (valid : r.Valid) (opinion : Opinion) :
    (Selection.ofOpinion r opinion).key ∈ r.keys := by
  cases opinion with
  | error e => exact valid.byDefault
  | ok answer =>
    cases answer with
    | none => exact valid.byDefault
    | some key =>
      simp only [Selection.ofOpinion]
      split
      · next listed => exact List.contains_iff_mem.mp listed
      · exact valid.byDefault

/-- A selection that needs no waiting is of a trial key. It is the default key of a trial that is
not active or whose mode is not registered, or it goes by the opinion of the mode. -/
theorem key_choose_mem (valid : r.Valid) {s : State} {method : String} {selection : Selection}
    (chosen : (s.choose r method).2 = .settled selection) : selection.key ∈ r.keys := by
  simp only [State.choose] at chosen
  split at chosen
  · cases chosen
    exact valid.byDefault
  · simp only [State.ask] at chosen
    split at chosen
    · cases chosen
      exact valid.byDefault
    · split at chosen
      · cases chosen
        exact valid.key_ofOpinion_mem _
      · cases chosen

end Registration.Valid

end TrialRouting
