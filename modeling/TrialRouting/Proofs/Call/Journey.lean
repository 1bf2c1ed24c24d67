import Mathlib.Logic.Relation
import TrialRouting.Router

/-!
# The journey of a call

A call is carried from one phase to the next by steps: it arrives, gets its key, starts
an attempt, the attempt waits or ends, and what has ended is followed by another attempt
or by the end of the call. A journey is a call with its phase and with the legs it has
behind it, one for each attempt that has started.

Between two steps anything may happen to the shared state, so steps are smaller than
what a router does in one turn. Starting a call, resuming it and taking it down are
sequences of steps; that is what ties the steps to the router.
-/

namespace TrialRouting

/-- An attempt of a call that has started, with what is known of it when it is over. -/
structure Leg where
  context : Context
  /-- The scope it opened; none if its key has no trial. -/
  scope : Option Nat
  /-- How it ended. Nothing while it waits, and for one that was taken down with its call. -/
  ending : Option Ending

/-- How far a call has come. -/
inductive Phase where
  | arriving
  /-- The selection mode takes its time. -/
  | selecting (due : Nat) (opinion : Opinion)
  | selected (selection : Selection)
  /-- The next attempt is about to start. -/
  | launching (course : Course)
  | attempting (course : Course) (attempt : Attempt)
  /-- An attempt has ended. -/
  | concluding (course : Course) (ending : Ending)
  | ended (outcome : Outcome)
  /-- The call was taken down before it had an outcome. -/
  | takenDown

/-- Where a turn leaves a call. A turn runs until the call waits or is done, so that the phases in
between are not seen. -/
def Phase.ofTurn : TrialRouting.Step Stage Outcome → Phase
  | .running (.selecting due opinion) => .selecting due opinion
  | .running (.attempting course attempt) => .attempting course attempt
  | .finished o => .ended o

/-- A call on its way. -/
structure Journey where
  call : Call
  phase : Phase := .arriving
  /-- The selection, once the call has one. -/
  selection : Option Selection := none
  /-- The attempts that are behind it, in order. -/
  finished : List Leg := []

/-- Whether the next attempt of a call would find its token cancelled. The token is below the one of
the call, so this is asked before anything else is done. -/
def Call.isStopped (call : Call) (s : State) : Bool :=
  s.issueToken.isCancelled (s.tokens.nextChild call.token)

/-- The scope an attempt on a key opens: the next one, if the key has a trial. -/
def Router.scopeFor (router : Router) (key : String) (s : State) : Option Nat :=
  (router.registration.trial? key).map fun _ => s.catalog.nextScope

namespace Attempt

/-- The leg of an attempt. -/
def leg (attempt : Attempt) (ending : Option Ending) : Leg :=
  ⟨attempt.invocation.context, some attempt.scope, ending⟩

end Attempt

namespace Journey

/-- The attempt in flight. -/
def underway (j : Journey) : List Leg :=
  match j.phase with
  | .attempting _ attempt => [attempt.leg none]
  | _ => []

/-- The attempts that have started, in order. -/
def legs (j : Journey) : List Leg :=
  j.finished ++ j.underway

/-- Whether nothing more becomes of the call. -/
def IsOver (j : Journey) : Prop :=
  (∃ o, j.phase = .ended o) ∨ j.phase = .takenDown

/-- One step of a call. Each of them is a piece of the router's code between two points at which
something else may happen. -/
inductive Step (router : Router) : State → Journey → State → Journey → Prop where
  | refused {s s' : State} {j : Journey} {o : Outcome} (phase : j.phase = .arriving)
      (answer : router.receive j.call s = (s', .inl o)) :
      Step router s j s' { j with phase := .ended o }
  | chosen {s s' : State} {j : Journey} {selection : Selection} (phase : j.phase = .arriving)
      (answer : router.receive j.call s = (s', .inr (.settled selection))) :
      Step router s j s' { j with phase := .selected selection, selection := some selection }
  | asked {s s' : State} {j : Journey} {due : Nat} {opinion : Opinion}
      (phase : j.phase = .arriving)
      (answer : router.receive j.call s = (s', .inr (.waiting due opinion))) :
      Step router s j s' { j with phase := .selecting due opinion }
  | answered {s : State} {j : Journey} {due : Nat} {opinion : Opinion}
      (phase : j.phase = .selecting due opinion) (isDue : due ≤ s.now) :
      Step router s j (s.settle router.registration opinion).1
        { j with
          phase := .selected (s.settle router.registration opinion).2
          selection := some (s.settle router.registration opinion).2 }
  | embarked {s : State} {j : Journey} {selection : Selection}
      (phase : j.phase = .selected selection) :
      Step router s j (router.embark j.call selection s).1
        { j with phase := .launching (router.embark j.call selection s).2 }
  /-- The next attempt does not start, since its token is cancelled. -/
  | withheld {s s' : State} {j : Journey} {course : Course} {ending : Ending}
      (phase : j.phase = .launching course) (stopped : j.call.isStopped s = true)
      (launched : router.launch j.call course s = (s', .inl ending)) :
      Step router s j s' { j with phase := .concluding course ending }
  /-- An attempt starts and ends without waiting. -/
  | sped {s s' : State} {j : Journey} {course : Course} {ending : Ending}
      (phase : j.phase = .launching course) (free : j.call.isStopped s = false)
      (launched : router.launch j.call course s = (s', .inl ending)) :
      Step router s j s'
        { j with
          phase := .concluding course ending
          finished := j.finished ++ [⟨course.attemptContext,
            router.scopeFor course.progress.current s, some ending⟩] }
  | launched {s s' : State} {j : Journey} {course : Course} {attempt : Attempt}
      (phase : j.phase = .launching course)
      (launched : router.launch j.call course s = (s', .inr attempt)) :
      Step router s j s' { j with phase := .attempting course attempt }
  | waited {s s' : State} {j : Journey} {course : Course} {attempt rest : Attempt}
      (phase : j.phase = .attempting course attempt)
      (resumed : Router.resumeAttempt course attempt s = (s', .inr rest)) :
      Step router s j s' { j with phase := .attempting course rest }
  | left {s s' : State} {j : Journey} {course : Course} {attempt : Attempt} {ending : Ending}
      (phase : j.phase = .attempting course attempt)
      (resumed : Router.resumeAttempt course attempt s = (s', .inl ending)) :
      Step router s j s'
        { j with
          phase := .concluding course ending
          finished := j.finished ++ [attempt.leg (some ending)] }
  | concluded {s s' : State} {j : Journey} {course : Course} {ending : Ending} {o : Outcome}
      (phase : j.phase = .concluding course ending)
      (answer : router.conclude j.call course ending s = (s', .inl o)) :
      Step router s j s' { j with phase := .ended o }
  | fellBack {s s' : State} {j : Journey} {course next : Course} {ending : Ending}
      (phase : j.phase = .concluding course ending)
      (answer : router.conclude j.call course ending s = (s', .inr next)) :
      Step router s j s' { j with phase := .launching next }
  /-- The call is taken down while it waits for its key. -/
  | dropped {s : State} {j : Journey} {due : Nat} {opinion : Opinion}
      (phase : j.phase = .selecting due opinion) :
      Step router s j (router.abandon (.selecting due opinion) s) { j with phase := .takenDown }
  /-- The call is taken down with its attempt. -/
  | droppedInFlight {s : State} {j : Journey} {course : Course} {attempt : Attempt}
      (phase : j.phase = .attempting course attempt) :
      Step router s j (router.abandon (.attempting course attempt) s)
        { j with phase := .takenDown, finished := j.finished ++ [attempt.leg none] }

/-- The step a call takes by itself: the only one there is, short of taking it down. -/
def advance (router : Router) (s : State) (j : Journey) : State × Journey :=
  match j.phase with
  | .arriving =>
      match router.receive j.call s with
      | (s, .inl o) => (s, { j with phase := .ended o })
      | (s, .inr (.settled selection)) =>
          (s, { j with phase := .selected selection, selection := some selection })
      | (s, .inr (.waiting due opinion)) => (s, { j with phase := .selecting due opinion })
  | .selecting due opinion =>
      if due ≤ s.now then
        let settled := s.settle router.registration opinion
        (settled.1, { j with phase := .selected settled.2, selection := some settled.2 })
      else (s, j)
  | .selected selection =>
      let embarked := router.embark j.call selection s
      (embarked.1, { j with phase := .launching embarked.2 })
  | .launching course =>
      match router.launch j.call course s with
      | (s', .inl ending) =>
          if j.call.isStopped s then (s', { j with phase := .concluding course ending })
          else (s', { j with
            phase := .concluding course ending
            finished := j.finished ++ [⟨course.attemptContext,
              router.scopeFor course.progress.current s, some ending⟩] })
      | (s', .inr attempt) => (s', { j with phase := .attempting course attempt })
  | .attempting course attempt =>
      match Router.resumeAttempt course attempt s with
      | (s, .inl ending) => (s, { j with
          phase := .concluding course ending
          finished := j.finished ++ [attempt.leg (some ending)] })
      | (s, .inr rest) => (s, { j with phase := .attempting course rest })
  | .concluding course ending =>
      match router.conclude j.call course ending s with
      | (s, .inl o) => (s, { j with phase := .ended o })
      | (s, .inr next) => (s, { j with phase := .launching next })
  | .ended _ => (s, j)
  | .takenDown => (s, j)

/-- A sequence of steps of one call, with nothing in between. -/
abbrev Steps (router : Router) : State × Journey → State × Journey → Prop :=
  Relation.ReflTransGen fun a b => Step router a.1 a.2 b.1 b.2

/-- A journey is led by steps to where a turn has left its call. So what holds along steps holds
along turns. -/
def LeadsTo (router : Router) (s : State) (j : Journey)
    (turn : State × TrialRouting.Step Stage Outcome) : Prop :=
  ∃ j', Steps router (s, j) (turn.1, j') ∧ j'.call = j.call ∧ j'.phase = .ofTurn turn.2

variable {router : Router} {s s' : State} {j j' : Journey}

/-- What a call does by itself is a step, unless it stays where it is: it is over, or waits for its
mode. -/
theorem advance_eq_or_step (router : Router) (s : State) (j : Journey) :
    advance router s j = (s, j) ∨
      Step router s j (advance router s j).1 (advance router s j).2 := by
  unfold advance
  split
  next phase =>
    split
    · next answer => exact .inr (.refused phase answer)
    · next answer => exact .inr (.chosen phase answer)
    · next answer => exact .inr (.asked phase answer)
  next phase =>
    split
    · next isDue => exact .inr (.answered phase isDue)
    · exact .inl rfl
  next phase => exact .inr (.embarked phase)
  next phase =>
    split
    · next launched =>
      split
      · next stopped => exact .inr (.withheld phase stopped launched)
      · next free => exact .inr (.sped phase (Bool.not_eq_true _ ▸ free) launched)
    · next launched => exact .inr (.launched phase launched)
  next phase =>
    split
    · next resumed => exact .inr (.left phase resumed)
    · next resumed => exact .inr (.waited phase resumed)
  next phase =>
    split
    · next answer => exact .inr (.concluded phase answer)
    · next answer => exact .inr (.fellBack phase answer)
  next => exact .inl rfl
  next => exact .inl rfl

/-- A step keeps the call. -/
theorem Step.call_eq (step : Step router s j s' j') : j'.call = j.call := by
  cases step <;> rfl

/-- What a step leads up to. A turn begins with a step, and the rest of it leads on from there. -/
theorem LeadsTo.after {turn : State × TrialRouting.Step Stage Outcome}
    (step : Step router s j s' j') (rest : LeadsTo router s' j' turn) :
    LeadsTo router s j turn := by
  obtain ⟨end', steps, call, phase⟩ := rest
  exact ⟨end', .head step steps, call.trans step.call_eq, phase⟩

/-- A last step. -/
theorem leadsTo_of_step {turn : State × TrialRouting.Step Stage Outcome}
    (step : Step router s j turn.1 j') (phase : j'.phase = .ofTurn turn.2) :
    LeadsTo router s j turn :=
  ⟨j', .single step, step.call_eq, phase⟩

/-- The launch of an attempt that ends without waiting leads on to its conclusion. The leg it has
made is behind it then. -/
theorem leadsTo_of_ending {turn : State × TrialRouting.Step Stage Outcome} {course : Course}
    {ending : Ending} (phase : j.phase = .launching course)
    (launched : router.launch j.call course s = (s', .inl ending))
    (rest : ∀ j' : Journey, j'.call = j.call → j'.phase = .concluding course ending →
      LeadsTo router s' j' turn) : LeadsTo router s j turn := by
  cases stopped : j.call.isStopped s with
  | true => exact .after (.withheld phase stopped launched) (rest _ rfl rfl)
  | false => exact .after (.sped phase stopped launched) (rest _ rfl rfl)

/-- Pursuing a call after an attempt has ended is a sequence of steps. The induction follows
`pursue`, which concludes an attempt and launches the next one until one of them waits or the call
is done. -/
theorem pursue_leads {call : Call} {course : Course} {ending : Ending} (same : j.call = call)
    (phase : j.phase = .concluding course ending) :
    LeadsTo router s j (router.pursue call course ending s) := by
  fun_induction Router.pursue router call course ending s generalizing j with
  | case1 course ending s s₁ o answer =>
    subst same
    exact leadsTo_of_step (.concluded phase answer) rfl
  | case2 course ending s s₁ next answer s₂ ending' launched ih =>
    subst same
    refine .after (.fellBack phase answer) ?_
    exact leadsTo_of_ending rfl launched fun j' call phase => ih call phase
  | case3 course ending s s₁ next answer s₂ attempt launched =>
    subst same
    refine .after (.fellBack phase answer) ?_
    exact leadsTo_of_step (.launched rfl launched) rfl

/-- A selected call follows its selection in steps: it sets out, launches the first attempt and goes
on from there. -/
theorem follow_leads {selection : Selection} (phase : j.phase = .selected selection) :
    LeadsTo router s j (router.follow j.call selection s) := by
  refine .after (.embarked phase) ?_
  unfold Router.follow
  split
  next s₁ course embarked =>
    simp only [embarked]
    split
    next s₂ ending launched =>
      exact leadsTo_of_ending rfl launched fun j' call phase => pursue_leads call phase
    next s₂ attempt launched => exact leadsTo_of_step (.launched rfl launched) rfl

/-- Starting a call is a sequence of steps. It is refused, waits for its mode, or has a selection
and follows it. -/
theorem start_leads (phase : j.phase = .arriving) :
    LeadsTo router s j (router.start j.call s) := by
  unfold Router.start
  split
  next s₁ o answer => exact leadsTo_of_step (.refused phase answer) rfl
  next s₁ selection answer => exact .after (.chosen phase answer) (follow_leads rfl)
  next s₁ due opinion answer => exact leadsTo_of_step (.asked phase answer) rfl

/-- Resuming a call is a sequence of steps, from whatever it was waiting for. -/
theorem resume_leads {stage : Stage} (phase : j.phase = .ofTurn (.running stage)) :
    LeadsTo router s j (router.resume j.call stage s) := by
  cases stage with
  | selecting due opinion =>
    simp only [Router.resume]
    split
    · next isDue => exact .after (.answered phase isDue) (follow_leads rfl)
    · exact ⟨j, .refl, rfl, phase⟩
  | attempting course attempt =>
    simp only [Router.resume]
    split
    · next s₁ ending resumed => exact .after (.left phase resumed) (pursue_leads rfl rfl)
    · next s₁ rest resumed => exact leadsTo_of_step (.waited phase resumed) rfl

/-- Taking a call down is a step. What it was in the middle of is given back, and it has no
outcome. -/
theorem abandon_step {stage : Stage} (phase : j.phase = .ofTurn (.running stage)) :
    ∃ j', Step router s j (router.abandon stage s) j' ∧ j'.call = j.call ∧
      j'.phase = .takenDown := by
  cases stage with
  | selecting due opinion => exact ⟨_, .dropped phase, rfl, rfl⟩
  | attempting course attempt => exact ⟨_, .droppedInFlight phase, rfl, rfl⟩

end Journey

end TrialRouting
