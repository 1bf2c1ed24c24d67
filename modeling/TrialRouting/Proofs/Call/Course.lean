import TrialRouting.Proofs.Call.Cancellation

/-!
# The course of a call

What `Course.Keeps` says of a call that nobody cancels also holds of one that its caller
cancels, up to the moment it ends: a cancelled call does not go on, so whenever a call goes
on it has not been cancelled. The only thing a cancellation adds is an attempt that a call
had come to and that does not start.

A journey stands at a course with the attempts it knows of behind it, and perhaps with the
ending of the attempt it has come to. `Journey.OnCourse` says so for each phase, and steps
keep it whatever else happens.
-/

namespace TrialRouting

namespace Course.Keeps

variable {r : Registration} {call : Call} {primary : String} {made : List Leg} {leg : Leg}
  {c : Course}

/-- The attempts behind a course are the first that it knows of. What it knows of besides is the
attempt it has come to. -/
theorem keysOf_prefix (keeps : c.Keeps r call primary made) :
    keysOf made <+: c.progress.attempted :=
  ⟨_, keeps.attempted.symm⟩

/-- So are they with the attempt it has come to, once that has started. -/
theorem keysOf_concat_prefix (keeps : c.Keeps r call primary made)
    (context : leg.context = c.attemptContext) :
    keysOf (made ++ [leg]) <+: c.progress.attempted :=
  keeps.keysOf_concat context ▸ List.prefix_refl _

end Course.Keeps

namespace Leg

/-- The failure an attempt has come to, if it has ended and not with a value. -/
def failure? (r : Registration) (leg : Leg) : Option Failure :=
  match leg.ending with
  | some (.completed (.error f)) => some f
  | some .expired => r.timeout.map fun policy =>
      .routing (.timeout leg.context.key policy.duration.millis)
  | _ => none

end Leg

namespace Journey

/-- A journey stands at a course. The attempts before the one it has come to are behind it, and so
is that one, if it has started and is not in flight any more. -/
structure StandsAt (r : Registration) (j : Journey) (selection : Selection) (made : List Leg)
    (leg? : Option Leg) (c : Course) : Prop where
  selected : j.selection = some selection
  finished : j.finished = made ++ leg?.toList
  keeps : c.Keeps r j.call selection.key made
  context : ∀ leg, leg? = some leg → leg.context = c.attemptContext
  due : ∀ leg, leg? = some leg → leg.isExpired = true → c.deadline.isSome = true

/-- What holds of a journey in each phase, whoever cancels it. This is the invariant that ties the
attempts of a call to its fallback plan. -/
def OnCourse (r : Registration) (s : State) (j : Journey) : Prop :=
  match j.phase with
  | .arriving => j.selection = none ∧ j.finished = []
  | .selecting _ _ => j.selection = none ∧ j.finished = []
  | .selected selection => j.selection = some selection ∧ j.finished = []
  | .launching c => ∃ selection, j.StandsAt r selection j.finished none c
  | .attempting c attempt => ∃ selection, j.StandsAt r selection j.finished none c ∧
      attempt.invocation.context = c.attemptContext
  | .concluding c e => ∃ selection made leg?, j.StandsAt r selection made leg? c ∧
      ((∃ leg, leg? = some leg ∧ leg.ending = some e) ∨
        (leg? = none ∧ e = .completed (.error cancelledFailure) ∧
          s.isCancelled j.call.token = true))
  | .ended o =>
      (j.selection = none ∧ j.finished = [] ∧ o = .error cancelledFailure ∧
        s.isCancelled j.call.token = true) ∨
      ∃ selection made leg? c, j.StandsAt r selection made leg? c
  | .takenDown => (j.selection = none ∧ j.finished = []) ∨
      ∃ selection made leg c, j.StandsAt r selection made (some leg) c ∧ leg.ending = none

/-- A call that has just arrived, or waits for its key. -/
def AwaitsKey (j : Journey) : Prop :=
  j.phase = .arriving ∨ ∃ due opinion, j.phase = .selecting due opinion

/-- Such a call has neither a key nor an attempt behind it, and is not over. All it can do is to get
its key, or to be refused. -/
theorem OnCourse.keyless {r : Registration} {s : State} {j : Journey} (onCourse : j.OnCourse r s)
    (waiting : j.AwaitsKey) : j.selection = none ∧ j.finished = [] ∧ ¬ j.IsOver := by
  rcases waiting with phase | ⟨due, opinion, phase⟩
  · simp only [OnCourse, phase] at onCourse
    exact ⟨onCourse.1, onCourse.2, by simp [IsOver, phase]⟩
  · simp only [OnCourse, phase] at onCourse
    exact ⟨onCourse.1, onCourse.2, by simp [IsOver, phase]⟩

end Journey

namespace Router

variable {router : Router} {call : Call} {c : Course} {e : Ending} {s : State}

/-- A call that goes on after an attempt has not been cancelled. So every attempt but perhaps the
last ended while the call was free. -/
theorem free_of_conclude {next : Course} (goesOn : (router.conclude call c e s).2 = .inr next) :
    s.isCancelled call.token = false := by
  cases cancelled : s.isCancelled call.token with
  | false => rfl
  | true =>
    rcases ends_of_cancelled router c e cancelled with ended | ⟨v, -, ended⟩
    · cases goesOn.symm.trans ended
    · cases goesOn.symm.trans ended

end Router

namespace Journey

variable {router : Router} {r : Registration} {s s' : State} {j j' : Journey}

/-- Where a journey stands does not depend on its phase, but on its call, its selection and the
attempts behind it. -/
theorem StandsAt.onwards {selection : Selection} {made : List Leg} {leg? : Option Leg} {c : Course}
    (here : j.StandsAt r selection made leg? c) (selected : j'.selection = j.selection)
    (call : j'.call = j.call) (finished : j'.finished = j.finished) :
    j'.StandsAt r selection made leg? c :=
  ⟨selected.trans here.selected, finished.trans here.finished, call ▸ here.keeps, here.context,
    here.due⟩

/-- An attempt that has ended is behind the journey. The course is still the one it was started
on. -/
theorem StandsAt.arrives {selection : Selection} {c : Course} {leg : Leg}
    (here : j.StandsAt r selection j.finished none c) (selected : j'.selection = j.selection)
    (call : j'.call = j.call) (finished : j'.finished = j.finished ++ [leg])
    (context : leg.context = c.attemptContext)
    (due : leg.isExpired = true → c.deadline.isSome = true) :
    j'.StandsAt r selection j.finished (some leg) c := by
  refine ⟨selected.trans here.selected, finished, call ▸ here.keeps, ?_, ?_⟩
  · rintro _ ⟨⟩
    exact context
  · rintro _ ⟨⟩
    exact due

/-- A journey that goes on stands at the next course, with no attempt that is withheld. The attempt
that has ended is now one of those before it. -/
theorem StandsAt.next {selection : Selection} {made : List Leg} {leg : Leg} {c next : Course}
    {e : Ending} (here : j.StandsAt router.registration selection made (some leg) c)
    (ending : leg.ending = some e) (goesOn : (router.conclude j.call c e s).2 = .inr next)
    (selected : j'.selection = j.selection) (call : j'.call = j.call)
    (finished : j'.finished = j.finished) :
    j'.StandsAt router.registration selection j'.finished none next := by
  have keeps : next.Keeps router.registration j.call selection.key (made ++ [leg]) :=
    Router.keeps_of_conclude here.keeps (here.context leg rfl) ending
      (fun expired => here.due leg rfl ((Leg.isExpired_iff ending).mpr expired))
      (Router.free_of_conclude goesOn) goesOn
  refine ⟨selected.trans here.selected, (List.append_nil _).symm, ?_, ?_, ?_⟩
  · rw [finished, call, here.finished]
    exact keeps
  · exact fun _ impossible => by cases impossible
  · exact fun _ impossible => by cases impossible

/-- A course that is still ahead of its attempt has no ending of it to account for, and stands where
its plan does. -/
theorem standsAt_of_keeps {selection : Selection} {c : Course}
    (selected : j.selection = some selection) (keeps : c.Keeps r j.call selection.key j.finished) :
    j.StandsAt r selection j.finished none c :=
  ⟨selected, (List.append_nil _).symm, keeps, (fun _ impossible => nomatch impossible),
    (fun _ impossible => nomatch impossible)⟩

/-- What holds of a journey goes on to hold as the tokens grow. The only thing it says about tokens
is that one is cancelled, and that stays so. -/
theorem OnCourse.mono (onCourse : j.OnCourse r s) (grows : s.tokens.Grows s'.tokens) :
    j.OnCourse r s' := by
  have still : s.isCancelled j.call.token = true → s'.isCancelled j.call.token = true :=
    fun cancelled => grows.isCancelled cancelled
  unfold OnCourse at onCourse ⊢
  split at onCourse
  · exact onCourse
  · exact onCourse
  · exact onCourse
  · exact onCourse
  · exact onCourse
  · obtain ⟨selection, made, leg?, here, ended | ⟨none', ending, cancelled⟩⟩ := onCourse
    · exact ⟨selection, made, leg?, here, .inl ended⟩
    · exact ⟨selection, made, leg?, here, .inr ⟨none', ending, still cancelled⟩⟩
  · rcases onCourse with ⟨none', finished, o, cancelled⟩ | stands
    · exact .inl ⟨none', finished, o, still cancelled⟩
    · exact .inr stands
  · exact onCourse

/-- Steps keep a journey on its course. There is one case for each kind of step; at the end of an
attempt this is the step of the fallback plan. -/
theorem Step.onCourse (tokens : s.tokens.Sound) (sound : j.Sound s)
    (step : Step router s j s' j') (onCourse : j.OnCourse router.registration s) :
    j'.OnCourse router.registration s' := by
  have grows : s.tokens.Grows s'.tokens := (step.grows sound).1
  cases step with
  | refused phase answer =>
    simp only [OnCourse, phase] at onCourse
    have cancelled : s.isCancelled j.call.token = true := by
      cases known : s.isCancelled j.call.token with
      | true => rfl
      | false => simp [Router.receive, known] at answer
    simp only [Router.receive, cancelled, if_true, Prod.mk.injEq, Sum.inl.injEq] at answer
    exact .inl ⟨onCourse.1, onCourse.2, answer.2.symm, grows.isCancelled cancelled⟩
  | chosen phase answer =>
    simp only [OnCourse, phase] at onCourse
    exact ⟨rfl, onCourse.2⟩
  | asked phase answer =>
    simp only [OnCourse, phase] at onCourse
    exact onCourse
  | answered phase isDue =>
    simp only [OnCourse, phase] at onCourse
    exact ⟨rfl, onCourse.2⟩
  | embarked phase =>
    simp only [OnCourse, phase] at onCourse
    obtain ⟨selected, finished⟩ := onCourse
    refine ⟨_, standsAt_of_keeps selected ?_⟩
    simp only [finished]
    exact router.keeps_of_embark j.call _ s
  | withheld phase stopped launched =>
    simp only [OnCourse, phase] at onCourse
    obtain ⟨selection, here⟩ := onCourse
    have cancelled : s.isCancelled j.call.token = true := by
      rw [← j.call.isStopped_eq tokens, stopped]
    rw [Router.launch_of_stopped _ stopped, Prod.mk.injEq, Sum.inl.injEq] at launched
    obtain ⟨-, rfl⟩ := launched
    exact ⟨selection, j.finished, none, here.onwards rfl rfl rfl,
      .inr ⟨rfl, rfl, grows.isCancelled cancelled⟩⟩
  | @sped _ _ c e phase started launched =>
    simp only [OnCourse, phase] at onCourse
    obtain ⟨selection, here⟩ := onCourse
    refine ⟨selection, j.finished, some _, here.arrives rfl rfl rfl rfl ?_, .inl ⟨_, rfl, rfl⟩⟩
    intro expired
    obtain rfl : e = .expired := (Leg.isExpired_iff rfl).mp expired
    exact Router.deadline_of_launch launched
  | launched phase launched =>
    simp only [OnCourse, phase] at onCourse
    obtain ⟨selection, here⟩ := onCourse
    obtain ⟨-, trial, made, flight, -, rfl, -, -⟩ := Router.waits_of_launch launched
    exact ⟨selection, here.onwards rfl rfl rfl, rfl⟩
  | waited phase resumed =>
    simp only [OnCourse, phase] at onCourse
    obtain ⟨selection, here, context⟩ := onCourse
    obtain ⟨-, -, issued, -⟩ := sound.attempt _ _ phase
    obtain ⟨flight, rfl, -, -⟩ := Router.waits_of_resume issued resumed
    exact ⟨selection, here.onwards rfl rfl rfl, context⟩
  | @left _ _ c attempt e phase resumed =>
    simp only [OnCourse, phase] at onCourse
    obtain ⟨selection, here, context⟩ := onCourse
    refine ⟨selection, j.finished, some _, here.arrives rfl rfl rfl context ?_,
      .inl ⟨_, rfl, rfl⟩⟩
    intro expired
    obtain rfl : e = .expired := (Leg.isExpired_iff rfl).mp expired
    exact Router.deadline_of_resume resumed
  | concluded phase answer =>
    simp only [OnCourse, phase] at onCourse
    obtain ⟨selection, made, leg?, here, -⟩ := onCourse
    exact .inr ⟨selection, made, leg?, _, here.onwards rfl rfl rfl⟩
  | @fellBack _ _ c next e phase answer =>
    simp only [OnCourse, phase] at onCourse
    obtain ⟨selection, made, leg?, here, ended⟩ := onCourse
    have goesOn := congrArg Prod.snd answer
    rcases ended with ⟨leg, rfl, ending⟩ | ⟨-, -, cancelled⟩
    · exact ⟨selection, here.next ending goesOn rfl rfl rfl⟩
    · rw [Router.free_of_conclude goesOn] at cancelled
      cases cancelled
  | dropped phase =>
    simp only [OnCourse, phase] at onCourse
    exact .inl onCourse
  | droppedInFlight phase =>
    simp only [OnCourse, phase] at onCourse
    obtain ⟨selection, here, context⟩ := onCourse
    exact .inr ⟨selection, j.finished, _, _,
      here.arrives rfl rfl rfl context (fun impossible => by cases impossible), rfl⟩

/-- A call stays on its course, by induction on what becomes of it. -/
theorem Travels.onCourse (tokens : s.tokens.Sound) (sound : j.Sound s)
    (travels : Travels router s j s' j') (onCourse : j.OnCourse router.registration s) :
    j'.OnCourse router.registration s' := by
  induction travels with
  | stay => exact onCourse
  | step before last ih =>
    obtain ⟨grown, still⟩ := before.grows sound
    exact last.onCourse (grown.sound tokens) still ih
  | meanwhile before grows ih => exact ih.mono grows

end Journey

/-- Every call of a world is on its course. So whatever follows from a course holds however the
calls overlap. -/
theorem World.Becomes.onCourse {router : Router} {s : State} {w : World} {n : Nat} {j : Journey}
    (tokens : s.tokens.Sound) (becomes : Becomes router ⟨s, []⟩ w)
    (here : w.journeys[n]? = some j) : j.OnCourse router.registration w.state := by
  obtain ⟨s₀, call, first, caller, travels⟩ := becomes.origin tokens here
  have sound : Journey.Sound s₀ { call } := Journey.sound_of_idle caller (fun _ _ => by simp)
  exact travels.onCourse first sound ⟨rfl, rfl⟩

end TrialRouting
