import TrialRouting.Proofs.Attempt.Teardown
import TrialRouting.Proofs.Scopes
import TrialRouting.Proofs.Call.Route

/-!
# Cancelled calls

Once its caller has cancelled a call, no further attempt of it starts. A call that has not
been dispatched touches nothing. A call that waits for its key opens no scope, and a call in
an attempt takes that attempt down; both end as cancelled, whatever the attempt would have
come to. Only an attempt that had ended with a value before still decides the call.

Each lemma looks at one way a call may go on and shows that the cancellation cuts it off;
`World.cancellation_is_final` follows the call through everything else that happens.
-/

namespace TrialRouting

/-- No attempt has had a part in what happened: scopes, circuits and permits are as they
were, no work has got a token, and no line of the journal is an attempt's. -/
structure State.Unattempted (s s' : State) : Prop where
  handedOut : s'.handedOut = s.handedOut
  circuits : s'.circuits = s.circuits
  limiters : s'.limiters = s.limiters
  catalog : s'.catalog = s.catalog
  journal : ∃ lines, s'.journal = s.journal ++ lines ∧ ∀ n ∈ lines, n.IsAside

/-- What goes on besides attempts is no attempt, nor is issuing a token in between. -/
theorem State.unattempted_of_asides {s s₁ s' : State} (first : s.Aside s₁)
    (rest : s₁.issueToken.Aside s') : s.Unattempted s' := by
  have whole : { s with tokens := s₁.issueToken.tokens }.Aside s' := by
    have issued : { s with tokens := s₁.issueToken.tokens }.Aside s₁.issueToken :=
      ⟨first.now, rfl, first.handedOut, first.circuits, first.limiters, first.catalog,
        first.journal⟩
    exact issued.trans rest
  exact ⟨whole.handedOut, whole.circuits, whole.limiters, whole.catalog, whole.journal⟩

/-- An attempt has let go of everything it held: its scope is not open any more, its permits
are back, and the circuits that had admitted it as their probe admit another. No circuit has
counted it, and nothing has been started. -/
structure Attempt.LetsGo (attempt : Attempt) (s s' : State) : Prop where
  catalog : s'.catalog = s.catalog.dispose attempt.scope
  closed : s'.catalog.flags[attempt.scope]? ≠ some false
  handedOut : s'.handedOut = s.handedOut
  limiters : ∀ slot, s'.limiters[slot]? = Option.map
    (fun l : Limiter => l.giveBackAll (attempt.flight.permits slot)) s.limiters[slot]?
  breakers : ∀ slot, (s'.circuitsAt slot).breaker attempt.invocation.context.key =
    ((s.circuitsAt slot).breaker attempt.invocation.context.key).vacate
      (attempt.flight.probes slot)
  others : ∀ slot key, key ≠ attempt.invocation.context.key →
    (s'.circuitsAt slot).breaker key = (s.circuitsAt slot).breaker key

namespace Router

variable {router : Router} {call : Call} {course : Course} {s : State}

/-- A cancelled call is concluded as cancelled, unless its attempt has ended with a value. The
fallback plan is not asked. -/
theorem conclude_of_cancelled (router : Router) (course : Course) {ending : Ending}
    (cancelled : s.isCancelled call.token = true) (failed : ∀ v, ending ≠ .completed (.ok v)) :
    (router.conclude call course ending s).2 = .inl (.error cancelledFailure) := by
  have still : (noteExpiry course ending s).isCancelled call.token = true :=
    ((aside_noteExpiry course ending s).isCancelled call.token).trans cancelled
  cases ending with
  | completed o =>
    cases o with
    | ok v => exact absurd rfl (failed v)
    | error f => simp only [conclude, verdict?, isFailure, still, Bool.and_self, if_true]
  | expired =>
    cases deadline : course.deadline with
    | none => simp only [conclude, verdict?, deadline]
    | some bounds =>
      simp only [conclude, verdict?, deadline, isFailure, still, Bool.and_self, if_true]

/-- A call whose attempt has ended with a value is concluded with that value, cancelled or not. The
value had been there before anybody looked at the token. -/
theorem conclude_of_value (router : Router) (call : Call) (course : Course) (s : State)
    (v : Value) :
    (router.conclude call course (.completed (.ok v)) s).2 = .inl (.ok v) := by
  simp only [conclude, verdict?, isFailure, Bool.false_and, Bool.false_eq_true, if_false,
    Progress.advance]

/-- A cancelled call does not go on after an attempt: it ends as cancelled, or with the value its
attempt has ended with. These are all the ways in which it can end. -/
theorem ends_of_cancelled (router : Router) (course : Course) (ending : Ending)
    (cancelled : s.isCancelled call.token = true) :
    (router.conclude call course ending s).2 = .inl (.error cancelledFailure) ∨
      ∃ v, ending = .completed (.ok v) ∧
        (router.conclude call course ending s).2 = .inl (.ok v) := by
  by_cases value : ∃ v, ending = .completed (.ok v)
  · obtain ⟨v, rfl⟩ := value
    exact .inr ⟨v, rfl, conclude_of_value router call course s v⟩
  · exact .inl (conclude_of_cancelled router course cancelled fun v same => value ⟨v, same⟩)

/-- Pursuing a cancelled call ends it, whatever its attempt has failed with, and nothing else
happens. -/
theorem pursue_of_cancelled (router : Router) (call : Call) (course : Course) (ending : Ending)
    (s : State) (cancelled : s.isCancelled call.token = true)
    (failed : ∀ v, ending ≠ .completed (.ok v)) :
    ∃ s', router.pursue call course ending s = (s', .finished (.error cancelledFailure)) ∧
      s.Aside s' := by
  have ends := conclude_of_cancelled router course cancelled failed
  obtain ⟨s', answer⟩ : ∃ s', router.conclude call course ending s =
      (s', .inl (.error cancelledFailure)) := ⟨_, Prod.ext rfl ends⟩
  refine ⟨s', ?_, router.aside_conclude answer⟩
  rw [pursue, answer]

/-- A cancelled call is refused: a line of the trace is all that is left of it. -/
theorem start_of_cancelled (cancelled : s.isCancelled call.token = true) :
    router.start call s = (s.emit none ⟨.debug, "cancelled before dispatch",
      [Trace.text "service" router.registration.service, Trace.text "method" call.method]⟩,
      .finished (.error cancelledFailure)) := by
  simp only [start, receive, cancelled, if_true]

/-- A cancelled call that has just got its key opens no scope. A token is issued for its attempt,
which finds it cancelled at once. -/
theorem follow_of_cancelled (router : Router) (selection : Selection) (tokens : s.tokens.Sound)
    (cancelled : s.isCancelled call.token = true) :
    ∃ s', router.follow call selection s = (s', .finished (.error cancelledFailure)) ∧
      ∃ s₁, s.Aside s₁ ∧ s₁.issueToken.Aside s' := by
  obtain ⟨s₁, course, embarked⟩ : ∃ s₁ course, router.embark call selection s = (s₁, course) :=
    ⟨_, _, rfl⟩
  have aside : s.Aside s₁ := by
    have told := router.aside_embark call selection s
    rwa [embarked] at told
  have still : s₁.isCancelled call.token = true :=
    (aside.isCancelled call.token).trans cancelled
  have stopped : call.isStopped s₁ = true := by
    rw [call.isStopped_eq (aside.tokens ▸ tokens), still]
  obtain ⟨s', pursued, rest⟩ := pursue_of_cancelled router call course
    (.completed (.error cancelledFailure)) s₁.issueToken still (fun v => by simp)
  refine ⟨s', ?_, s₁, aside, rest⟩
  simp only [follow, embarked, launch_of_stopped course stopped, pursued]

/-- An attempt whose token is cancelled is taken down, and its scope disposed. What it was waiting
for is not looked at any more. -/
theorem resumeAttempt_of_cancelled {attempt : Attempt}
    (cancelled : s.isCancelled attempt.token = true) :
    resumeAttempt course attempt s =
      ((attempt.invocation.abandon attempt.flight s).dropGuard (.holding attempt.scope),
        .inl (.completed (.error cancelledFailure))) := by
  simp only [resumeAttempt, cancelled, if_true]

/-- A cancelled call that has waited for its key ends when it has it, and has attempted nothing. -/
theorem resume_selecting_of_cancelled {due : Nat} (opinion : Opinion) (tokens : s.tokens.Sound)
    (cancelled : s.isCancelled call.token = true) (isDue : due ≤ s.now) :
    ∃ s', router.resume call (.selecting due opinion) s =
      (s', .finished (.error cancelledFailure)) ∧ s.Unattempted s' := by
  have settled := State.aside_settle s router.registration opinion
  have still : (s.settle router.registration opinion).1.isCancelled call.token = true :=
    (settled.isCancelled call.token).trans cancelled
  obtain ⟨s', followed, s₁, embarked, rest⟩ := follow_of_cancelled router
    (s.settle router.registration opinion).2 (settled.tokens ▸ tokens) still
  refine ⟨s', ?_, State.unattempted_of_asides (settled.trans embarked) rest⟩
  simp only [resume, isDue, if_true, followed]

/-- A cancelled call in an attempt ends when it gets its next turn, and the attempt lets go of
everything: its scope, its permits, and the places of its probes. -/
theorem resume_attempting_of_cancelled {attempt : Attempt}
    (child : attempt.token.IsChildOf call.token) (cancelled : s.isCancelled call.token = true) :
    ∃ s', router.resume call (.attempting course attempt) s =
      (s', .finished (.error cancelledFailure)) ∧ attempt.LetsGo s s' := by
  have taken : s.isCancelled attempt.token = true :=
    s.tokens.isCancelled_of_child child cancelled
  have back := attempt.invocation.givenBack_abandon attempt.flight s
  have still : ((attempt.invocation.abandon attempt.flight s).dropGuard
      (.holding attempt.scope)).isCancelled call.token = true := by
    rw [State.isCancelled]
    exact back.tokens ▸ cancelled
  obtain ⟨s', pursued, told⟩ := pursue_of_cancelled router call course
    (.completed (.error cancelledFailure)) _ still (fun v => by simp)
  have catalog : s'.catalog = s.catalog.dispose attempt.scope := by
    rw [told.catalog, State.dropGuard_holding, back.catalog]
  have circuits (slot : Nat) : s'.circuitsAt slot =
      (attempt.invocation.abandon attempt.flight s).circuitsAt slot := by
    rw [State.circuitsAt, told.circuits]
    rfl
  refine ⟨s', ?_, catalog, ?_, ?_, ?_, ?_, ?_⟩
  · simp only [resume, resumeAttempt_of_cancelled taken, pursued]
  · rw [catalog]
    exact s.catalog.not_open_dispose attempt.scope
  · rw [told.handedOut]
    exact back.handedOut
  · rw [told.limiters]
    exact back.limiters
  · intro slot
    rw [circuits, back.breakers]
  · intro slot key different
    rw [circuits, back.others slot key different]

end Router

namespace Journey

/-- The outcome of a call is settled: it has ended, or an attempt has ended with a value that is
about to be returned. -/
def HasSettled (j : Journey) (o : Outcome) : Prop :=
  j.phase = .ended o ∨
    ∃ course v, o = .ok v ∧ j.phase = .concluding course (.completed (.ok v))

/-- What may become of a cancelled journey: it starts no further attempt, and ends as
cancelled unless its outcome was settled. -/
structure Ceases (j j' : Journey) : Prop where
  started : j'.legs.map (·.context) = j.legs.map (·.context)
  value : ∀ course v, j'.phase = .concluding course (.completed (.ok v)) →
    j.phase = .concluding course (.completed (.ok v))
  ended : ∀ o, j'.phase = .ended o → o = .error cancelledFailure ∨ j.HasSettled o

variable {router : Router} {s s' : State} {j j₁ j₂ : Journey}

/-- A journey that has just been cancelled is where it is, with the attempts it has started. -/
theorem Ceases.refl (j : Journey) : j.Ceases j :=
  ⟨rfl, fun _ _ phase => phase, fun _ phase => .inr (.inl phase)⟩

/-- Steps between attempts keep the attempts that have started. -/
theorem legs_of_idle (before : j₁.underway = []) (after : j₂.underway = [])
    (finished : j₂.finished = j₁.finished) : j₂.legs = j₁.legs := by
  rw [legs, legs, before, after, finished]

/-- So does leaving an attempt in flight, whatever its ending: it was one of those that had
started. -/
theorem contexts_of_left {course : Course} {attempt : Attempt} {ending : Option Ending}
    (attempting : j₁.phase = .attempting course attempt)
    (finished : j₂.finished = j₁.finished ++ [attempt.leg ending]) (after : j₂.underway = []) :
    j₂.legs.map (·.context) = j₁.legs.map (·.context) := by
  have underway : j₁.underway = [attempt.leg none] := by simp [underway, attempting]
  rw [legs, legs, underway, after, finished]
  simp [Attempt.leg]

/-- A step of a cancelled call starts no attempt. There is one case for each kind of step; only a
launch could start one, and it finds its token cancelled. -/
theorem Step.ceases (tokens : s.tokens.Sound) (sound : j₁.Sound s)
    (cancelled : s.isCancelled j₁.call.token = true) (step : Step router s j₁ s' j₂)
    (ceases : j.Ceases j₁) : j.Ceases j₂ := by
  have stopped : j₁.call.isStopped s = true := by rw [j₁.call.isStopped_eq tokens, cancelled]
  have between {j₂ : Journey} (before : j₁.underway = []) (after : j₂.underway = [])
      (finished : j₂.finished = j₁.finished) :
      j₂.legs.map (·.context) = j.legs.map (·.context) := by
    rw [legs_of_idle before after finished, ceases.started]
  cases step with
  | refused phase answer =>
    simp only [Router.receive, cancelled, if_true, Prod.mk.injEq, Sum.inl.injEq] at answer
    refine ⟨between (by simp [underway, phase]) rfl rfl, by simp, ?_⟩
    rintro _ ⟨⟩
    exact .inl answer.2.symm
  | chosen phase answer => simp [Router.receive, cancelled] at answer
  | asked phase answer => simp [Router.receive, cancelled] at answer
  | answered phase isDue =>
    exact ⟨between (by simp [underway, phase]) rfl rfl, by simp, by simp⟩
  | embarked phase => exact ⟨between (by simp [underway, phase]) rfl rfl, by simp, by simp⟩
  | withheld phase stopped launched =>
    rw [Router.launch_of_stopped _ stopped, Prod.mk.injEq, Sum.inl.injEq] at launched
    obtain ⟨-, rfl⟩ := launched
    exact ⟨between (by simp [underway, phase]) rfl rfl, by simp, by simp⟩
  | sped phase free launched =>
    rw [stopped] at free
    cases free
  | launched phase launched =>
    rw [Router.launch_of_stopped _ stopped] at launched
    cases launched
  | waited phase resumed =>
    obtain ⟨child, -, -, -⟩ := sound.attempt _ _ phase
    rw [Router.resumeAttempt_of_cancelled (s.tokens.isCancelled_of_child child cancelled)]
      at resumed
    cases resumed
  | left phase resumed =>
    obtain ⟨child, -, -, -⟩ := sound.attempt _ _ phase
    rw [Router.resumeAttempt_of_cancelled (s.tokens.isCancelled_of_child child cancelled),
      Prod.mk.injEq, Sum.inl.injEq] at resumed
    obtain ⟨-, rfl⟩ := resumed
    exact ⟨(contexts_of_left phase rfl rfl).trans ceases.started, by simp, by simp⟩
  | @concluded _ _ course ending o phase answer =>
    refine ⟨between (by simp [underway, phase]) rfl rfl, by simp, ?_⟩
    rintro _ ⟨⟩
    have ends := congrArg Prod.snd answer
    rcases Router.ends_of_cancelled router course ending cancelled with ended | ⟨v, rfl, value⟩
    · exact .inl (Sum.inl.inj (ends.symm.trans ended))
    · obtain rfl : o = .ok v := Sum.inl.inj (ends.symm.trans value)
      exact .inr (.inr ⟨course, v, rfl, ceases.value course v phase⟩)
  | @fellBack _ _ course next ending phase answer =>
    have goesOn := congrArg Prod.snd answer
    rcases Router.ends_of_cancelled router course ending cancelled with ended | ⟨v, -, value⟩
    · cases goesOn.symm.trans ended
    · cases goesOn.symm.trans value
  | dropped phase => exact ⟨between (by simp [underway, phase]) rfl rfl, by simp, by simp⟩
  | droppedInFlight phase =>
    exact ⟨(contexts_of_left phase rfl rfl).trans ceases.started, by simp, by simp⟩

/-- A cancelled call starts no attempt, whatever else happens, by induction on what becomes of it.
Its token stays cancelled as the tokens grow. -/
theorem Travels.ceases (tokens : s.tokens.Sound) (sound : j.Sound s)
    (cancelled : s.isCancelled j.call.token = true) (travels : Travels router s j s' j₁) :
    j.Ceases j₁ := by
  induction travels with
  | stay => exact .refl j
  | step before last ih =>
    obtain ⟨grown, still⟩ := before.grows sound
    have later : State.isCancelled _ j.call.token = true := grown.isCancelled cancelled
    exact last.ceases (grown.sound tokens) still (before.call_eq ▸ later) ih
  | meanwhile before grows ih => exact ih

end Journey

namespace World

variable {router : Router} {s : State} {w : World} {n : Nat} {j : Journey}

/-- What a cancellation means for a call of a world. -/
structure CutsOff (router : Router) (w : World) (n : Nat) (j : Journey) : Prop where
  /-- A call that has not been dispatched leaves no more than a line in the trace. -/
  arriving : j.phase = .arriving → router.start j.call w.state =
    (w.state.emit none ⟨.debug, "cancelled before dispatch",
      [Trace.text "service" router.registration.service, Trace.text "method" j.call.method]⟩,
      .finished (.error cancelledFailure))
  /-- A call that waits for its key ends when it has it, without an attempt. -/
  selecting : ∀ due opinion, j.phase = .selecting due opinion → due ≤ w.state.now →
    ∃ s', router.resume j.call (.selecting due opinion) w.state =
      (s', .finished (.error cancelledFailure)) ∧ w.state.Unattempted s'
  /-- A call that has just got its key ends without an attempt too. -/
  selected : ∀ selection, j.phase = .selected selection →
    ∃ s', router.follow j.call selection w.state =
      (s', .finished (.error cancelledFailure)) ∧ w.state.Unattempted s'
  /-- An attempt that is about to start does not start. -/
  launching : ∀ course, j.phase = .launching course →
    router.launch j.call course w.state =
      (w.state.issueToken, .inl (.completed (.error cancelledFailure)))
  /-- A call in an attempt ends at its next turn, and the attempt lets go of everything. -/
  attempting : ∀ course attempt, j.phase = .attempting course attempt →
    ∃ s', router.resume j.call (.attempting course attempt) w.state =
      (s', .finished (.error cancelledFailure)) ∧ attempt.LetsGo w.state s'
  /-- An attempt that has failed, in whatever way, is not followed by another one. -/
  concluding : ∀ course ending, j.phase = .concluding course ending →
    (∀ v, ending ≠ .completed (.ok v)) →
    ∃ s', router.pursue j.call course ending w.state =
      (s', .finished (.error cancelledFailure)) ∧ w.state.Aside s'
  /-- No further attempt starts, and the call ends as cancelled unless it was settled. -/
  final : ∀ w', Becomes router w w' → ∃ j', w'.journeys[n]? = some j' ∧ j.Ceases j'

/-- Whenever the caller of a call cancels it, that is final: wherever the call is, and whatever
happens to it and around it afterwards.

Proof: what the next turn of the call comes to is looked up phase by phase. In the attempt's phase
this uses that the attempt's token is below the one of the call, which holds of every world. What
comes later is an induction over all that may become of the call. -/
theorem cancellation_is_final (tokens : s.tokens.Sound) (becomes : Becomes router ⟨s, []⟩ w)
    (here : w.journeys[n]? = some j) (cancelled : w.state.isCancelled j.call.token = true) :
    CutsOff router w n j := by
  have sound : w.Sound := Becomes.sound becomes (sound_of_empty tokens)
  have own : j.Sound w.state := sound.journeys j (List.mem_of_getElem? here)
  refine ⟨fun _ => Router.start_of_cancelled cancelled, ?_, ?_, ?_, ?_, ?_, ?_⟩
  · intro due opinion _ isDue
    exact Router.resume_selecting_of_cancelled opinion sound.tokens cancelled isDue
  · intro selection _
    obtain ⟨s', followed, s₁, embarked, rest⟩ :=
      Router.follow_of_cancelled router selection sound.tokens cancelled
    exact ⟨s', followed, State.unattempted_of_asides embarked rest⟩
  · intro course _
    refine Router.launch_of_stopped course ?_
    rw [j.call.isStopped_eq sound.tokens, cancelled]
  · intro course attempt phase
    exact Router.resume_attempting_of_cancelled (own.attempt course attempt phase).1 cancelled
  · intro course ending _ failed
    exact Router.pursue_of_cancelled router j.call course ending w.state cancelled failed
  · intro w' later
    obtain ⟨j', there, travels⟩ := Becomes.travels later sound here
    exact ⟨j', there, travels.ceases sound.tokens own cancelled⟩

/-- The two calls of the trial with a spare, the second of them cancelled by its caller. -/
def sparedWorld (turns : List Nat) : World :=
  { spareWorld turns with state := (spareWorld turns).state.cancel ⟨1, []⟩ }

/-- The second call is cancelled while it holds a permit and a scope, and the other one goes on
beside it. -/
theorem cancelled_in_flight_is_final :
    ∃ j course attempt, Becomes spareRouter ⟨spareStart, []⟩ (sparedWorld [1, 1, 1, 1, 1]) ∧
      (sparedWorld [1, 1, 1, 1, 1]).journeys[1]? = some j ∧
      (sparedWorld [1, 1, 1, 1, 1]).state.isCancelled j.call.token = true ∧
      j.phase = .attempting course attempt ∧ attempt.scope = 1 ∧
      attempt.flight.permits 0 = 1 ∧
      CutsOff spareRouter (sparedWorld [1, 1, 1, 1, 1]) 1 j := by
  have becomes : Becomes spareRouter ⟨spareStart, []⟩ (sparedWorld [1, 1, 1, 1, 1]) :=
    .tail (becomes_spareWorld [1, 1, 1, 1, 1]) (.outside (.cancelled (by decide)))
  refine ⟨_, _, _, becomes, rfl, rfl, rfl, rfl, rfl, ?_⟩
  exact cancellation_is_final sound_spareStart becomes (n := 1) rfl rfl

end World

end TrialRouting
