import TrialRouting.Proofs.Attempt.Effects
import TrialRouting.Proofs.Call.Journey

/-!
# How the attempts of a call begin and end

An attempt opens its scope, has its effects on the shared state, and waits or ends; when
it ends, whatever ended it, disposing its scope is the last thing it does. The lemmas
here say that for each way into and out of an attempt, so that a property of a whole
call only has to look at scopes being opened, effects, and scopes being disposed.
-/

namespace TrialRouting

namespace Router

/-- What the scope that a launched attempt has just opened makes of its trial. -/
def resolution (course : Course) (trial : Trial) (s : State) : Resolution :=
  (s.issueToken.openScope.note (.resolving s.catalog.nextScope course.progress.current
    trial.implementation)).catalog.resolve s.catalog.nextScope trial.implementation

/-- The state in which a launched attempt has opened its scope and has asked it for the
implementation of its trial. From here on it can only end by disposing the scope, whether it gets
the implementation or not. -/
def opened (course : Course) (trial : Trial) (s : State) : State :=
  (s.issueToken.openScope.note (.resolving s.catalog.nextScope course.progress.current
    trial.implementation)).afterResolution (resolution course trial s)

/-- What a started attempt works on. -/
def invocationOf (call : Call) (course : Course) (made : Instance) : Invocation :=
  ⟨course.attemptContext, call.caller, .serve made call.request call.handsOut⟩

variable {router : Router} {call : Call} {course : Course} {s s' : State}

/-- An attempt whose token is cancelled does not start: only its token has been issued, and no scope
has been opened. -/
theorem launch_of_stopped (course : Course) (stopped : call.isStopped s = true) :
    router.launch call course s =
      (s.issueToken, .inl (.completed (.error cancelledFailure))) := by
  have cancelled : s.issueToken.isCancelled (s.tokens.nextChild call.token) = true := stopped
  simp only [launch, cancelled, if_true]

/-- An attempt on a key without a trial fails before it has opened a scope. In a registration that
has been checked there is no such key to come to. -/
theorem launch_of_unlisted (free : call.isStopped s = false)
    (unlisted : router.registration.trial? course.progress.current = none) :
    router.launch call course s =
      (s.issueToken, .inl (.completed (.error (.routing
        (.resolution course.progress.current (.unregistered course.progress.current)))))) := by
  have uncancelled : s.issueToken.isCancelled (s.tokens.nextChild call.token) = false := free
  simp only [launch, uncancelled, unlisted]
  rfl

/-- An attempt on a key with a trial opens its scope. If its implementation cannot be had it
disposes the scope at once; otherwise it enters the decorators. These are the three ways of a
launch. -/
theorem launch_of_listed {trial : Trial} (free : call.isStopped s = false)
    (listed : router.registration.trial? course.progress.current = some trial) :
    router.launch call course s =
      match (resolution course trial s).result with
      | .error source =>
          (((opened course trial s).emit (some course.span)
            ⟨.warn, "implementation resolution failed",
              [Trace.text "key" course.progress.current,
                Trace.text "error" source.message]⟩).dropGuard (.holding s.catalog.nextScope),
            .inl (.completed (.error (.routing
              (.resolution course.progress.current source)))))
      | .ok made =>
          judge course (s.tokens.nextChild call.token) s.catalog.nextScope
            (invocationOf call course made)
            ((invocationOf call course made).enter (some course.span) router.pipeline
              (s.tokens.nextChild call.token) (opened course trial s)) := by
  have uncancelled : s.issueToken.isCancelled (s.tokens.nextChild call.token) = false := free
  simp only [launch, uncancelled, listed]
  rfl

/-- An attempt that has come to its end has disposed its scope last. Cancelling its token when the
deadline cuts it off is one of its effects. -/
theorem ended_of_judge {token : Token} {scope : Nat} {inv : Invocation} {r : State × Reply}
    {ending : Ending} (yields : inv.Yields s r) (known : token.id < s.tokens.issued)
    (judged : judge course token scope inv r = (s', .inl ending)) :
    ∃ last, inv.Reaches s last ∧ s' = last.dropGuard (.holding scope) := by
  obtain ⟨s₁, reply⟩ := r
  cases reply with
  | done o =>
    simp only [judge, Prod.mk.injEq] at judged
    exact ⟨s₁, yields.reaches, judged.1.symm⟩
  | pending flight =>
    simp only [judge] at judged
    split at judged
    · simp only [Prod.mk.injEq] at judged
      have takenDown : inv.Reaches s (inv.abandon flight s₁) :=
        yields.reaches.trans (Invocation.abandon_reaches flight s₁)
      have issued : token.id < (inv.abandon flight s₁).tokens.issued :=
        Nat.lt_of_lt_of_le known takenDown.issued_le
      exact ⟨_, takenDown.tail (.cancelled _ token (.inr issued)), judged.1.symm⟩
    · simp at judged

/-- An attempt that waits has had its effects, and its tokens have been issued. Its scope stays open
as long as it waits. -/
theorem waits_of_judge {token : Token} {scope : Nat} {inv : Invocation} {r : State × Reply}
    {attempt : Attempt} (yields : inv.Yields s r)
    (judged : judge course token scope inv r = (s', .inr attempt)) :
    ∃ flight, attempt = ⟨token, scope, inv, flight⟩ ∧ inv.Reaches s s' ∧
      flight.Issued s'.tokens := by
  obtain ⟨s₁, reply⟩ := r
  cases reply with
  | done o => simp [judge] at judged
  | pending flight =>
    simp only [judge] at judged
    split at judged
    · simp at judged
    · simp only [Prod.mk.injEq, Sum.inr.injEq] at judged
      obtain ⟨rfl, rfl⟩ := judged
      exact ⟨flight, rfl, yields.reaches, yields.issued flight rfl⟩

/-- An attempt that ends without waiting and whose key has a trial: its scope is opened, it has its
effects, its scope is disposed. Nothing comes after that. -/
theorem ended_of_launch {trial : Trial} {ending : Ending} (free : call.isStopped s = false)
    (listed : router.registration.trial? course.progress.current = some trial)
    (launched : router.launch call course s = (s', .inl ending)) :
    ∃ inv : Invocation, inv.caller = call.caller ∧
      ∃ last, inv.Reaches (opened course trial s) last ∧
        s' = last.dropGuard (.holding s.catalog.nextScope) := by
  cases result : (resolution course trial s).result with
  | error source =>
    rw [launch_of_listed free listed, result] at launched
    simp only [Prod.mk.injEq] at launched
    exact ⟨invocationOf call course default, rfl, _, Invocation.reaches_emit _ _ _,
      launched.1.symm⟩
  | ok made =>
    rw [launch_of_listed free listed, result] at launched
    exact ⟨_, rfl, ended_of_judge (Invocation.enter_yields _ _ _ _) (Nat.lt_succ_self _) launched⟩

/-- An attempt that waits after its launch. It was not stopped, its key has a trial, and it is named
by the token and the scope that were next. -/
theorem waits_of_launch {attempt : Attempt}
    (launched : router.launch call course s = (s', .inr attempt)) :
    call.isStopped s = false ∧
    ∃ trial made flight,
      router.registration.trial? course.progress.current = some trial ∧
      attempt = ⟨s.tokens.nextChild call.token, s.catalog.nextScope,
        invocationOf call course made, flight⟩ ∧
      (invocationOf call course made).Reaches (opened course trial s) s' ∧
      flight.Issued s'.tokens := by
  cases free : call.isStopped s with
  | true => simp [launch_of_stopped course free] at launched
  | false =>
    refine ⟨rfl, ?_⟩
    cases listed : router.registration.trial? course.progress.current with
    | none => simp [launch_of_unlisted free listed] at launched
    | some trial =>
      cases result : (resolution course trial s).result with
      | error source => simp [launch_of_listed free listed, result] at launched
      | ok made =>
        rw [launch_of_listed free listed, result] at launched
        obtain ⟨flight, shape, reaches, issued⟩ :=
          waits_of_judge (Invocation.enter_yields _ _ _ _) launched
        exact ⟨trial, made, flight, rfl, shape, reaches, issued⟩

/-- A resumed attempt that ends has disposed its scope last, as one that ends at once has. -/
theorem ended_of_resume {attempt : Attempt} {ending : Ending}
    (issued : attempt.flight.Issued s.tokens) (known : attempt.token.id < s.tokens.issued)
    (resumed : resumeAttempt course attempt s = (s', .inl ending)) :
    ∃ last, attempt.invocation.Reaches s last ∧ s' = last.dropGuard (.holding attempt.scope) := by
  simp only [resumeAttempt] at resumed
  split at resumed
  · simp only [Prod.mk.injEq] at resumed
    exact ⟨_, Invocation.abandon_reaches _ _, resumed.1.symm⟩
  · exact ended_of_judge (Invocation.resume_yields _ _ _ issued) known resumed

/-- A resumed attempt that goes on waiting is the same attempt further on: its token, its scope and
what it works on have not changed. -/
theorem waits_of_resume {attempt rest : Attempt} (issued : attempt.flight.Issued s.tokens)
    (resumed : resumeAttempt course attempt s = (s', .inr rest)) :
    ∃ flight, rest = { attempt with flight } ∧ attempt.invocation.Reaches s s' ∧
      flight.Issued s'.tokens := by
  simp only [resumeAttempt] at resumed
  split at resumed
  · simp at resumed
  · exact waits_of_judge (Invocation.resume_yields _ _ _ issued) resumed

/-! ### What follows an attempt -/

/-- A call that ends with its attempt has been pursued. There is nothing more to be done for it. -/
theorem pursue_of_outcome {ending : Ending} {o : Outcome}
    (answer : router.conclude call course ending s = (s', .inl o)) :
    router.pursue call course ending s = (s', .finished o) := by
  rw [pursue]
  split
  · next found =>
    rw [answer] at found
    cases found
    rfl
  · next found =>
    rw [answer] at found
    cases found

/-- A call whose next attempt starts is pursued further if the attempt has ended. So `pursue` goes
through as many attempts as end at once. -/
theorem pursue_of_next {ending : Ending} {next : Course}
    (answer : router.conclude call course ending s = (s', .inr next)) :
    router.pursue call course ending s =
      match router.launch call next s' with
      | (s, .inl ending) => router.pursue call next ending s
      | (s, .inr attempt) => (s, .running (.attempting next attempt)) := by
  rw [pursue]
  split
  · next found =>
    rw [answer] at found
    cases found
  · next found =>
    rw [answer] at found
    cases found
    rfl

end Router

end TrialRouting
