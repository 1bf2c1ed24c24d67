import TrialRouting.Proofs.Call.Attempts
import TrialRouting.Proofs.Observers.Attempts

/-!
# Calls without their observers

A call of a router is run beside the same call of the router that has lost its logging decorators
and reports elsewhere. Whatever decides how a call goes on is no observer's: both calls get the
same key, start the same attempts and end with the same outcome. What a call carries along that
does depend on observers is the span around its attempts, which nothing but traces reads.
-/

namespace TrialRouting

/-- The router without its logging decorators, and with another provider of telemetry. -/
def Router.bare (router : Router) (provider : Telemetry.Provider) : Router :=
  { router with pipeline := Pipeline.unlogged router.pipeline, telemetry := provider }

/-- Courses that are the same but for the span around the attempts, of which no routing decision
knows. -/
def Course.RoutesAs (c c' : Course) : Prop :=
  c' = { c with span := c'.span }

/-- An attempt without the logging decorators it is inside of. -/
def Attempt.unlogged (a : Attempt) : Attempt :=
  { a with flight := a.flight.unlogged }

/-- What an attempt has come to, and what it has come to without logging decorators. -/
abbrev Ending.Bares : State × (Ending ⊕ Attempt) → State × (Ending ⊕ Attempt) → Prop :=
  State.Alongside (Sum.LiftRel Eq fun a a' => a' = a.unlogged)

/-- Where a call waits, and where it waits without logging decorators. -/
inductive Stage.Bares : Stage → Stage → Prop where
  | selecting (due : Instant) (opinion : Opinion) :
      Bares (.selecting due opinion) (.selecting due opinion)
  | attempting {c c' : Course} (courses : c.RoutesAs c') (a : Attempt) :
      Bares (.attempting c a) (.attempting c' a.unlogged)

/-- Where a turn leaves a call, and where it leaves it without logging decorators. -/
inductive Step.Bares : Step Stage Outcome → Step Stage Outcome → Prop where
  | running {stage stage' : Stage} (stages : stage.Bares stage') :
      Bares (.running stage) (.running stage')
  | finished (o : Outcome) : Bares (.finished o) (.finished o)

/-- A call waits for the same instants without its logging decorators: those of its attempt, and its
deadline. -/
theorem Stage.Bares.timers_eq {stage stage' : Stage} (stages : stage.Bares stage') :
    Router.timers stage = Router.timers stage' := by
  cases stages with
  | selecting due opinion => rfl
  | attempting courses a =>
    rw [courses]
    simp only [Router.timers, Attempt.unlogged, Flight.timers_unlogged]

namespace State.Alongside

variable {α β δ : Type} {Q : β → δ → Prop} {s : State} {y : State × (α ⊕ δ)}

/-- What one run is done with, the other is, and with the same result. -/
theorem of_inl {a : α} (alongside : State.Alongside (Sum.LiftRel Eq Q) (s, .inl a) y) :
    ∃ t, y = (t, .inl a) ∧ s.RoutesAs t := by
  obtain ⟨t, r⟩ := y
  obtain ⟨same, results⟩ := alongside
  cases results with
  | inl eq => exact ⟨t, by rw [eq], same⟩

/-- What one run goes on with, the other does, and the two are related as they should be. -/
theorem of_inr {b : β} (alongside : State.Alongside (Sum.LiftRel Eq Q) (s, .inr b) y) :
    ∃ t d, y = (t, .inr d) ∧ s.RoutesAs t ∧ Q b d := by
  obtain ⟨t, r⟩ := y
  obtain ⟨same, results⟩ := alongside
  cases results with
  | inr related => exact ⟨t, _, rfl, same, related⟩

end State.Alongside

namespace State.RoutesAs

variable {s t : State}

theorem openScope (same : s.RoutesAs t) : s.openScope.RoutesAs t.openScope := by
  have noted : (s.note (.scopeOpened s.catalog.nextScope)).RoutesAs
      (t.note (.scopeOpened t.catalog.nextScope)) := by
    rw [same.catalog]
    exact same.note _
  exact { noted with catalog := congrArg Catalog.openScope same.catalog }

theorem dropGuard (same : s.RoutesAs t) (scope : Nat) :
    (s.dropGuard (.holding scope)).RoutesAs (t.dropGuard (.holding scope)) :=
  { same.note (.scopeDisposed scope) with
    catalog := congrArg (fun c => ((ScopeGuard.holding scope).dispose c).1) same.catalog }

theorem afterResolution (same : s.RoutesAs t) (r : Resolution) :
    (s.afterResolution r).RoutesAs (t.afterResolution r) :=
  (same.notes _).withCatalog r.catalog

/-- Other modes and sources are asked in both. -/
theorem withSelector (same : s.RoutesAs t) (selector : Selector) :
    ({ s with selector } : State).RoutesAs { t with selector } :=
  { same with selector := rfl }

/-- A mode is asked in both. -/
theorem afterAsking (same : s.RoutesAs t) (r : Registration) (method : String) (mode : Mode) :
    (s.afterAsking r method mode).RoutesAs (t.afterAsking r method mode) := by
  have asked := same.withSelector (s.selector.afterAsking mode)
  simp only [State.afterAsking, ← same.selector]
  split
  · exact asked.note _
  · exact asked

/-- The same key is chosen, since the modes, the clock on the wall and the predicate are the
same. -/
theorem choose (same : s.RoutesAs t) (r : Registration) (method : String) :
    State.Alongside Eq (s.choose r method) (t.choose r method) := by
  have gated : (s.afterGate (r.predicateCalls s.wallClock)).RoutesAs
      (t.afterGate (r.predicateCalls t.wallClock)) := by
    rw [same.wallClock]
    exact { same with predicateCalls := congrArg (· + _) same.predicateCalls }
  simp only [State.choose, ← same.wallClock] at gated ⊢
  split
  · exact ⟨gated.emit _ _ _ _, rfl⟩
  · simp only [State.ask, gated.selector]
    split
    · exact ⟨gated.emit _ _ _ _, rfl⟩
    · next mode found =>
      have asked := gated.afterAsking r method mode
      split
      · exact ⟨asked.emit _ _ _ _, rfl⟩
      · exact ⟨asked, by rw [asked.now]⟩

end State.RoutesAs

namespace Router

variable {router : Router} {provider : Telemetry.Provider} {call : Call} {c c' : Course}
  {s t : State}

/-! ### Attempts begin and end -/

/-- The deadline cuts an attempt off alike. -/
theorem cutOff_bare (same : s.RoutesAs t) (a : Attempt) :
    (cutOff a s).RoutesAs (cutOff a.unlogged t) :=
  ((Invocation.abandon_bare same a.flight).dropGuard a.scope).cancel a.token

/-- What an attempt has come to is judged alike. Whether a deadline has passed depends on the clock
alone. -/
theorem judge_bare {x y : State × Reply} (replies : Reply.Bares x y) (courses : c.RoutesAs c')
    (token : Token) (scope : Nat) (inv : Invocation) :
    Ending.Bares (judge c token scope inv x) (judge c' token scope inv y) := by
  obtain ⟨s, reply⟩ := x
  obtain ⟨t, reply'⟩ := y
  obtain rfl : reply' = reply.unlogged := replies.results
  have same : s.RoutesAs t := replies.states
  cases reply with
  | done o => exact ⟨same.dropGuard scope, .inl rfl⟩
  | pending flight =>
    have overdue : c.isOverdue s.now = c'.isOverdue t.now := by
      rw [courses, same.now]
      rfl
    simp only [judge, Reply.unlogged, overdue]
    cases c'.isOverdue t.now with
    | true => exact ⟨cutOff_bare same ⟨token, scope, inv, flight⟩, .inl rfl⟩
    | false => exact ⟨same, .inr rfl⟩

/-- The next attempt starts alike: its token, its scope and what it builds are the same in both
runs. -/
theorem launch_bare (same : s.RoutesAs t) (courses : c.RoutesAs c') :
    Ending.Bares (router.launch call c s) ((router.bare provider).launch call c' t) := by
  have stopped : call.isStopped s = call.isStopped t := by
    simp only [Call.isStopped, State.isCancelled, State.issueToken, same.tokens]
  cases here : call.isStopped s with
  | true =>
    rw [launch_of_stopped c here, launch_of_stopped c' (stopped ▸ here)]
    exact ⟨same.issueToken, .inl rfl⟩
  | false =>
    have there : call.isStopped t = false := stopped ▸ here
    have key : c'.progress = c.progress := by rw [courses]
    cases listed : router.registration.trial? c.progress.current with
    | none =>
      have unlisted : (router.bare provider).registration.trial? c'.progress.current = none := by
        rw [key]
        exact listed
      rw [launch_of_unlisted here listed, launch_of_unlisted there unlisted, key]
      exact ⟨same.issueToken, .inl rfl⟩
    | some trial =>
      have listed' : (router.bare provider).registration.trial? c'.progress.current =
          some trial := by
        rw [key]
        exact listed
      have noted : (s.issueToken.openScope.note (.resolving s.catalog.nextScope c.progress.current
            trial.implementation)).RoutesAs
          (t.issueToken.openScope.note (.resolving t.catalog.nextScope c'.progress.current
            trial.implementation)) := by
        rw [key, same.catalog]
        exact same.issueToken.openScope.note _
      have resolved : resolution c trial s = resolution c' trial t := by
        rw [resolution, resolution, noted.catalog, same.catalog]
      have ready : (opened c trial s).RoutesAs (opened c' trial t) := by
        rw [opened, opened, resolved]
        exact noted.afterResolution _
      rw [launch_of_listed here listed, launch_of_listed there listed', resolved]
      cases (resolution c' trial t).result with
      | error source =>
        rw [key, same.catalog]
        exact ⟨(ready.emit _ _ _ _).dropGuard _, .inl rfl⟩
      | ok made =>
        have context : invocationOf call c' made = invocationOf call c made := by
          rw [courses]
          rfl
        dsimp only
        rw [context, same.tokens, same.catalog]
        exact judge_bare (Invocation.enter_bare ready _ _ _ _) courses _ _ _

/-- An attempt that waited is resumed alike. -/
theorem resumeAttempt_bare (same : s.RoutesAs t) (courses : c.RoutesAs c') (a : Attempt) :
    Ending.Bares (resumeAttempt c a s) (resumeAttempt c' a.unlogged t) := by
  cases cancelled : t.isCancelled a.token with
  | true =>
    simp only [resumeAttempt, Attempt.unlogged, same.isCancelled_eq, cancelled, if_true]
    exact ⟨(Invocation.abandon_bare same a.flight).dropGuard a.scope, .inl rfl⟩
  | false =>
    simp only [resumeAttempt, Attempt.unlogged, same.isCancelled_eq, cancelled, if_false,
      Bool.false_eq_true]
    exact judge_bare (Invocation.resume_bare same _ _ a.flight) courses _ _ _

/-! ### What follows an attempt -/

/-- A call reports to its own telemetry, which may be another one in the other run. -/
theorem report_bare (same : s.RoutesAs t) (courses : c.RoutesAs c') (r : Telemetry.Report) :
    (router.report c r s).RoutesAs ((router.bare provider).report c' r t) := by
  rw [courses]
  exact same.report _ _ _ _ _ r

/-- A call makes its last reports. -/
theorem finish_bare (same : s.RoutesAs t) (courses : c.RoutesAs c') (r : Telemetry.Report) :
    (router.finish c r s).RoutesAs ((router.bare provider).finish c' r t) :=
  report_bare (report_bare same courses r) courses .disposed

/-- A missed deadline only shows in the trace, and there only if it is watched. -/
theorem noteExpiry_bare (same : s.RoutesAs t) (courses : c.RoutesAs c') (e : Ending) :
    (noteExpiry c e s).RoutesAs (noteExpiry c' e t) := by
  rw [courses]
  unfold noteExpiry
  dsimp only
  split
  · exact same.emit _ _ _ _
  · exact same

/-- What has ended an attempt leads on alike. The fallback plan knows of endings and keys only. -/
theorem conclude_bare (same : s.RoutesAs t) (courses : c.RoutesAs c') (e : Ending) :
    State.Alongside (Sum.LiftRel Eq Course.RoutesAs) (router.conclude call c e s)
      ((router.bare provider).conclude call c' e t) := by
  have verdict : (router.bare provider).verdict? c' e = router.verdict? c e := by
    rw [courses]
    rfl
  have noted := noteExpiry_bare same courses e
  simp only [conclude, verdict]
  cases router.verdict? c e with
  | none => exact ⟨same, .inl rfl⟩
  | some v =>
    obtain ⟨o, trigger, deadline⟩ := v
    simp only [noted.isCancelled_eq]
    split
    · exact ⟨finish_bare noted courses _, .inl rfl⟩
    · have key : c'.progress = c.progress := by rw [courses]
      have reported : (router.reportFailure c o (noteExpiry c e s)).RoutesAs
          ((router.bare provider).reportFailure c' o (noteExpiry c' e t)) := by
        cases o with
        | ok v => exact noted
        | error f =>
          rw [reportFailure, reportFailure, key]
          exact report_bare noted courses _
      have plan : (router.bare provider).registration = router.registration := rfl
      simp only [key, plan]
      obtain ⟨progress, move⟩ := c.progress.advance router.registration o trigger
      cases move with
      | succeed v => exact ⟨finish_bare reported courses _, .inl rfl⟩
      | giveUp f => exact ⟨finish_bare (reported.emit _ _ _ _) courses _, .inl rfl⟩
      | attempt next =>
        refine ⟨report_bare (reported.emit _ _ _ _) courses _, .inr ?_⟩
        rw [courses]
        rfl

/-- A call is pursued alike after an attempt has ended. The induction follows `pursue` through the
attempts that end at once. -/
theorem pursue_bare (same : s.RoutesAs t) (courses : c.RoutesAs c') (e : Ending) :
    State.Alongside Step.Bares (router.pursue call c e s)
      ((router.bare provider).pursue call c' e t) := by
  fun_induction Router.pursue router call c e s generalizing c' t with
  | case1 c e s s₁ o answer =>
    have concluded : State.Alongside _ (router.conclude call c e s)
      ((router.bare provider).conclude call c' e t) := conclude_bare same courses e
    rw [answer] at concluded
    obtain ⟨t₁, there, same₁⟩ := concluded.of_inl
    rw [pursue_of_outcome there]
    exact ⟨same₁, .finished o⟩
  | case2 c e s s₁ next answer s₂ e' launched ih =>
    have concluded : State.Alongside _ (router.conclude call c e s)
      ((router.bare provider).conclude call c' e t) := conclude_bare same courses e
    rw [answer] at concluded
    obtain ⟨t₁, next', there, same₁, courses₁⟩ := concluded.of_inr
    have started : Ending.Bares (router.launch call next s₁)
      ((router.bare provider).launch call next' t₁) := launch_bare same₁ courses₁
    rw [launched] at started
    obtain ⟨t₂, launchedThere, same₂⟩ := started.of_inl
    rw [pursue_of_next there, launchedThere]
    exact ih same₂ courses₁
  | case3 c e s s₁ next answer s₂ a launched =>
    have concluded : State.Alongside _ (router.conclude call c e s)
      ((router.bare provider).conclude call c' e t) := conclude_bare same courses e
    rw [answer] at concluded
    obtain ⟨t₁, next', there, same₁, courses₁⟩ := concluded.of_inr
    have started : Ending.Bares (router.launch call next s₁)
      ((router.bare provider).launch call next' t₁) := launch_bare same₁ courses₁
    rw [launched] at started
    obtain ⟨t₂, a', launchedThere, same₂, rfl⟩ := started.of_inr
    rw [pursue_of_next there, launchedThere]
    exact ⟨same₂, .running (.attempting courses₁ a)⟩

/-- What a call does once an attempt has waited or ended. -/
def proceedFrom (router : Router) (call : Call) (c : Course) :
    State × (Ending ⊕ Attempt) → State × Step Stage Outcome
  | (s, .inl ending) => router.pursue call c ending s
  | (s, .inr attempt) => (s, .running (.attempting c attempt))

/-- A call goes on alike after its attempt has waited or ended. -/
theorem proceedFrom_bare {x y : State × (Ending ⊕ Attempt)} (attempts : Ending.Bares x y)
    (courses : c.RoutesAs c') :
    State.Alongside Step.Bares (router.proceedFrom call c x)
      ((router.bare provider).proceedFrom call c' y) := by
  obtain ⟨s, ending | a⟩ := x
  · obtain ⟨t, rfl, same⟩ := attempts.of_inl
    exact pursue_bare same courses ending
  · obtain ⟨t, a', rfl, same, rfl⟩ := attempts.of_inr
    exact ⟨same, .running (.attempting courses a)⟩

/-! ### Turns -/

/-- A selected call sets out alike, up to the span around its attempts, which has another number if
fewer spans have been opened. -/
theorem embark_bare (same : s.RoutesAs t) (selection : Selection) :
    State.Alongside Course.RoutesAs (router.embark call selection s)
      ((router.bare provider).embark call selection t) := by
  have counted : ({ s with invocations := s.invocations + 1 } : State).RoutesAs
      { t with invocations := t.invocations + 1 } :=
    { same with invocations := congrArg (· + 1) same.invocations }
  have reporting {u v : State} (same : u.RoutesAs v) :
      ({ u with reporters := u.reporters + 1 } : State).RoutesAs
        { v with reporters := v.reporters + 1 } :=
    { same with reporters := congrArg (· + 1) same.reporters }
  have courses : (router.embark call selection s).2.RoutesAs
      ((router.bare provider).embark call selection t).2 := by
    simp only [Course.RoutesAs, embark, bare, State.openSpan, State.record, same.now,
      same.invocations, same.reporters]
  exact ⟨report_bare (report_bare (reporting ((counted.written _ _ _).writtenThere _ _ _))
    courses .started) courses _, courses⟩

/-- A selected call starts its attempts alike. -/
theorem follow_bare (same : s.RoutesAs t) (selection : Selection) :
    State.Alongside Step.Bares (router.follow call selection s)
      ((router.bare provider).follow call selection t) := by
  have embarked : State.Alongside Course.RoutesAs (router.embark call selection s)
    ((router.bare provider).embark call selection t) := embark_bare same selection
  exact proceedFrom_bare (launch_bare embarked.states embarked.results) embarked.results

/-- A call starts alike: it is refused, waits for its mode, or sets out with its key in both
runs. -/
theorem start_bare (same : s.RoutesAs t) :
    State.Alongside Step.Bares (router.start call s) ((router.bare provider).start call t) := by
  have asked := same.choose router.registration call.method
  have plan : (router.bare provider).registration = router.registration := rfl
  simp only [start, receive, same.isCancelled_eq, plan]
  cases t.isCancelled call.token with
  | true => exact ⟨same.emit _ _ _ _, .finished _⟩
  | false =>
    generalize s.choose router.registration call.method = x at asked ⊢
    generalize t.choose router.registration call.method = y at asked ⊢
    obtain ⟨s₁, chosen⟩ := x
    obtain ⟨t₁, chosen'⟩ := y
    obtain ⟨same₁, rfl⟩ : s₁.RoutesAs t₁ ∧ chosen = chosen' := ⟨asked.states, asked.results⟩
    cases chosen with
    | settled selection => exact follow_bare same₁ selection
    | waiting due opinion => exact ⟨same₁, .running (.selecting due opinion)⟩

/-- A call that waited is resumed alike, from whatever it was waiting for. -/
theorem resume_bare (same : s.RoutesAs t) {stage stage' : Stage} (stages : stage.Bares stage') :
    State.Alongside Step.Bares (router.resume call stage s)
      ((router.bare provider).resume call stage' t) := by
  cases stages with
  | selecting due opinion =>
    simp only [resume, same.now]
    split
    · exact follow_bare (same.emit _ _ _ _) _
    · exact ⟨same, .running (.selecting due opinion)⟩
  | attempting courses a => exact proceedFrom_bare (resumeAttempt_bare same courses a) courses

/-- A call is taken down alike. -/
theorem abandon_bare (same : s.RoutesAs t) {stage stage' : Stage} (stages : stage.Bares stage') :
    (router.abandon stage s).RoutesAs ((router.bare provider).abandon stage' t) := by
  cases stages with
  | selecting due opinion => exact same
  | attempting courses a =>
    exact report_bare ((Invocation.abandon_bare same a.flight).dropGuard a.scope) courses .disposed

end Router

end TrialRouting
