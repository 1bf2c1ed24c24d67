import TrialRouting.Proofs.Call.Deadline
import TrialRouting.Proofs.Overlap.Attempts

/-!
# Calls of two runs

A call asks for its key, starts its attempts and plans what follows them alike in two runs
that meet: its scopes are new ones in both, so they build what the catalog offers, and all
that decides how it goes on is the same.

A call that waits goes on waiting when it is resumed, as long as nothing that it waits for
has come and its attempt has not been cancelled. After its turn the attempt it waits for has
only been cancelled if the turn itself has cancelled the caller's token.
-/

namespace TrialRouting

/-! ### What is alike -/

/-- The same call in two runs. -/
structure Call.Alike (R : Pairing) (call call' : Call) : Prop where
  method : call.method = call'.method
  request : call.request = call'.request
  handsOut : call.handsOut = call'.handsOut
  caller : call.caller.Alike R call'.caller
  token : call.token.Alike R call'.token

/-- Courses of the same call. -/
structure Course.Alike (c c' : Course) : Prop where
  context : c.context.anonymous = c'.context.anonymous
  progress : c.progress = c'.progress
  reporter : c.reporter.anonymous = c'.reporter.anonymous
  span : c.span.anonymous = c'.span.anonymous
  deadline : c.deadline = c'.deadline

/-- The same attempt of the same call. -/
structure Attempt.Alike (R : Pairing) (a a' : Attempt) : Prop where
  token : a.token.Alike R a'.token
  invocation : a.invocation.Alike R a'.invocation
  flight : a.flight.Alike R a'.flight

/-- The same ending, or attempts that are alike. -/
abbrev Ending.Alike (R : Pairing) : Ending ⊕ Attempt → Ending ⊕ Attempt → Prop :=
  Sum.LiftRel Eq (Attempt.Alike R)

/-- A call waits for the same. -/
inductive Stage.Alike (R : Pairing) : Stage → Stage → Prop where
  | selecting (due : Instant) (opinion : Opinion) :
      Alike R (.selecting due opinion) (.selecting due opinion)
  | attempting {c c' : Course} {a a' : Attempt} (courses : c.Alike c') (attempts : a.Alike R a') :
      Alike R (.attempting c a) (.attempting c' a')

/-- A turn leaves a call where it waits for the same, or with the same outcome. -/
inductive Step.Alike (R : Pairing) : Step Stage Outcome → Step Stage Outcome → Prop where
  | running {stage stage' : Stage} (stages : stage.Alike R stage') :
      Alike R (.running stage) (.running stage')
  | finished (o : Outcome) : Alike R (.finished o) (.finished o)

variable {R R' : Pairing}

theorem Call.Alike.mono {call call' : Call} (alike : call.Alike R call')
    (wider : ∀ {i j}, R i j → R' i j) : call.Alike R' call' :=
  { alike with caller := alike.caller.mono wider, token := alike.token.mono wider }

theorem Attempt.Alike.mono {a a' : Attempt} (alike : a.Alike R a')
    (wider : ∀ {i j}, R i j → R' i j) : a.Alike R' a' :=
  ⟨alike.token.mono wider, alike.invocation.mono wider, alike.flight.mono wider⟩

theorem Stage.Alike.mono {stage stage' : Stage} (alike : stage.Alike R stage')
    (wider : ∀ {i j}, R i j → R' i j) : stage.Alike R' stage' := by
  cases alike with
  | selecting due opinion => exact .selecting due opinion
  | attempting courses attempts => exact .attempting courses (attempts.mono wider)

/-- Calls that are alike wait for the same instants, so their own clocks move on alike. -/
theorem Stage.Alike.timers_eq {stage stage' : Stage} (alike : stage.Alike R stage') :
    Router.timers stage = Router.timers stage' := by
  cases alike with
  | selecting due opinion => rfl
  | attempting courses attempts =>
    simp only [Router.timers, courses.deadline, attempts.flight.timers_eq]

/-- The contexts of the next attempt. -/
theorem Course.Alike.attemptContext {c c' : Course} (courses : c.Alike c') :
    c.attemptContext.anonymous = c'.attemptContext.anonymous := by
  have same := courses.context
  simp only [Context.anonymous, Context.mk.injEq] at same
  simp only [Course.attemptContext, Context.forAttempt, Context.anonymous, courses.progress, same]

theorem Course.Alike.spans {c c' : Course} (courses : c.Alike c') :
    (some c.span).map Trace.Span.anonymous = (some c'.span).map Trace.Span.anonymous :=
  Trace.Span.map_some_anonymous courses.span

namespace Meeting

variable {m : Meeting} {router : Router}

namespace Twin

variable {s t : State} {call call' : Call} {c c' : Course}

/-! ### Attempts begin and end -/

/-- The deadline cuts an attempt off alike: what it is inside of is taken down, and its token is
cancelled. -/
theorem cutOff (twin : m.Twin s t) {a a' : Attempt} (token : a.token.Alike (m.held s t) a'.token)
    (works : a.invocation.work.Alike a'.invocation.work) {R : Pairing}
    (flights : a.flight.Alike R a'.flight) :
    m.Twin (Router.cutOff a s) (Router.cutOff a' t) := by
  have down := twin.abandon flights works
  refine (down.dropGuard a.scope a'.scope).cancel (token.later ?_ ?_)
  · exact (Invocation.abandon_reaches a.flight s).issued_le
  · exact (Invocation.abandon_reaches a'.flight t).issued_le

end Twin

/-- What alike attempts have come to is judged alike. Whether the deadline has passed is told by a
clock that both runs share while the call has its turn. -/
theorem Agrees.judge {x y : State × Reply} {c c' : Course} {inv inv' : Invocation} {u u' : Token}
    (replies : m.Agrees Reply.Alike x y) (courses : c.Alike c') (invs : inv.Alike m.known inv')
    (tokens : u.Alike (m.held x.1 y.1) u') (scope scope' : Nat) :
    m.Agrees Ending.Alike (Router.judge c u scope inv x) (Router.judge c' u' scope' inv' y) := by
  obtain ⟨s, reply⟩ := x
  obtain ⟨t, reply'⟩ := y
  have twin : m.Twin s t := replies.states
  have overdue : c.isOverdue s.now = c'.isOverdue t.now := by
    rw [Course.isOverdue, Course.isOverdue, courses.deadline, twin.clock]
  cases replies.results with
  | done o => exact ⟨twin.dropGuard scope scope', .inl rfl⟩
  | @pending f f' flights =>
    simp only [Router.judge, overdue]
    split
    · have down : m.Twin (Router.cutOff ⟨u, scope, inv, f⟩ s)
          (Router.cutOff ⟨u', scope', inv', f'⟩ t) := twin.cutOff tokens invs.work flights
      exact ⟨down, .inl rfl⟩
    · exact ⟨twin, .inr ⟨tokens, invs.mono twin.held_of_known, flights⟩⟩

namespace Twin

variable {s t : State} {call call' : Call} {c c' : Course}

/-- The next attempt finds its token cancelled in both runs or in none, since it is issued below
tokens that are cancelled together. -/
theorem isStopped_eq (twin : m.Twin s t) (calls : call.Alike m.known call') :
    call.isStopped s = call'.isStopped t :=
  twin.issueToken.isCancelled_eq
    ((twin.nextChild (calls.token.mono twin.held_of_known)).mono fun pair => pair.1)

/-- A launched attempt opens a scope that builds what the catalog offers. The scope is new in both
runs, so nothing that another call has had built is found in it. -/
theorem opened (twin : m.Twin s t) (courses : c.Alike c') (trial : Trial) :
    m.Twin (Router.opened c trial s) (Router.opened c' trial t) ∧
      (Router.resolution c trial s).Alike (Router.resolution c' trial t) := by
  have noted : m.Twin
      (s.issueToken.openScope.note (.resolving s.catalog.nextScope c.progress.current
        trial.implementation))
      (t.issueToken.openScope.note (.resolving t.catalog.nextScope c'.progress.current
        trial.implementation)) :=
    twin.issueToken.openScope.note (by rw [courses.progress]; rfl)
  have new (c : Catalog) : c.openScope.scope? c.nextScope = some {} :=
    List.getElem?_concat_length
  have resolved := noted.resolve (new s.catalog) (new t.catalog) trial.implementation
  exact ⟨noted.afterResolution resolved (Catalog.offers_resolve _ _ _)
    (Catalog.offers_resolve _ _ _), resolved⟩

/-- The next attempt starts alike: it is stopped, finds no trial, finds no implementation, or enters
its decorators in both runs. -/
theorem launch (twin : m.Twin s t) (plain : ∀ d ∈ router.pipeline, d.IsPlain)
    (calls : call.Alike m.known call') (courses : c.Alike c') :
    m.Agrees Ending.Alike (router.launch call c s) (router.launch call' c' t) := by
  have stopped := twin.isStopped_eq calls
  have key : c.progress.current = c'.progress.current := by rw [courses.progress]
  cases here : call.isStopped s with
  | true =>
    rw [Router.launch_of_stopped c here, Router.launch_of_stopped c' (stopped ▸ here)]
    exact ⟨twin.issueToken, .inl rfl⟩
  | false =>
    have there : call'.isStopped t = false := stopped ▸ here
    cases listed : router.registration.trial? c'.progress.current with
    | none =>
      rw [Router.launch_of_unlisted here (key ▸ listed), Router.launch_of_unlisted there listed,
        key]
      exact ⟨twin.issueToken, .inl rfl⟩
    | some trial =>
      obtain ⟨opened, resolved⟩ := twin.opened courses trial
      rw [Router.launch_of_listed here (key ▸ listed), Router.launch_of_listed there listed]
      rcases resolved.result_cases with
        ⟨e, failed, failedThere⟩ | ⟨made, made', built, builtThere, instances⟩
      · have told := opened.emit courses.spans ⟨.warn, "implementation resolution failed",
          [Trace.text "key" c'.progress.current, Trace.text "error" e.message]⟩
        simp only [failed, failedThere, key]
        exact ⟨told.dropGuard _ _, .inl rfl⟩
      · have invs : (Router.invocationOf call c made).Alike m.known
            (Router.invocationOf call' c' made') := by
          refine ⟨courses.attemptContext, calls.caller, ?_⟩
          simp only [Router.invocationOf, calls.request, calls.handsOut]
          exact .serve instances _ _
        have tokens := twin.nextChild (calls.token.mono twin.held_of_known)
        have entered := opened.enter invs courses.spans plain tokens
        simp only [built, builtThere]
        refine entered.judge courses invs (tokens.later ?_ ?_) _ _
        · exact (Invocation.enter_yields _ _ _ (Router.opened c trial s)).reaches.issued_le
        · exact (Invocation.enter_yields _ _ _ (Router.opened c' trial t)).reaches.issued_le

/-- An attempt that waited is resumed alike, or taken down in both runs if its token has been
cancelled. -/
theorem resumeAttempt (twin : m.Twin s t) (courses : c.Alike c') {a a' : Attempt}
    (attempts : a.Alike m.known a') :
    m.Agrees Ending.Alike (Router.resumeAttempt c a s) (Router.resumeAttempt c' a' t) := by
  have status : s.isCancelled a.token = t.isCancelled a'.token :=
    twin.isCancelled_eq (attempts.token.mono Meeting.same_of_known)
  simp only [Router.resumeAttempt, status]
  split
  · have down := twin.abandon attempts.flight attempts.invocation.work
    exact ⟨down.dropGuard _ _, .inl rfl⟩
  · have resumed := twin.resume attempts.invocation courses.spans attempts.flight
    exact resumed.judge courses attempts.invocation
      (attempts.token.mono resumed.states.held_of_known) _ _

/-! ### What follows an attempt -/

/-- A call reports alike. -/
theorem reportCall (twin : m.Twin s t) (courses : c.Alike c') (r : Telemetry.Report) :
    m.Twin (router.report c r s) (router.report c' r t) :=
  twin.report router.telemetry courses.spans courses.reporter r

/-- A call makes the same last reports. -/
theorem finish (twin : m.Twin s t) (courses : c.Alike c') (r : Telemetry.Report) :
    m.Twin (router.finish c r s) (router.finish c' r t) :=
  (twin.reportCall courses r).reportCall courses .disposed

/-- A missed deadline is noted alike. -/
theorem noteExpiry (twin : m.Twin s t) (courses : c.Alike c') (e : Ending) :
    m.Twin (Router.noteExpiry c e s) (Router.noteExpiry c' e t) := by
  simp only [Router.noteExpiry, courses.deadline, courses.progress]
  split
  · exact twin.emit courses.spans _
  · exact twin

/-- What has ended an attempt leads on alike. The plan that follows knows of keys and endings
only. -/
theorem conclude (twin : m.Twin s t) (router : Router) (calls : call.Alike m.known call')
    (courses : c.Alike c') (e : Ending) :
    m.Agrees (fun _ => Sum.LiftRel Eq Course.Alike) (router.conclude call c e s)
      (router.conclude call' c' e t) := by
  have verdict : router.verdict? c e = router.verdict? c' e := by
    simp only [Router.verdict?, courses.deadline, courses.progress]
  have noted := twin.noteExpiry courses e
  have status : (Router.noteExpiry c e s).isCancelled call.token =
      (Router.noteExpiry c' e t).isCancelled call'.token :=
    noted.isCancelled_eq (calls.token.mono Meeting.same_of_known)
  simp only [Router.conclude, verdict]
  cases router.verdict? c' e with
  | none => exact ⟨twin, .inl rfl⟩
  | some v =>
    obtain ⟨o, trigger, deadline⟩ := v
    simp only [status]
    split
    · exact ⟨noted.finish courses _, .inl rfl⟩
    · have reported : m.Twin (router.reportFailure c o (Router.noteExpiry c e s))
          (router.reportFailure c' o (Router.noteExpiry c' e t)) := by
        cases o with
        | ok v => exact noted
        | error f =>
          simp only [Router.reportFailure, courses.progress]
          exact noted.reportCall courses _
      simp only [courses.progress]
      obtain ⟨progress, move⟩ := c'.progress.advance router.registration o trigger
      cases move with
      | succeed v => exact ⟨reported.finish courses _, .inl rfl⟩
      | giveUp f => exact ⟨(reported.emit courses.spans _).finish courses _, .inl rfl⟩
      | attempt next =>
        exact ⟨(reported.emit courses.spans _).reportCall courses _,
          .inr { courses with progress := rfl, deadline := rfl }⟩

/-! ### Turns -/

/-- A call is pursued alike after an attempt has ended. The induction follows `pursue` through the
attempts that end at once. -/
theorem pursue (twin : m.Twin s t) (plain : ∀ d ∈ router.pipeline, d.IsPlain)
    (calls : call.Alike m.known call') (courses : c.Alike c') (e : Ending) :
    m.Agrees Step.Alike (router.pursue call c e s) (router.pursue call' c' e t) := by
  fun_induction Router.pursue router call c e s generalizing c' t with
  | case1 c e s s₁ o answer =>
    have concluded := twin.conclude router calls courses e
    rw [answer] at concluded
    obtain ⟨t₁, there, twin₁⟩ := concluded.of_inl
    rw [Router.pursue_of_outcome there]
    exact ⟨twin₁, .finished o⟩
  | case2 c e s s₁ next answer s₂ e' launched ih =>
    have concluded := twin.conclude router calls courses e
    rw [answer] at concluded
    obtain ⟨t₁, next', there, twin₁, courses₁⟩ := concluded.of_inr
    have started := twin₁.launch plain calls courses₁
    rw [launched] at started
    obtain ⟨t₂, launchedThere, twin₂⟩ := started.of_inl
    rw [Router.pursue_of_next there, launchedThere]
    exact ih twin₂ courses₁
  | case3 c e s s₁ next answer s₂ attempt launched =>
    have concluded := twin.conclude router calls courses e
    rw [answer] at concluded
    obtain ⟨t₁, next', there, twin₁, courses₁⟩ := concluded.of_inr
    have started := twin₁.launch plain calls courses₁
    rw [launched] at started
    obtain ⟨t₂, attempt', launchedThere, twin₂, attempts⟩ := started.of_inr
    rw [Router.pursue_of_next there, launchedThere]
    exact ⟨twin₂, .running (.attempting courses₁ attempts)⟩

/-- The counts of calls and of telemetry scopes are no part of the backdrop. -/
theorem withInvocations (twin : m.Twin s t) (n n' : Nat) :
    m.Twin { s with invocations := n } { t with invocations := n' } :=
  { twin with }

theorem withReporters (twin : m.Twin s t) (n n' : Nat) :
    m.Twin { s with reporters := n } { t with reporters := n' } :=
  { twin with }

/-- A selected call sets out alike. Its telemetry scope and its span have other numbers, and nothing
else is different. -/
theorem embark (twin : m.Twin s t) (router : Router) (calls : call.Alike m.known call')
    (selection : Selection) :
    m.Agrees (fun _ => Course.Alike) (router.embark call selection s)
      (router.embark call' selection t) := by
  have own : (s.nextSpan "invocation" s.invocations).anonymous =
      (t.nextSpan "invocation" t.invocations).anonymous := rfl
  have opened := (twin.withInvocations (s.invocations + 1) (t.invocations + 1)).openSpan own
    [Trace.text "service" router.registration.service, Trace.text "method" call'.method,
      Trace.text "key" selection.key, Trace.text "source" selection.source.text]
  have deadline : (router.embark call selection s).2.deadline =
      (router.embark call' selection t).2.deadline := by
    rw [Router.deadline_of_embark, Router.deadline_of_embark, twin.clock]
  have courses : (router.embark call selection s).2.Alike
      (router.embark call' selection t).2 := by
    refine ⟨?_, rfl, ?_, rfl, deadline⟩
    · simp only [Router.embark, calls.method]
      rfl
    · simp only [Router.embark, calls.method]
      rfl
  refine ⟨?_, courses⟩
  simp only [Router.embark, calls.method] at courses ⊢
  exact ((opened.withReporters _ _).reportCall courses .started).reportCall courses _

/-- A selected call starts its attempts alike. -/
theorem follow (twin : m.Twin s t) (plain : ∀ d ∈ router.pipeline, d.IsPlain)
    (calls : call.Alike m.known call') (selection : Selection) :
    m.Agrees Step.Alike (router.follow call selection s) (router.follow call' selection t) := by
  have embarked := twin.embark router calls selection
  have courses : (router.embark call selection s).2.Alike (router.embark call' selection t).2 :=
    embarked.results
  have launched := embarked.states.launch plain calls courses
  simp only [Router.follow]
  cases here : router.launch call (router.embark call selection s).2
      (router.embark call selection s).1 with
  | mk s₂ r =>
    rw [here] at launched
    cases r with
    | inl e =>
      obtain ⟨t₂, there, twin₂⟩ := launched.of_inl
      rw [there]
      exact twin₂.pursue plain calls courses e
    | inr a =>
      obtain ⟨t₂, a', there, twin₂, attempts⟩ := launched.of_inr
      rw [there]
      exact ⟨twin₂, .running (.attempting courses attempts)⟩

/-! ### Keys -/

/-- The generator is no part of the backdrop. -/
theorem withSeed (twin : m.Twin s t) (seed seed' : UInt64) :
    m.Twin { s with selector.seed := seed } { t with selector.seed := seed' } :=
  { twin with }

/-- A mode has been asked in both runs. -/
theorem afterAsking (twin : m.Twin s t) (r : Registration) (method : String) (mode : Mode) :
    m.Twin (s.afterAsking r method mode) (t.afterAsking r method mode) := by
  cases mode with
  | custom mode => exact twin.note rfl
  | booleanFlag => exact twin
  | configurationValue => exact twin
  | random => exact twin.withSeed _ _

/-- The modes registered in both runs are the same, and so are their opinions: both are the one of
the mode with the generator at zero. -/
theorem opinion_eq (twin : m.Twin s t) {r : Registration}
    (fixed : m.here.backdrop.selector.IsFixed r) :
    s.selector.mode? r.mode = t.selector.mode? r.mode ∧
      ∀ mode, t.selector.mode? r.mode = some mode → ∀ method,
        s.selector.opinion r method mode = t.selector.opinion r method mode := by
  have here : m.here.backdrop.selector = s.backdrop.selector :=
    congrArg Backdrop.selector twin.backdrop.symm
  have there : s.backdrop.selector = t.backdrop.selector :=
    congrArg Backdrop.selector twin.backdrop_eq
  have modes : s.backdrop.selector.modes = t.backdrop.selector.modes :=
    congrArg Selector.modes there
  have registered : s.selector.mode? r.mode = t.selector.mode? r.mode :=
    congrArg (Directory.lookup? · r.mode) modes
  rw [here] at fixed
  refine ⟨registered, fun mode known method => ?_⟩
  calc s.selector.opinion r method mode
      = s.backdrop.selector.opinion r method mode :=
        fixed mode (registered.trans known) s.selector.seed method
    _ = t.backdrop.selector.opinion r method mode := by rw [there]
    _ = t.selector.opinion r method mode :=
        ((there ▸ fixed) mode known t.selector.seed method).symm

/-- An opinion becomes a selection alike, since that depends on the trial only. -/
theorem settle (twin : m.Twin s t) (r : Registration) (opinion : Opinion) :
    m.Agrees (fun _ => Eq) (s.settle r opinion) (t.settle r opinion) :=
  ⟨twin.emit rfl _, rfl⟩

/-- A key is asked for alike. The window looks at the clock on the wall, which is part of the
backdrop. -/
theorem choose (twin : m.Twin s t) {r : Registration}
    (fixed : m.here.backdrop.selector.IsFixed r) (method : String) :
    m.Agrees (fun _ => Eq) (s.choose r method) (t.choose r method) := by
  have clock : s.wallClock = t.wallClock := congrArg Backdrop.wallClock twin.backdrop_eq
  have gated : m.Twin (s.afterGate (r.predicateCalls t.wallClock))
      (t.afterGate (r.predicateCalls t.wallClock)) := { twin with }
  obtain ⟨registered, opinions⟩ := gated.opinion_eq fixed
  simp only [State.choose, clock]
  cases r.inactive? method t.wallClock with
  | some reason => exact ⟨gated.emit rfl _, rfl⟩
  | none =>
    simp only [State.ask, registered]
    cases known : (t.afterGate (r.predicateCalls t.wallClock)).selector.mode? r.mode with
    | none => exact ⟨gated.emit rfl _, rfl⟩
    | some mode =>
      have asked := gated.afterAsking r method mode
      simp only [opinions mode known, asked.clock]
      split
      · exact ⟨(asked.settle r _).states, congrArg Asked.settled (asked.settle r _).results⟩
      · exact ⟨asked, rfl⟩

/-- A call arrives alike, and is refused in both runs or in neither. -/
theorem receive (twin : m.Twin s t) (fixed : m.here.backdrop.selector.IsFixed router.registration)
    (calls : call.Alike m.known call') :
    m.Agrees (fun _ => Eq) (router.receive call s) (router.receive call' t) := by
  have status : s.isCancelled call.token = t.isCancelled call'.token :=
    twin.isCancelled_eq (calls.token.mono Meeting.same_of_known)
  simp only [Router.receive, status, calls.method]
  split
  · exact ⟨twin.emit rfl _, rfl⟩
  · have chosen := twin.choose fixed call'.method
    exact ⟨chosen.states, congrArg Sum.inr chosen.results⟩

/-! ### Whole turns -/

/-- A call starts alike: it is refused, waits for its mode, or starts its first attempt in both
runs. -/
theorem start (twin : m.Twin s t) (plain : ∀ d ∈ router.pipeline, d.IsPlain)
    (fixed : m.here.backdrop.selector.IsFixed router.registration)
    (calls : call.Alike m.known call') :
    m.Agrees Step.Alike (router.start call s) (router.start call' t) := by
  have received := twin.receive fixed calls
  simp only [Router.start]
  cases here : router.receive call s with
  | mk s₁ r =>
    cases there : router.receive call' t with
    | mk t₁ r' =>
      rw [here, there] at received
      have same : r = r' := received.results
      have twin₁ : m.Twin s₁ t₁ := received.states
      subst same
      cases r with
      | inl o => exact ⟨twin₁, .finished o⟩
      | inr asked =>
        cases asked with
        | settled selection => exact twin₁.follow plain calls selection
        | waiting due opinion => exact ⟨twin₁, .running (.selecting due opinion)⟩

/-- A call that waited is resumed alike, from the same stage of both. -/
theorem resumeCall (twin : m.Twin s t) (plain : ∀ d ∈ router.pipeline, d.IsPlain)
    (calls : call.Alike m.known call') {stage stage' : Stage}
    (stages : stage.Alike m.known stage') :
    m.Agrees Step.Alike (router.resume call stage s) (router.resume call' stage' t) := by
  cases stages with
  | selecting due opinion =>
    simp only [Router.resume, twin.clock]
    split
    · have settled := twin.settle router.registration opinion
      have same : (s.settle router.registration opinion).2 =
        (t.settle router.registration opinion).2 := settled.results
      rw [same]
      exact settled.states.follow plain calls _
    · exact ⟨twin, .running (.selecting due opinion)⟩
  | @attempting c c' a a' courses attempts =>
    have resumed := twin.resumeAttempt courses attempts
    simp only [Router.resume]
    cases here : Router.resumeAttempt c a s with
    | mk s₁ r =>
      rw [here] at resumed
      cases r with
      | inl e =>
        obtain ⟨t₁, there, twin₁⟩ := resumed.of_inl
        rw [there]
        exact twin₁.pursue plain calls courses e
      | inr b =>
        obtain ⟨t₁, b', there, twin₁, attempts₁⟩ := resumed.of_inr
        rw [there]
        exact ⟨twin₁, .running (.attempting courses attempts₁)⟩

/-- A call is taken down alike. -/
theorem abandonCall (twin : m.Twin s t) {R : Pairing} {stage stage' : Stage}
    (stages : stage.Alike R stage') :
    m.Twin (router.abandon stage s) (router.abandon stage' t) := by
  cases stages with
  | selecting due opinion => exact twin
  | attempting courses attempts =>
    have down := twin.abandon attempts.flight attempts.invocation.work
    exact (down.dropGuard _ _).reportCall courses .disposed

end Twin

end Meeting

/-! ### What keeps a call waiting -/

/-- The tokens of an attempt and of its work: a waiting attempt looks at no others. -/
def Attempt.watched (a : Attempt) : List Token :=
  a.token :: a.flight.worker?.toList

/-- None of the tokens that an attempt looks at is cancelled. -/
def Attempt.IsFree (a : Attempt) (s : State) : Prop :=
  ∀ u ∈ a.watched, s.isCancelled u = false

/-- If any of them is cancelled in a state, it is the caller's, and it was not in a state before. -/
def Attempt.IsFreeBut (a : Attempt) (caller : Token) (s s' : State) : Prop :=
  ∀ u ∈ a.watched, ∀ i ∈ u.id :: u.above, i ∈ s'.tokens.cancelled →
    i = caller.id ∧ i ∉ s.tokens.cancelled

theorem Attempt.isFree_of_worker {a : Attempt} {s : State} (own : s.isCancelled a.token = false)
    (work : ∀ u, a.flight.worker? = some u → s.isCancelled u = false) : a.IsFree s := by
  intro u member
  rcases List.mem_cons.mp member with rfl | worker
  · exact own
  · exact work u (Option.mem_toList.mp worker)

/-- A token none of whose chain is cancelled. -/
theorem TokenForest.isCancelled_eq_false_iff {f : TokenForest} {u : Token} :
    f.isCancelled u = false ↔ ∀ i ∈ u.id :: u.above, i ∉ f.cancelled := by
  simp only [isCancelled, List.any_eq_false, List.contains_eq_mem, decide_eq_true_eq]

namespace Attempt.IsFreeBut

variable {a : Attempt} {caller : Token} {s s' s'' : State}

/-- After an attempt was free, its caller's token has been cancelled at most. So the turn itself is
to blame for whatever is cancelled. -/
theorem of_isFree (free : a.IsFree s)
    (few : ∀ i ∈ s'.tokens.cancelled, i ∈ s.tokens.cancelled ∨ i = caller.id) :
    a.IsFreeBut caller s s' := by
  intro u watched i member after
  have before : i ∉ s.tokens.cancelled :=
    TokenForest.isCancelled_eq_false_iff.mp (free u watched) i member
  exact ⟨(few i after).resolve_left before, before⟩

/-- What is cancelled stays cancelled, so an earlier state will do as well. -/
theorem since (free : a.IsFreeBut caller s' s'')
    (kept : ∀ i ∈ s.tokens.cancelled, i ∈ s'.tokens.cancelled) : a.IsFreeBut caller s s'' := by
  intro u watched i member after
  obtain ⟨own, before⟩ := free u watched i member after
  exact ⟨own, fun cancelled => before (kept i cancelled)⟩

end Attempt.IsFreeBut

namespace Router

variable {router : Router} {call : Call} {c : Course} {a b : Attempt} {s s' : State}

/-- A call whose attempt is free goes on waiting until something it waits for has come. A turn in
between does nothing. -/
theorem resume_of_waiting {R : Pairing} {stage stage' : Stage} (plain : stage.Alike R stage')
    (ahead : ∀ t ∈ timers stage, s.now < t)
    (free : ∀ c a, stage = .attempting c a → a.IsFree s) :
    router.resume call stage s = (s, .running stage) := by
  cases plain with
  | selecting due opinion =>
    have notYet : ¬ due ≤ s.now := Nat.not_le_of_gt (ahead due List.mem_cons_self)
    simp only [resume, notYet, if_false]
  | @attempting c _ a _ _ attempts =>
    have own : s.isCancelled a.token = false := free c a rfl a.token List.mem_cons_self
    have work : ∀ u, a.flight.worker? = some u → s.isCancelled u = false := fun u worker =>
      free c a rfl u (List.mem_cons_of_mem _ (Option.mem_toList.mpr worker))
    have waits : a.invocation.resume (some c.span) a.flight s = (s, .pending a.flight) :=
      Invocation.resume_of_waiting _ attempts.flight
        (fun t member => ahead t (List.mem_append_right _ member)) work
    have inTime : c.isOverdue s.now = false := by
      cases deadline : c.deadline with
      | none => simp [Course.isOverdue, deadline]
      | some bounds =>
        have member : bounds.1 ∈ timers (.attempting c a) := by simp [timers, deadline]
        simpa [Course.isOverdue, deadline] using ahead _ member
    simp only [resume, resumeAttempt, own, waits, judge, inTime, Bool.false_eq_true, if_false]

/-- A launched attempt that waits was free, and has cancelled the caller's token at most. -/
theorem isFree_of_launch (plain : ∀ d ∈ router.pipeline, d.IsPlain)
    (launched : router.launch call c s = (s', .inr a)) : a.IsFreeBut call.caller s s' := by
  cases free : call.isStopped s with
  | true => simp [launch_of_stopped c free] at launched
  | false =>
    cases listed : router.registration.trial? c.progress.current with
    | none => simp [launch_of_unlisted free listed] at launched
    | some trial =>
      rw [launch_of_listed free listed] at launched
      split at launched
      · cases launched
      · next made _ =>
        cases entered : (invocationOf call c made).enter (some c.span) router.pipeline
            (s.tokens.nextChild call.token) (opened c trial s) with
        | mk s₁ reply =>
          rw [entered] at launched
          cases reply with
          | done o => cases launched
          | pending flight =>
            simp only [judge] at launched
            split at launched
            · cases launched
            · cases launched
              obtain ⟨few, work⟩ := Invocation.waiting_of_enter _ plain entered
              exact .of_isFree (s := opened c trial s) (Attempt.isFree_of_worker free work) few

/-- A resumed attempt that goes on waiting is free, and nothing has been done. -/
theorem isFree_of_resumeAttempt {R : Pairing} {a' : Attempt} (attempts : a.Alike R a')
    (resumed : resumeAttempt c a s = (s', .inr b)) : s' = s ∧ b = a ∧ a.IsFree s := by
  simp only [resumeAttempt] at resumed
  split at resumed
  · cases resumed
  · next own =>
    cases inside : a.invocation.resume (some c.span) a.flight s with
    | mk s₁ reply =>
      rw [inside] at resumed
      cases reply with
      | done o => cases resumed
      | pending flight =>
        obtain ⟨rfl, rfl, work⟩ := Invocation.waiting_of_resume _ attempts.flight inside
        simp only [judge] at resumed
        split at resumed
        · cases resumed
        · cases resumed
          exact ⟨rfl, rfl, Attempt.isFree_of_worker (Bool.not_eq_true _ ▸ own) work⟩

/-- A call that is pursued until an attempt waits. The attempts passed on the way have cancelled the
caller's token at most, and so has the one that waits. -/
theorem isFree_of_pursue (plain : ∀ d ∈ router.pipeline, d.IsPlain)
    (known : call.caller.id < s.tokens.issued) {e : Ending}
    {c' : Course}
    (pursued : router.pursue call c e s = (s', .running (.attempting c' a))) :
    a.IsFreeBut call.caller s s' := by
  fun_induction pursue router call c e s with
  | case1 c e s s₁ o answer => cases pursued
  | case2 c e s s₁ next answer s₂ e' launched ih =>
    have tokens : s₁.tokens = s.tokens := (router.aside_conclude answer).tokens
    have known₁ : call.caller.id < s₁.tokens.issued := tokens ▸ known
    have grows := Journey.grows_of_launch known₁ launched
    exact (ih (Nat.lt_of_lt_of_le known₁ grows.issued) pursued).since
      fun i cancelled => grows.cancelled i (tokens ▸ cancelled)
  | case3 c e s s₁ next answer s₂ attempt launched =>
    cases pursued
    have tokens : s₁.tokens = s.tokens := (router.aside_conclude answer).tokens
    exact (isFree_of_launch plain launched).since fun i cancelled => tokens ▸ cancelled

/-- A selected call that waits for its attempt. -/
theorem isFree_of_follow (plain : ∀ d ∈ router.pipeline, d.IsPlain)
    (known : call.caller.id < s.tokens.issued) {selection : Selection}
    (followed : router.follow call selection s = (s', .running (.attempting c a))) :
    a.IsFreeBut call.caller s s' := by
  have tokens : (router.embark call selection s).1.tokens = s.tokens :=
    (router.aside_embark call selection s).tokens
  have known₁ : call.caller.id < (router.embark call selection s).1.tokens.issued :=
    tokens ▸ known
  simp only [follow] at followed
  split at followed
  · next launched =>
    have grows := Journey.grows_of_launch known₁ launched
    exact (isFree_of_pursue plain (Nat.lt_of_lt_of_le known₁ grows.issued) followed).since
      fun i cancelled => grows.cancelled i (tokens ▸ cancelled)
  · next launched =>
    cases followed
    exact (isFree_of_launch plain launched).since fun i cancelled => tokens ▸ cancelled

/-- A call that waits for its attempt once it has started. -/
theorem isFree_of_start (plain : ∀ d ∈ router.pipeline, d.IsPlain)
    (known : call.caller.id < s.tokens.issued)
    (started : router.start call s = (s', .running (.attempting c a))) :
    a.IsFreeBut call.caller s s' := by
  simp only [start] at started
  split at started
  · cases started
  · next answer =>
    have tokens := (router.aside_receive answer).tokens
    exact (isFree_of_follow plain (tokens ▸ known) started).since
      fun i cancelled => tokens ▸ cancelled
  · cases started

/-- A call that waits for its attempt once it has been resumed. What the attempt before has
cancelled on its way out stays cancelled. -/
theorem isFree_of_turn (plain : ∀ d ∈ router.pipeline, d.IsPlain)
    (known : call.caller.id < s.tokens.issued) {R : Pairing} {stage stage' : Stage}
    (stages : stage.Alike R stage') (issued : ∀ {i j}, R i j → i < s.tokens.issued)
    (resumed : router.resume call stage s = (s', .running (.attempting c a))) :
    a.IsFreeBut call.caller s s' := by
  cases stages with
  | selecting due opinion =>
    have tokens := (State.aside_settle s router.registration opinion).tokens
    simp only [resume] at resumed
    split at resumed
    · exact (isFree_of_follow plain (tokens ▸ known) resumed).since
        fun i cancelled => tokens ▸ cancelled
    · cases resumed
  | @attempting c₀ _ a₀ _ courses attempts =>
    simp only [resume] at resumed
    split at resumed
    · next s₁ e left =>
      have grows : s.tokens.Grows s₁.tokens := by
        obtain ⟨last, reaches, rfl⟩ := ended_of_resume (attempts.flight.issued issued)
          (issued attempts.token.id) left
        exact reaches.grows (issued attempts.invocation.caller.id)
      exact (isFree_of_pursue plain (Nat.lt_of_lt_of_le known grows.issued) resumed).since
        grows.cancelled
    · next waits =>
      obtain ⟨rfl, rfl, free⟩ := isFree_of_resumeAttempt attempts waits
      cases resumed
      exact .of_isFree free fun i before => .inl before

end Router

end TrialRouting
