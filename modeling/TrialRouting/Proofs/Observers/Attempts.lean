import TrialRouting.Router

/-!
# Attempts without their observers

Logging decorators and telemetry watch what calls do and write it down. Here an attempt is run
twice: inside all its decorators, and inside those that are left once the logging ones have been
deleted, wherever they stood. The second run is in the first one's state but for what observers
have written, and waits inside the same decorators but for the logging ones.

Entering goes by the decorators that are still to be entered, resuming and taking down by those
that the flight is inside of. A logging decorator is there on one side only: it hands its inside
on unchanged, so the other side takes no step.
-/

namespace TrialRouting

/-- Whether a decorator only logs. -/
def Decorator.isLogging : Decorator → Bool
  | .logging _ => true
  | _ => false

/-- A pipeline without its logging decorators. -/
def Pipeline.unlogged (pipeline : Pipeline) : Pipeline :=
  pipeline.filter (!·.isLogging)

/-- A decorator that does not log is still in the pipeline, in front of what is left of the
others. -/
theorem Pipeline.unlogged_cons (d : Decorator) (rest : List Decorator)
    (acts : d.isLogging = false) : unlogged (d :: rest) = d :: unlogged rest := by
  simp only [unlogged, List.filter_cons, acts, Bool.not_false, if_true]

/-- Whether a line is one that telemetry has recorded. -/
def Note.isReport : Note → Bool
  | .telemetry _ _ => true
  | _ => false

/-- The lines of the journal that tell what calls did: scopes and implementations, modes,
decorators and the work, without the reports of telemetry. -/
def State.deeds (s : State) : List Note :=
  s.journal.filter (!·.isReport)

/-- Two states that only differ by what observers have written: the trace, the metrics, the reports
in the journal, and the numbers of spans. -/
structure State.RoutesAs (s t : State) : Prop where
  now : s.now = t.now
  timer : s.timer = t.timer
  tokens : s.tokens = t.tokens
  handedOut : s.handedOut = t.handedOut
  circuits : s.circuits = t.circuits
  limiters : s.limiters = t.limiters
  catalog : s.catalog = t.catalog
  selector : s.selector = t.selector
  wallClock : s.wallClock = t.wallClock
  predicateCalls : s.predicateCalls = t.predicateCalls
  invocations : s.invocations = t.invocations
  reporters : s.reporters = t.reporters
  deeds : s.deeds = t.deeds

namespace State.RoutesAs

variable {s t u : State}

theorem refl (s : State) : s.RoutesAs s :=
  ⟨rfl, rfl, rfl, rfl, rfl, rfl, rfl, rfl, rfl, rfl, rfl, rfl, rfl⟩

theorem isCancelled_eq (same : s.RoutesAs t) (token : Token) :
    s.isCancelled token = t.isCancelled token := by
  rw [isCancelled, isCancelled, same.tokens]

/-! ### What observers write -/

/-- What one run writes to its trace and metrics does not show in the other. Nothing that routes a
call reads them. -/
theorem written (same : s.RoutesAs t) (trace : List Trace.Entry) (samples : List Telemetry.Sample)
    (spans : Nat) : ({ s with trace, samples, spans } : State).RoutesAs t :=
  { same with }

/-- Nor does what the other writes. -/
theorem writtenThere (same : s.RoutesAs t) (trace : List Trace.Entry)
    (samples : List Telemetry.Sample) (spans : Nat) :
    s.RoutesAs { t with trace, samples, spans } :=
  { same with }

theorem emit (same : s.RoutesAs t) (span span' : Option Trace.Span) (e e' : Trace.Event) :
    (s.emit span e).RoutesAs (t.emit span' e') :=
  (same.written _ _ _).writtenThere _ _ _

/-- A report only writes, and what it writes is no deed. This holds of each provider, the silent one
included. -/
theorem report_eq (s : State) (provider : Telemetry.Provider) (span : Option Trace.Span)
    (scope : Telemetry.Scope) (r : Telemetry.Report) :
    ∃ journal trace samples, s.report provider span scope r = { s with journal, trace, samples } ∧
      journal.filter (!·.isReport) = s.deeds := by
  cases provider with
  | silent => exact ⟨_, _, _, rfl, rfl⟩
  | metrics => exact ⟨_, _, _, rfl, rfl⟩
  | recorder =>
    refine ⟨s.journal ++ [.telemetry scope r], _, _, rfl, ?_⟩
    rw [List.filter_append]
    exact List.append_nil _
  | tracing =>
    simp only [State.report]
    split
    · exact ⟨_, _, _, rfl, rfl⟩
    · exact ⟨_, _, _, rfl, rfl⟩

/-- Whatever providers reports go to, calls are routed alike. The two runs need not even report the
same. -/
theorem report (same : s.RoutesAs t) (provider provider' : Telemetry.Provider)
    (span span' : Option Trace.Span) (scope : Telemetry.Scope) (r : Telemetry.Report) :
    (s.report provider span scope r).RoutesAs (t.report provider' span' scope r) := by
  obtain ⟨journal, trace, samples, here, deeds⟩ := report_eq s provider span scope r
  obtain ⟨journal', trace', samples', there, deeds'⟩ := report_eq t provider' span' scope r
  rw [here, there]
  exact { same with deeds := deeds.trans (same.deeds.trans deeds'.symm) }

/-! ### What calls do -/

theorem notes (same : s.RoutesAs t) (ns : List Note) : (s.notes ns).RoutesAs (t.notes ns) := by
  have grown (s : State) : (s.notes ns).deeds = s.deeds ++ ns.filter (!·.isReport) :=
    List.filter_append ..
  exact { same with deeds := by rw [grown, grown, same.deeds] }

theorem note (same : s.RoutesAs t) (n : Note) : (s.note n).RoutesAs (t.note n) :=
  same.notes [n]

theorem issueToken (same : s.RoutesAs t) : s.issueToken.RoutesAs t.issueToken :=
  { same with tokens := congrArg TokenForest.issue same.tokens }

theorem cancel (same : s.RoutesAs t) (token : Token) :
    (s.cancel token).RoutesAs (t.cancel token) :=
  { same with tokens := congrArg (·.cancel token) same.tokens }

theorem handOut (same : s.RoutesAs t) (token : Token) :
    (s.handOut token).RoutesAs (t.handOut token) :=
  { same with handedOut := congrArg (· ++ [token]) same.handedOut }

theorem updateCircuits (same : s.RoutesAs t) (slot : Nat) (f : Circuits → Circuits) :
    (s.updateCircuits slot f).RoutesAs (t.updateCircuits slot f) :=
  { same with circuits := congrArg (·.modify slot f) same.circuits }

theorem updateLimiter (same : s.RoutesAs t) (slot : Nat) (f : Limiter → Limiter) :
    (s.updateLimiter slot f).RoutesAs (t.updateLimiter slot f) :=
  { same with limiters := congrArg (·.modify slot f) same.limiters }

theorem withCatalog (same : s.RoutesAs t) (c : Catalog) :
    ({ s with catalog := c } : State).RoutesAs { t with catalog := c } :=
  { same with catalog := rfl }

theorem circuitsAt_eq (same : s.RoutesAs t) (slot : Nat) :
    s.circuitsAt slot = t.circuitsAt slot := by
  rw [circuitsAt, circuitsAt, same.circuits]

theorem limiterAt_eq (same : s.RoutesAs t) (slot : Nat) : s.limiterAt slot = t.limiterAt slot := by
  rw [limiterAt, limiterAt, same.limiters]

end State.RoutesAs

/-! ### Flights -/

/-- A flight without the logging decorators it is inside of, and those it has still to enter. -/
def Flight.unlogged : Flight → Flight
  | .within (.logging _ _) inner => inner.unlogged
  | .within frame inner => .within frame inner.unlogged
  | .entering due i token rest => .entering due i token (Pipeline.unlogged rest)
  | .working due token o => .working due token o
  | .leaving due i o => .leaving due i o

/-- A reply without the logging decorators. -/
def Reply.unlogged : Reply → Reply
  | .done o => .done o
  | .pending flight => .pending flight.unlogged

/-- What two runs have come to: they route alike, and the results are as they should be. -/
structure State.Alongside {α β : Type} (R : α → β → Prop) (x : State × α) (y : State × β) :
    Prop where
  states : x.1.RoutesAs y.1
  results : R x.2 y.2

/-- What an attempt comes to inside all its decorators, and inside those that do not log. -/
abbrev Reply.Bares : State × Reply → State × Reply → Prop :=
  State.Alongside fun r r' => r' = r.unlogged

/-- A flight waits for the same instants without its logging decorators. So the clock moves on to
the same instants in both runs. -/
theorem Flight.timers_unlogged (flight : Flight) : flight.unlogged.timers = flight.timers := by
  induction flight with
  | within frame inner ih =>
    cases frame with
    | timeout token due limit => exact congrArg (due.toList ++ ·) ih
    | logging _ _ => exact ih
    | circuit _ _ => exact ih
    | permit _ => exact ih
    | intercepted _ => exact ih
  | entering _ _ _ _ => rfl
  | working _ _ _ => rfl
  | leaving _ _ _ => rfl

/-- A decorator that does not log is still around the flight. -/
theorem Flight.unlogged_within {frame : Frame} (inner : Flight)
    (acts : ∀ span since, frame ≠ .logging span since) :
    (Flight.within frame inner).unlogged = .within frame inner.unlogged := by
  cases frame with
  | logging span since => exact absurd rfl (acts span since)
  | _ => rfl

namespace Invocation

variable {inv : Invocation} {s t : State} {x y : State × Reply} {outer outer' : Option Trace.Span}

/-- A decorator gives back the same. -/
theorem release_bare (same : s.RoutesAs t) (frame : Frame) (key : String) :
    (frame.release key s).RoutesAs (frame.release key t) := by
  cases frame with
  | circuit slot a => exact same.updateCircuits slot _
  | permit slot => exact same.updateLimiter slot _
  | logging _ _ => exact same
  | timeout _ _ _ => exact same
  | intercepted _ => exact same

/-- An attempt is taken down alike, by induction on what it is inside of. A logging decorator is
skipped on one side. -/
theorem abandon_bare (same : s.RoutesAs t) (flight : Flight) :
    (inv.abandon flight s).RoutesAs (inv.abandon flight.unlogged t) := by
  induction flight generalizing s t with
  | within frame inner ih =>
    cases frame with
    | logging span since => exact ih same
    | _ => exact release_bare (ih same) _ _
  | working _ _ _ => exact same.note _
  | entering _ _ _ _ => exact same
  | leaving _ _ _ => exact same

/-- Leaving a logging decorator only writes. The other run takes no step for it. -/
theorem logOutcome_bare (same : s.RoutesAs t) (span : Trace.Span) (since : Instant) (o : Outcome) :
    (inv.logOutcome span since o s).RoutesAs t := by
  cases o with
  | ok v => exact same.written _ _ _
  | error f => exact same.written _ _ _

/-- A circuit learns the same, though the event that says so may be in another span. -/
theorem settleCircuit_bare (same : s.RoutesAs t) (slot : Nat) (a : Admission) (o : Outcome) :
    (inv.settleCircuit outer slot a o s).RoutesAs (inv.settleCircuit outer' slot a o t) := by
  unfold settleCircuit
  split
  · exact same.updateCircuits slot _
  · exact same.updateCircuits slot _
  · simp only [same.circuitsAt_eq, same.now]
    have failed := same.updateCircuits slot (·.fail inv.context.key a t.now)
    split
    · exact failed.emit _ _ _ _
    · exact failed

/-- Other decorators are left alike. -/
theorem leave_bare (same : s.RoutesAs t) {frame : Frame}
    (acts : ∀ span since, frame ≠ .logging span since) (o : Outcome) :
    Reply.Bares (inv.leave outer frame o s) (inv.leave outer' frame o t) := by
  cases frame with
  | logging span since => exact absurd rfl (acts span since)
  | timeout _ _ _ => exact ⟨same, rfl⟩
  | circuit slot a => exact ⟨settleCircuit_bare same slot a o, rfl⟩
  | permit slot => exact ⟨same.updateLimiter slot _, rfl⟩
  | intercepted i =>
    simp only [leave, same.now]
    split
    · exact ⟨same.notes _, rfl⟩
    · exact ⟨same, rfl⟩

/-- A logging decorator hands on what its inside has come to. So what the one run has around it is
what the other has without it. -/
theorem around_logging_bare (inside : Reply.Bares x y) (span : Trace.Span) (since : Instant) :
    Reply.Bares (inv.around outer (.logging span since) x) y := by
  obtain ⟨s, reply⟩ := x
  cases reply with
  | done o => exact ⟨logOutcome_bare inside.states span since o, inside.results⟩
  | pending inner => exact ⟨inside.states, inside.results⟩

/-- Other decorators make the same of alike insides, at the same instant. -/
theorem around_bare (inside : Reply.Bares x y) {frame : Frame}
    (acts : ∀ span since, frame ≠ .logging span since) :
    Reply.Bares (inv.around outer frame x) (inv.around outer' frame y) := by
  obtain ⟨s, reply⟩ := x
  obtain ⟨t, reply'⟩ := y
  obtain rfl : reply' = reply.unlogged := inside.results
  have same : s.RoutesAs t := inside.states
  cases reply with
  | done o => exact leave_bare same acts o
  | pending inner =>
    have waiting : Reply.Bares (s, .pending (.within frame inner))
        (t, .pending (.within frame inner.unlogged)) :=
      ⟨same, congrArg Reply.pending (Flight.unlogged_within inner acts).symm⟩
    simp only [around, Reply.unlogged, same.now]
    split
    · cases frame with
      | timeout token due limit =>
        exact ⟨((abandon_bare same inner).cancel token).emit _ _ _ _, rfl⟩
      | logging span since => exact absurd rfl (acts span since)
      | circuit _ _ => exact waiting
      | permit _ => exact waiting
      | intercepted _ => exact waiting
    · exact waiting

/-- The work starts alike. -/
theorem begin_bare (same : s.RoutesAs t) (token : Token) :
    Reply.Bares (inv.begin token s) (inv.begin token t) := by
  have behaves : inv.work.behavior s = inv.work.behavior t := by
    cases inv.work with
    | bare _ _ _ => rfl
    | serve made request _ => simp only [Work.behavior, same.catalog]
  have handed {s t : State} (same : s.RoutesAs t) :
      (if inv.work.handsOut then s.handOut token else s).RoutesAs
        (if inv.work.handsOut then t.handOut token else t) := by
    split
    · exact same.handOut token
    · exact same
  have cancels {s t : State} (same : s.RoutesAs t) (b : Bool) :
      (if b then s.cancel inv.caller else s).RoutesAs (if b then t.cancel inv.caller else t) := by
    split
    · exact same.cancel _
    · exact same
  have started : (inv.work.start s inv.caller token).RoutesAs
      (inv.work.start t inv.caller token) := by
    unfold Work.start
    simp only [behaves]
    refine cancels (handed ?_) _
    cases inv.work with
    | bare _ _ _ => exact same.note _
    | serve made request _ =>
      have counted := (same.note (.called made request)).withCatalog
        (t.catalog.countRequest made)
      simp only [State.note] at counted ⊢
      rw [same.catalog]
      exact counted
  simp only [begin, behaves, same.isCancelled_eq, started.now]
  split
  · exact ⟨same, rfl⟩
  · split
    · exact ⟨started, rfl⟩
    · split
      · exact ⟨started, rfl⟩
      · exact ⟨started, rfl⟩

/-- An interceptor is never a logging decorator. -/
theorem intercepted_acts (i : Interceptor) (span : Trace.Span) (since : Instant) :
    Frame.intercepted i ≠ .logging span since :=
  nofun

/-- An interceptor goes on alike if the rest of the chain does. -/
theorem proceed_bare (same : s.RoutesAs t) (i : Interceptor) (token : Token)
    {run run' : Token → State → State × Reply}
    (rest : ∀ token {s t : State}, s.RoutesAs t → Reply.Bares (run token s) (run' token t)) :
    Reply.Bares (inv.proceed outer i token run s) (inv.proceed outer' i token run' t) := by
  unfold proceed
  split
  · exact ⟨same, rfl⟩
  · simp only [same.tokens]
    split
    · exact around_bare (rest _ (same.issueToken.cancel _)) (intercepted_acts i)
    · exact around_bare (rest _ same) (intercepted_acts i)

/-- An interceptor is met alike. -/
theorem meet_bare (same : s.RoutesAs t) (i : Interceptor) (token : Token) (rest : List Decorator)
    {run run' : Token → State → State × Reply}
    (others : ∀ token {s t : State}, s.RoutesAs t → Reply.Bares (run token s) (run' token t)) :
    Reply.Bares (inv.meet outer i token rest run s)
      (inv.meet outer' i token (Pipeline.unlogged rest) run' t) := by
  have remarked :
      (s.notes ((i.enterRemarks inv.context (s.isCancelled token)).map .remark)).RoutesAs
      (t.notes ((i.enterRemarks inv.context (t.isCancelled token)).map .remark)) := by
    rw [same.isCancelled_eq]
    exact same.notes _
  have met : (if i.cancelsCaller then
        (s.notes ((i.enterRemarks inv.context (s.isCancelled token)).map .remark)).cancel inv.caller
      else s.notes ((i.enterRemarks inv.context (s.isCancelled token)).map .remark)).RoutesAs
      (if i.cancelsCaller then
        (t.notes ((i.enterRemarks inv.context (t.isCancelled token)).map .remark)).cancel inv.caller
      else t.notes ((i.enterRemarks inv.context (t.isCancelled token)).map .remark)) := by
    split
    · exact remarked.cancel _
    · exact remarked
  unfold meet
  split
  · dsimp only
    split
    · exact proceed_bare met i token others
    · exact ⟨met, by rw [met.now]; rfl⟩
  · exact others token same

/-- The decorators are entered alike, with the logging ones and without. The induction follows the
decorators of the longer list. -/
theorem enter_bare (same : s.RoutesAs t) (outer outer' : Option Trace.Span)
    (decorators : List Decorator) (token : Token) :
    Reply.Bares (inv.enter outer decorators token s)
      (inv.enter outer' (Pipeline.unlogged decorators) token t) := by
  induction decorators generalizing outer outer' token s t with
  | nil => exact begin_bare same token
  | cons d rest ih =>
    cases d with
    | logging router =>
      exact around_logging_bare (ih (same.written _ _ _) _ _ _) _ _
    | timeout limit =>
      simp only [enter, Pipeline.unlogged_cons (.timeout limit) rest rfl, same.now, same.timer,
        same.tokens]
      exact around_bare (ih same.issueToken _ _ _) nofun
    | circuitBreaker slot =>
      have arrived := same.updateCircuits slot (·.arrive inv.context.key t.now)
      simp only [enter, Pipeline.unlogged_cons (.circuitBreaker slot) rest rfl,
        same.circuitsAt_eq, same.now]
      split
      · exact ⟨arrived.emit _ _ _ _, rfl⟩
      · exact around_bare (ih arrived _ _ _) nofun
    | concurrencyLimit slot =>
      simp only [enter, Pipeline.unlogged_cons (.concurrencyLimit slot) rest rfl, same.limiterAt_eq]
      split
      · exact ⟨same.emit _ _ _ _, rfl⟩
      · exact around_bare (ih (same.updateLimiter slot _) _ _ _) nofun
    | interceptor i =>
      exact meet_bare same i token rest fun token _ _ same => ih same outer outer' token

/-- An attempt that waited is resumed alike, by induction on what it waits inside of. -/
theorem resume_bare (same : s.RoutesAs t) (outer outer' : Option Trace.Span) (flight : Flight) :
    Reply.Bares (inv.resume outer flight s) (inv.resume outer' flight.unlogged t) := by
  induction flight generalizing outer outer' with
  | within frame inner ih =>
    cases frame with
    | logging span since => exact around_logging_bare (ih _ _) span since
    | _ => exact around_bare (ih _ _) nofun
  | entering due i token rest =>
    simp only [resume, Flight.unlogged, same.now]
    split
    · exact proceed_bare same i token fun token _ _ same => enter_bare same _ _ rest token
    · exact ⟨same, rfl⟩
  | working due token o =>
    simp only [resume, Flight.unlogged, same.now, same.isCancelled_eq]
    split
    · exact ⟨same.note _, rfl⟩
    · split
      · exact ⟨same, rfl⟩
      · exact ⟨same, rfl⟩
  | leaving due i o =>
    simp only [resume, Flight.unlogged, same.now]
    split
    · exact ⟨same.notes _, rfl⟩
    · exact ⟨same, rfl⟩

end Invocation

end TrialRouting
