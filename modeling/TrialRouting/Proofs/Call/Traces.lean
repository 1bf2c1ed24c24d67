import TrialRouting.Proofs.Attempt.Spans
import TrialRouting.Proofs.Call.Route
import TrialRouting.Proofs.Call.World

/-!
# What a call writes to the trace

Until it has its key a call writes outside all spans. Then it opens the span around all of its
attempts, and whatever the router itself says about the call from there on is in that span: that
the deadline has passed, that another key is tried, that there is none left, that an implementation
cannot be had, and the reports of its telemetry if those are traced. An attempt leaves its trail
inside that span.

The lemmas here give the entries of each part of a call exactly.
-/

namespace TrialRouting

open Trace (Entry Event Span inside)

/-! ### Outside all spans -/

/-- What is written from one state to another is outside all spans. So it belongs to no call and to
no attempt. -/
def State.AddsOutside (s s' : State) : Prop :=
  ∃ added, s.Adds s' added ∧ ∀ x ∈ added, x.span? = none

namespace State

variable {s s' s'' : State}

/-- Nothing is written. -/
theorem Adds.outside (quiet : s.Adds s' []) : s.AddsOutside s' :=
  ⟨[], quiet, fun _ impossible => absurd impossible List.not_mem_nil⟩

theorem AddsOutside.trans (one : s.AddsOutside s') (two : s'.AddsOutside s'') :
    s.AddsOutside s'' := by
  obtain ⟨first, adds, outside⟩ := one
  obtain ⟨second, adds', outside'⟩ := two
  exact ⟨first ++ second, adds.trans adds',
    fun x member => (List.mem_append.mp member).elim (outside x) (outside' x)⟩

/-- An event outside all spans. -/
theorem addsOutside_emit (s : State) (e : Event) : s.AddsOutside (s.emit none e) :=
  ⟨_, adds_emit s none e, fun _ member => List.mem_singleton.mp member ▸ rfl⟩

/-- A mode is asked without a trace. The question is a line in the journal. -/
theorem adds_afterAsking (s : State) (r : Registration) (method : String) (mode : Mode) :
    s.Adds (s.afterAsking r method mode) [] := by
  have asked : s.Adds { s with selector := s.selector.afterAsking mode } [] :=
    adds_of_same rfl rfl rfl
  cases mode with
  | custom m => exact asked.after (adds_of_same rfl rfl rfl)
  | booleanFlag => exact asked
  | configurationValue => exact asked
  | random => exact asked

/-- A key is asked for outside all spans. The call has no span before it has its key. -/
theorem addsOutside_choose (s : State) (r : Registration) (method : String) :
    s.AddsOutside (s.choose r method).1 := by
  have unchanged : s.Adds (s.afterGate (r.predicateCalls s.wallClock)) [] :=
    adds_of_same rfl rfl rfl
  have gated := unchanged.outside
  simp only [choose]
  split
  · exact gated.trans (addsOutside_emit _ _)
  · refine gated.trans ?_
    simp only [ask]
    split
    · exact addsOutside_emit _ _
    · split
      · exact (adds_afterAsking _ _ _ _).outside.trans (addsOutside_emit _ _)
      · exact (adds_afterAsking _ _ _ _).outside

/-- A scope is disposed without a trace. -/
theorem adds_dropGuard (s : State) (scope : Nat) : s.Adds (s.dropGuard (.holding scope)) [] :=
  adds_of_same rfl rfl rfl

end State

/-- Whatever happens outside the calls is written outside all spans, if it is written at all. -/
theorem State.Outside.addsOutside {s s' : State} (change : s.Outside s') : s.AddsOutside s' := by
  have silent {s' : State} (trace : s'.trace = s.trace) (spans : s'.spans = s.spans)
      (invocations : s'.invocations = s.invocations) : s.AddsOutside s' :=
    (State.adds_of_same trace spans invocations).outside
  cases change with
  | @implemented recipe =>
    have registered : (s.emit none ⟨.debug, "implementation registered",
        [Trace.text "implementation" recipe.name]⟩).Adds (s.implement recipe) [] :=
      State.adds_of_same rfl rfl rfl
    exact (State.addsOutside_emit s _).trans registered.outside
  | _ => exact silent rfl rfl rfl

namespace Router

variable {router : Router} {call : Call} {c : Course} {e : Ending} {s s' : State}

/-- A call arrives and asks for its key outside all spans. If it is refused, there is one event that
says so. -/
theorem addsOutside_receive {r : Outcome ⊕ Asked}
    (answer : router.receive call s = (s', r)) : s.AddsOutside s' := by
  have written : s.AddsOutside (router.receive call s).1 := by
    simp only [receive]
    split
    · exact State.addsOutside_emit s _
    · exact State.addsOutside_choose s _ _
  rw [answer] at written
  exact written

/-! ### Inside the span of the call -/

/-- A report of a call as it is traced. -/
def told (router : Router) (scope : Telemetry.Scope) (r : Telemetry.Report) : List Event :=
  match router.telemetry with
  | .tracing => (r.event? scope).toList
  | _ => []

/-- The first fields of the span of a call. -/
def callFields (router : Router) (call : Call) (selection : Selection) : List Trace.Field :=
  [Trace.text "service" router.registration.service, Trace.text "method" call.method,
    Trace.text "key" selection.key, Trace.text "source" selection.source.text]

/-- What a missed deadline is told by. -/
def expiryEvents (c : Course) (e : Ending) : List Event :=
  match e, c.deadline with
  | .expired, some (_, policy) =>
      [⟨.warn, "trial deadline exceeded", [Trace.text "key" c.progress.current,
        Trace.number "timeout_ms" policy.duration.millis.toNat]⟩]
  | _, _ => []

/-- There is no further key to try. -/
def exhaustedEvent (attempts : Nat) (f : Failure) : Event :=
  ⟨.debug, "fallbacks exhausted",
    [Trace.number "attempts" attempts, Trace.text "kind" f.kind]⟩

/-- Another key is tried. -/
def fallbackEvent (current next : String) : Event :=
  ⟨.warn, "falling back", [Trace.text "from" current, Trace.text "to" next]⟩

/-- An implementation cannot be had. -/
def resolutionEvent (key : String) (source : ResolveError) : Event :=
  ⟨.warn, "implementation resolution failed",
    [Trace.text "key" key, Trace.text "error" source.message]⟩

/-- What the router says when an attempt has ended, given what follows. The reports of telemetry are
among it if they are traced. -/
inductive Remarks (router : Router) (c : Course) (e : Ending) :
    Outcome ⊕ Course → List Event → Prop where
  /-- There is no verdict on an attempt that a missing deadline cut off. -/
  | unruled (verdict : router.verdict? c e = none) :
      Remarks router c e (.inl (.error cancelledFailure)) []
  | value {v : Value} (ending : e = .completed (.ok v)) :
      Remarks router c e (.inl (.ok v))
        (router.told c.reporter .success ++ router.told c.reporter .disposed)
  | cancelled {f : Failure} {trigger : Trigger} {deadline : Option (Instant × TimeoutPolicy)}
      (verdict : router.verdict? c e = some (.error f, trigger, deadline)) :
      Remarks router c e (.inl (.error cancelledFailure))
        (expiryEvents c e ++ router.told c.reporter (.failure cancelledFailure)
          ++ router.told c.reporter .disposed)
  | exhausted {f : Failure} {trigger : Trigger} {deadline : Option (Instant × TimeoutPolicy)}
      (verdict : router.verdict? c e = some (.error f, trigger, deadline)) (attempts : Nat) :
      Remarks router c e (.inl (.error f))
        (expiryEvents c e ++ router.told c.reporter (.attemptFailure c.progress.current f)
          ++ [exhaustedEvent attempts f] ++ router.told c.reporter (.failure f)
          ++ router.told c.reporter .disposed)
  | fellBack {f : Failure} {trigger : Trigger} {deadline : Option (Instant × TimeoutPolicy)}
      (verdict : router.verdict? c e = some (.error f, trigger, deadline)) (progress : Progress) :
      Remarks router c e (.inr { c with progress, deadline })
        (expiryEvents c e ++ router.told c.reporter (.attemptFailure c.progress.current f)
          ++ [fallbackEvent c.progress.current progress.current]
          ++ router.told c.reporter (.fallback progress.current))

/-- A traced report is an event inside the span of the call. -/
theorem adds_report (router : Router) (c : Course) (r : Telemetry.Report) (s : State) :
    s.Adds (router.report c r s) (inside c.span (router.told c.reporter r)) := by
  cases provider : router.telemetry with
  | silent =>
    simp only [report, told, State.report, provider]
    exact .refl s
  | recorder =>
    simp only [report, told, State.report, provider]
    exact State.adds_of_same rfl rfl rfl
  | tracing =>
    simp only [report, told, State.report, provider]
    cases r.event? c.reporter with
    | none => exact .refl s
    | some event => exact State.adds_emit s _ _
  | metrics =>
    simp only [report, told, State.report, provider]
    exact State.adds_of_same rfl rfl rfl

/-- The last reports of a call: its outcome, and that its scope is disposed. -/
theorem adds_finish (router : Router) (c : Course) (r : Telemetry.Report) (s : State) :
    s.Adds (router.finish c r s)
      (inside c.span (router.told c.reporter r ++ router.told c.reporter .disposed)) := by
  rw [Trace.inside_append]
  exact (adds_report router c r s).trans (adds_report router c .disposed _)

/-- A missed deadline is told inside the span of the call. -/
theorem adds_noteExpiry (c : Course) (e : Ending) (s : State) :
    s.Adds (noteExpiry c e s) (inside c.span (expiryEvents c e)) := by
  unfold noteExpiry expiryEvents
  cases e with
  | completed o => exact .refl s
  | expired =>
    cases c.deadline with
    | none => exact .refl s
    | some bounds => exact State.adds_emit s _ _

/-- A selected call gets its number, and opens its span before it says anything. All that it says
from there on is inside. -/
theorem traces_embark (router : Router) (call : Call) (selection : Selection) (s : State) :
    s.Traces (router.embark call selection s).1
        (.opened (router.embark call selection s).2.span (router.callFields call selection) ::
          inside (router.embark call selection s).2.span
            (router.told (router.embark call selection s).2.reporter .started ++
              router.told (router.embark call selection s).2.reporter
                (.variant selection.key selection.source))) ∧
      (router.embark call selection s).1.invocations = s.invocations + 1 := by
  have opened : { s with invocations := s.invocations + 1 }.Adds
      { { s with invocations := s.invocations + 1 }.openSpan
          (router.embark call selection s).2.span (router.callFields call selection) with
        reporters := s.reporters + 1 }
      [.opened (router.embark call selection s).2.span (router.callFields call selection)] :=
    (State.adds_openSpan _ rfl _).before (State.adds_of_same rfl rfl rfl)
  have written := opened.trans ((adds_report router (router.embark call selection s).2 .started
    _).trans (adds_report router (router.embark call selection s).2
      (.variant selection.key selection.source) _))
  rw [← Trace.inside_append] at written
  exact ⟨⟨written.trace, written.numbers, written.spans⟩, written.invocations⟩

/-- What follows an attempt that has ended is told inside the span of the call. There is one way of
remarking for each way of going on. -/
theorem remarks_of_conclude {r : Outcome ⊕ Course}
    (answer : router.conclude call c e s = (s', r)) :
    ∃ events, router.Remarks c e r events ∧ s.Adds s' (inside c.span events) := by
  have noted := adds_noteExpiry c e s
  have failed (f : Failure) : s.Adds (router.reportFailure c (.error f) (noteExpiry c e s))
      (inside c.span (expiryEvents c e ++
        router.told c.reporter (.attemptFailure c.progress.current f))) := by
    rw [Trace.inside_append]
    exact noted.trans (adds_report router c _ _)
  cases verdict : router.verdict? c e with
  | none =>
    simp only [conclude, verdict, Prod.mk.injEq] at answer
    obtain ⟨rfl, rfl⟩ := answer
    exact ⟨[], .unruled verdict, .refl s⟩
  | some ruling =>
    obtain ⟨o, trigger, deadline⟩ := ruling
    cases o with
    | ok v =>
      cases e with
      | expired => cases due : c.deadline <;> simp [verdict?, due] at verdict
      | completed o =>
        obtain rfl : o = .ok v := by
          simp only [verdict?, Option.some.injEq, Prod.mk.injEq] at verdict
          exact verdict.1
        simp only [conclude, verdict, isFailure, Bool.false_and, Bool.false_eq_true, if_false,
          reportFailure, Progress.advance, Prod.mk.injEq] at answer
        obtain ⟨rfl, rfl⟩ := answer
        exact ⟨_, .value rfl, adds_finish router c .success s⟩
    | error f =>
      simp only [conclude, verdict, isFailure, Bool.true_and] at answer
      split at answer
      · cases answer
        refine ⟨_, .cancelled verdict, ?_⟩
        rw [List.append_assoc, Trace.inside_append]
        exact noted.trans (adds_finish router c _ _)
      · split at answer
        · next v advanced =>
          exact absurd (congrArg Prod.snd advanced) (advance_error_ne_succeed _ _ _ _ v)
        · next progress g advanced =>
          obtain ⟨-, rfl⟩ := Progress.untried_of_giveUp advanced
          cases answer
          refine ⟨_, .exhausted verdict progress.attempted.length, ?_⟩
          rw [List.append_assoc, Trace.inside_append, Trace.inside_append]
          exact ((failed g).trans (State.adds_emit _ _ _)).trans (adds_finish router c _ _)
        · next progress key advanced =>
          obtain ⟨rfl, -, -⟩ := Progress.attempted_of_advance advanced
          cases answer
          refine ⟨_, .fellBack verdict progress, ?_⟩
          rw [Trace.inside_append, Trace.inside_append]
          exact ((failed f).trans (State.adds_emit _ _ _)).trans (adds_report router c _ _)

/-! ### Attempts -/

/-- What an attempt of a call has written inside the span of the call. -/
inductive Wrote (router : Router) (span : Span) (leg : Leg) : List Entry → Prop where
  /-- There is no trial on its key. -/
  | unlisted (ending : leg.ending = some (.completed (.error (.routing
        (.resolution leg.context.key (.unregistered leg.context.key)))))) :
      Wrote router span leg []
  | unresolved (source : ResolveError) (ending : leg.ending = some (.completed
        (.error (.routing (.resolution leg.context.key source))))) :
      Wrote router span leg (inside span [resolutionEvent leg.context.key source])
  | completed {entries : List Entry} {o : Outcome}
      (trail : leg.context.Trail (some span) router.pipeline entries (some o))
      (ending : leg.ending = some (.completed o)) : Wrote router span leg entries
  /-- It has come to no outcome of its own: the deadline has cut it off, its caller has cancelled
  it, or it was taken down with its call or still waits. -/
  | unfinished {entries : List Entry}
      (trail : leg.context.Trail (some span) router.pipeline entries none)
      (ending : leg.ending = some .expired ∨
        leg.ending = some (.completed (.error cancelledFailure)) ∨ leg.ending = none) :
      Wrote router span leg entries

/-- An attempt that has been entered or resumed has ended with its trail, or it waits. If the
deadline cuts it off, its trail breaks off where it is. -/
theorem wrote_of_judge {token : Token} {scope : Nat} {inv : Invocation} {span : Span}
    {entries added : List Entry} {reply : State × Reply} {r : Ending ⊕ Attempt}
    (adds : s.Adds reply.1 added)
    (trail : reply.2.Trail inv.context (some span) router.pipeline entries)
    (judged : judge c token scope inv reply = (s', r)) :
    s.Adds s' added ∧
      (∀ ending, r = .inl ending → ∀ scope?,
        router.Wrote span ⟨inv.context, scope?, some ending⟩ entries) ∧
      ∀ attempt, r = .inr attempt → attempt.invocation = inv ∧
        attempt.flight.Trail inv.context (some span) router.pipeline entries := by
  obtain ⟨t, reply⟩ := reply
  cases trail with
  | done trail =>
    simp only [judge, Prod.mk.injEq] at judged
    obtain ⟨rfl, rfl⟩ := judged
    refine ⟨adds.before (State.adds_dropGuard t scope), ?_, by rintro _ ⟨⟩⟩
    rintro _ ⟨⟩ scope?
    exact .completed trail rfl
  | @pending flight trail =>
    simp only [judge] at judged
    split at judged
    · simp only [Prod.mk.injEq] at judged
      obtain ⟨rfl, rfl⟩ := judged
      have takenDown : t.Adds (cutOff ⟨token, scope, inv, flight⟩ t) [] :=
        (Invocation.adds_abandon inv flight t).after (State.adds_of_same rfl rfl rfl)
      refine ⟨adds.before takenDown, ?_, by rintro _ ⟨⟩⟩
      rintro _ ⟨⟩ scope?
      exact .unfinished trail.unfinished (.inl rfl)
    · simp only [Prod.mk.injEq] at judged
      obtain ⟨rfl, rfl⟩ := judged
      refine ⟨adds, ?_, ?_⟩
      · rintro _ ⟨⟩
      · rintro _ ⟨⟩
        exact ⟨rfl, trail⟩

/-- An attempt that starts writes inside the span of its call. If its implementation cannot be had,
it is the router that says so, and the attempt writes nothing. -/
theorem wrote_of_launch (builtIn : ∀ d ∈ router.pipeline, d.isBuiltIn = true)
    {r : Ending ⊕ Attempt} (free : call.isStopped s = false)
    (launched : router.launch call c s = (s', r)) :
    ∃ added, s.Adds s' added ∧
      (∀ ending, r = .inl ending → ∀ scope?,
        router.Wrote c.span ⟨c.attemptContext, scope?, some ending⟩ added) ∧
      ∀ attempt, r = .inr attempt → attempt.invocation.context = c.attemptContext ∧
        attempt.flight.Trail c.attemptContext (some c.span) router.pipeline added := by
  cases listed : router.registration.trial? c.progress.current with
  | none =>
    rw [launch_of_unlisted free listed, Prod.mk.injEq] at launched
    obtain ⟨rfl, rfl⟩ := launched
    refine ⟨[], State.adds_of_same rfl rfl rfl, ?_, by rintro _ ⟨⟩⟩
    rintro _ ⟨⟩ scope?
    exact .unlisted rfl
  | some trial =>
    rw [launch_of_listed free listed] at launched
    have opened : s.Adds (opened c trial s) [] := State.adds_of_same rfl rfl rfl
    cases result : (resolution c trial s).result with
    | error source =>
      simp only [result, Prod.mk.injEq] at launched
      obtain ⟨rfl, rfl⟩ := launched
      have failed := (opened.after (State.adds_emit _ (some c.span)
        (resolutionEvent c.progress.current source))).before
          (State.adds_dropGuard _ s.catalog.nextScope)
      refine ⟨_, failed, ?_, by rintro _ ⟨⟩⟩
      rintro _ ⟨⟩ scope?
      exact .unresolved source rfl
    | ok made =>
      simp only [result] at launched
      obtain ⟨added, adds, trail⟩ := Invocation.trail_enter (invocationOf call c made)
        (some c.span) builtIn (s.tokens.nextChild call.token) (Router.opened c trial s)
      obtain ⟨written, ended, waits⟩ := wrote_of_judge (opened.after adds) trail launched
      refine ⟨added, written, ended, ?_⟩
      intro attempt waiting
      obtain ⟨same, trail⟩ := waits attempt waiting
      exact ⟨congrArg Invocation.context same, trail⟩

/-- An attempt that is resumed goes on writing inside the span of its call, and continues the trail
it had. -/
theorem wrote_of_resume {attempt : Attempt} {span : Span} {before : List Entry}
    {r : Ending ⊕ Attempt}
    (trail : attempt.flight.Trail attempt.invocation.context (some span) router.pipeline before)
    (same : c.span = span) (resumed : resumeAttempt c attempt s = (s', r)) :
    ∃ added, s.Adds s' added ∧
      (∀ ending, r = .inl ending →
        router.Wrote span (attempt.leg (some ending)) (before ++ added)) ∧
      ∀ rest, r = .inr rest → rest.invocation = attempt.invocation ∧
        rest.flight.Trail attempt.invocation.context (some span) router.pipeline
          (before ++ added) := by
  subst same
  simp only [resumeAttempt] at resumed
  split at resumed
  · simp only [Prod.mk.injEq] at resumed
    obtain ⟨rfl, rfl⟩ := resumed
    refine ⟨[], (Invocation.adds_abandon _ _ s).after (State.adds_dropGuard _ _), ?_,
      by rintro _ ⟨⟩⟩
    rintro _ ⟨⟩
    rw [List.append_nil]
    exact .unfinished trail.unfinished (.inr (.inl rfl))
  · obtain ⟨added, adds, longer⟩ := Invocation.trail_resume trail s
    obtain ⟨written, ended, waits⟩ := wrote_of_judge adds longer resumed
    exact ⟨added, written, fun ending same => ended ending same _, waits⟩

end Router

end TrialRouting
