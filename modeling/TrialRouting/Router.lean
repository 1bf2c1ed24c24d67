import TrialRouting.Fallback
import TrialRouting.Attempt.Flight
import TrialRouting.Selection.Asking
import TrialRouting.Schedule

/-!
# Router

A router sends the calls of one service to the implementations of a trial. A call
that is cancelled before it starts touches nothing. Otherwise a key is selected, and
attempts follow one another until one succeeds, the fallback plan is used up, or the
caller cancels. Each attempt has a token below the caller's and a scope of its own,
which is disposed before the next attempt opens another. The trial's deadline counts
from the end of selection; it cuts off the attempt it covers, and what follows it
runs without a deadline.
-/

namespace TrialRouting

/-- A trial with the decorators around its attempts and the telemetry of its calls. -/
structure Router where
  registration : Registration
  pipeline : Pipeline
  telemetry : Telemetry.Provider

/-- A call of a method. -/
structure Call where
  method : String
  request : Request
  /-- The token in the caller's hands. -/
  caller : Token
  /-- The token the call runs under. -/
  token : Token
  /-- Whether the tokens of its attempts are listed. -/
  handsOut : Bool

/-- Whether a value has the type that a kind of method returns. -/
def Operation.returns : Operation → Value → Bool
  | .call, .text _ => true
  | .sync, .text _ => true
  | .count, .count _ => true
  | .ping, .unit => true
  | _, _ => false

/-- What the caller is given for the outcome of a call. -/
def Call.result (call : Call) : Outcome → Except CallerError Value
  | .ok v =>
      if call.request.operation.returns v then .ok v
      else .error (.routing (.resultShape call.method))
  | .error f => .error f.toInterface

/-- How an attempt of a call came to its end. -/
inductive Ending where
  | completed (outcome : Outcome)
  /-- The trial's deadline cut it off. -/
  | expired

/-- What a call knows between its attempts. -/
structure Course where
  /-- Context of the primary attempt. -/
  context : Context
  progress : Progress
  reporter : Telemetry.Scope
  /-- The span around all attempts. -/
  span : Trace.Span
  /-- When the trial's deadline is, while it covers the attempts. -/
  deadline : Option (Instant × TimeoutPolicy)

/-- An attempt of a call that waits. -/
structure Attempt where
  token : Token
  /-- Number of its scope in the catalog. -/
  scope : Nat
  invocation : Invocation
  flight : Flight

/-- Where a call waits. -/
inductive Stage where
  /-- The selection mode takes its time. -/
  | selecting (due : Instant) (opinion : Opinion)
  | attempting (course : Course) (attempt : Attempt)

namespace Course

/-- Whether the deadline has passed. -/
def isOverdue (c : Course) (now : Instant) : Bool :=
  c.deadline.any (·.1 ≤ now)

/-- The context of the attempt the course has come to: the primary attempt's, with the
    current key and number. -/
def attemptContext (c : Course) : Context :=
  c.context.forAttempt c.progress.current c.progress.index

end Course

namespace Registration

/-- A bound on the number of keys that one trigger plans. -/
def reach (r : Registration) : Nat :=
  r.keys.length + 1 + match r.onError with
    | .redirectOrdered keys => keys.length
    | _ => 0

/-- The triggers a trial can pull: its own error policy, and any timeout action. -/
theorem length_keys_le_reach (r : Registration) (failed : String) (t : Trigger)
    (own : ∀ policy, t = .error policy → policy = r.onError) :
    (t.keys r failed).length ≤ r.reach := by
  cases t with
  | timeout action => cases action <;> simp only [Trigger.keys, reach, List.length_nil,
      List.length_singleton] <;> omega
  | error policy =>
    have same := own policy rfl
    subst same
    simp only [reach]
    cases h : r.onError with
    | throw => simp [Trigger.keys]
    | redirectToDefault => simp only [Trigger.keys]; split <;> simp
    | redirectToAny =>
      have := List.length_filter_le (fun key => decide (key ≠ failed)) r.keys
      simp only [Trigger.keys]
      omega
    | redirectToSpecific key => simp [Trigger.keys]
    | redirectOrdered keys => simp only [Trigger.keys]; omega

end Registration

namespace Router

/-- A report of a call's telemetry. -/
def report (router : Router) (course : Course) (r : Telemetry.Report) (s : State) : State :=
  s.report router.telemetry (some course.span) course.reporter r

/-- The last reports of a call: its outcome, and the end of its telemetry. -/
def finish (router : Router) (course : Course) (r : Telemetry.Report) (s : State) : State :=
  router.report course .disposed (router.report course r s)

/-- The deadline cuts an attempt off: it is taken down, its scope disposed, and its
    token cancelled. -/
def cutOff (attempt : Attempt) (s : State) : State :=
  ((attempt.invocation.abandon attempt.flight s).dropGuard (.holding attempt.scope)).cancel
    attempt.token

/-- What an attempt has come to once its decorators have been entered or resumed. -/
def judge (course : Course) (token : Token) (scope : Nat) (inv : Invocation) :
    State × Reply → State × (Ending ⊕ Attempt)
  | (s, .done o) =>
      let disposal := s.disposeGuard (.holding scope)
      (disposal.1.dropGuard disposal.2, .inl (.completed o))
  | (s, .pending flight) =>
      let attempt : Attempt := ⟨token, scope, inv, flight⟩
      if course.isOverdue s.now then (cutOff attempt s, .inl .expired)
      else (s, .inr attempt)

/-- The next attempt starts, and runs until it ends or has to wait. Its scope is opened and its
implementation found in one go with that: a scope provider may take its time over it, but the only
one there is, the catalog, answers at once. So nothing can happen between the two, and a call is
never cancelled while it waits for an implementation. -/
def launch (router : Router) (call : Call) (course : Course) (s : State) :
    State × (Ending ⊕ Attempt) :=
  let key := course.progress.current
  let context := course.attemptContext
  let token := s.tokens.nextChild call.token
  let s := s.issueToken
  if s.isCancelled token then (s, .inl (.completed (.error cancelledFailure)))
  else match router.registration.trial? key with
    | none =>
        (s, .inl (.completed (.error (.routing (.resolution key (.unregistered key))))))
    | some trial =>
        let scope := s.catalog.nextScope
        let s := s.openScope.note (.resolving scope key trial.implementation)
        let resolution := s.catalog.resolve scope trial.implementation
        let s := s.afterResolution resolution
        match resolution.result with
        | .error source =>
            let s := s.emit (some course.span) ⟨.warn, "implementation resolution failed",
              [Trace.text "key" key, Trace.text "error" source.message]⟩
            (s.dropGuard (.holding scope),
              .inl (.completed (.error (.routing (.resolution key source)))))
        | .ok made =>
            let inv : Invocation := ⟨context, call.caller, .serve made call.request call.handsOut⟩
            judge course token scope inv
              (inv.enter (some course.span) router.pipeline token s)

/-- The outcome of an attempt that has ended, what plans the next one, and the
    deadline that covers it. Nothing for an attempt that a missing deadline cut off. -/
def verdict? (router : Router) (course : Course) (ending : Ending) :
    Option (Outcome × Trigger × Option (Instant × TimeoutPolicy)) :=
  let r := router.registration
  match ending, course.deadline with
  | .completed o, deadline =>
      let covers := !r.timeout.any (·.scope == .firstAttempt)
      some (o, .error r.onError, if covers then deadline else none)
  | .expired, some (_, policy) =>
      let failure := .routing (.timeout course.progress.current policy.duration.millis)
      some (.error failure, .timeout policy.action, none)
  | .expired, none => none

/-- What a trace says about a missed deadline. -/
def noteExpiry (course : Course) (ending : Ending) (s : State) : State :=
  match ending, course.deadline with
  | .expired, some (_, policy) =>
      s.emit (some course.span) ⟨.warn, "trial deadline exceeded",
        [Trace.text "key" course.progress.current,
          Trace.number "timeout_ms" policy.duration.millis.toNat]⟩
  | _, _ => s

/-- Whether an outcome is a failure. -/
def isFailure : Outcome → Bool
  | .ok _ => false
  | .error _ => true

/-- A failed attempt is reported. -/
def reportFailure (router : Router) (course : Course) (o : Outcome) (s : State) : State :=
  match o with
  | .ok _ => s
  | .error f => router.report course (.attemptFailure course.progress.current f) s

/-- What follows an attempt that has ended: the outcome of the call, or the course of
    the next attempt. -/
def conclude (router : Router) (call : Call) (course : Course) (ending : Ending) (s : State) :
    State × (Outcome ⊕ Course) :=
  match router.verdict? course ending with
  | none => (s, .inl (.error cancelledFailure))
  | some (o, trigger, deadline) =>
      let s := noteExpiry course ending s
      if isFailure o && s.isCancelled call.token then
        (router.finish course (.failure cancelledFailure) s, .inl (.error cancelledFailure))
      else
        let s := router.reportFailure course o s
        match course.progress.advance router.registration o trigger with
        | (_, .succeed v) => (router.finish course .success s, .inl (.ok v))
        | (progress, .giveUp f) =>
            let s := s.emit (some course.span) ⟨.debug, "fallbacks exhausted",
              [Trace.number "attempts" progress.attempted.length, Trace.text "kind" f.kind]⟩
            (router.finish course (.failure f) s, .inl (.error f))
        | (progress, .attempt next) =>
            let s := s.emit (some course.span) ⟨.warn, "falling back",
              [Trace.text "from" course.progress.current, Trace.text "to" next]⟩
            (router.report course (.fallback next) s, .inr { course with progress, deadline })

/-- How far a course is from having no further attempts: planned keys, a plan still to
    be made, a deadline that may replace the plan. -/
def remaining (router : Router) (course : Course) : Nat :=
  (if course.deadline.isSome then router.registration.reach + 2 else 0)
    + match course.progress.plan with
      | none => router.registration.reach + 1
      | some plan => plan.length

/-- A further attempt follows from the verdict on the last one. -/
theorem exists_verdict_of_conclude {router : Router} {call : Call} {course next : Course}
    {ending : Ending} {s : State}
    (goesOn : (router.conclude call course ending s).2 = .inr next) :
    ∃ o trigger deadline progress key,
      router.verdict? course ending = some (o, trigger, deadline) ∧
        course.progress.advance router.registration o trigger = (progress, .attempt key) ∧
          next = { course with progress, deadline } := by
  simp only [conclude] at goesOn
  split at goesOn
  · simp at goesOn
  · next o trigger deadline verdict =>
    split at goesOn
    · simp at goesOn
    · split at goesOn
      · simp at goesOn
      · simp at goesOn
      · next progress key advanced =>
        exact ⟨o, trigger, deadline, progress, key, verdict, advanced, by simpa using goesOn.symm⟩

/-- Every further attempt brings a call nearer to its last. -/
theorem remaining_conclude {router : Router} {call : Call} {course next : Course}
    {ending : Ending} {s : State}
    (goesOn : (router.conclude call course ending s).2 = .inr next) :
    router.remaining next < router.remaining course := by
  obtain ⟨o, trigger, deadline, progress, key, verdict, advanced, rfl⟩ :=
    exists_verdict_of_conclude goesOn
  obtain ⟨rest, planned, shorter⟩ := Progress.plan_advance advanced
  simp only [remaining, planned]
  cases ending with
  | completed o' =>
    have own : trigger = .error router.registration.onError := by
      simp only [verdict?, Option.some.injEq, Prod.mk.injEq] at verdict
      exact verdict.2.1.symm
    have kept : deadline.isSome = true → course.deadline.isSome = true := by
      simp only [verdict?, Option.some.injEq, Prod.mk.injEq] at verdict
      rw [← verdict.2.2]
      split <;> simp
    have armed : (if deadline.isSome = true then router.registration.reach + 2 else 0)
        ≤ if course.deadline.isSome = true then router.registration.reach + 2 else 0 := by
      by_cases has : deadline.isSome = true
      · simp [has, kept has]
      · simp [has]
    subst own
    have bound := router.registration.length_keys_le_reach course.progress.current
      (.error router.registration.onError) (by simp)
    simp only [Progress.planAfter, Trigger.isTimeout] at shorter
    cases plan : course.progress.plan with
    | none => simp only [plan] at shorter ⊢; omega
    | some before => simp [plan] at shorter ⊢; omega
  | expired =>
    cases has : course.deadline with
    | none => simp [verdict?, has] at verdict
    | some bounds =>
      obtain ⟨instant, policy⟩ := bounds
      simp only [verdict?, has, Option.some.injEq, Prod.mk.injEq] at verdict
      obtain ⟨-, rfl, rfl⟩ := verdict
      have bound := router.registration.length_keys_le_reach course.progress.current
        (.timeout policy.action) (by simp)
      have planned : course.progress.planAfter router.registration (.timeout policy.action)
          = (Trigger.timeout policy.action).keys router.registration course.progress.current := by
        simp only [Progress.planAfter, Trigger.isTimeout]
        split <;> simp
      rw [planned] at shorter
      simp
      omega

/-- A call goes on after an attempt has ended. -/
def pursue (router : Router) (call : Call) (course : Course) (ending : Ending) (s : State) :
    State × Step Stage Outcome :=
  match _goesOn : router.conclude call course ending s with
  | (s, .inl o) => (s, .finished o)
  | (s, .inr next) =>
      match router.launch call next s with
      | (s, .inl ending) => router.pursue call next ending s
      | (s, .inr attempt) => (s, .running (.attempting next attempt))
termination_by router.remaining course
decreasing_by exact remaining_conclude (by rw [_goesOn])

/-- A selected call sets out: its telemetry starts, and the trial's deadline counts from
    now. -/
def embark (router : Router) (call : Call) (selection : Selection) (s : State) :
    State × Course :=
  let r := router.registration
  let context := Context.primary s.invocations r.service call.method r.selector selection.key
    r.keys
  let span := s.nextSpan "invocation" context.invocation
  let s := { s with invocations := s.invocations + 1 }.openSpan span
    [Trace.text "service" r.service, Trace.text "method" call.method,
      Trace.text "key" selection.key, Trace.text "source" selection.source.text]
  let course : Course := {
    context
    progress := .start selection.key
    reporter := .ofContext s.reporters context
    span
    deadline := r.timeout.bind fun policy =>
      (Instant.after? s.now policy.duration).map (·, policy) }
  let s := { s with reporters := s.reporters + 1 }
  let s := router.report course .started s
  (router.report course (.variant selection.key selection.source) s, course)

/-- A selected call starts its attempts. -/
def follow (router : Router) (call : Call) (selection : Selection) (s : State) :
    State × Step Stage Outcome :=
  match router.embark call selection s with
  | (s, course) =>
      match router.launch call course s with
      | (s, .inl ending) => router.pursue call course ending s
      | (s, .inr attempt) => (s, .running (.attempting course attempt))

/-- A call arrives. Unless it is cancelled already, a key is asked for. -/
def receive (router : Router) (call : Call) (s : State) : State × (Outcome ⊕ Asked) :=
  let r := router.registration
  if s.isCancelled call.token then
    (s.emit none ⟨.debug, "cancelled before dispatch",
      [Trace.text "service" r.service, Trace.text "method" call.method]⟩,
      .inl (.error cancelledFailure))
  else
    match s.choose r call.method with
    | (s, asked) => (s, .inr asked)

/-- A call starts. -/
def start (router : Router) (call : Call) (s : State) : State × Step Stage Outcome :=
  match router.receive call s with
  | (s, .inl o) => (s, .finished o)
  | (s, .inr (.settled selection)) => router.follow call selection s
  | (s, .inr (.waiting due opinion)) => (s, .running (.selecting due opinion))

/-- An attempt that waited is resumed. A cancelled attempt is left at once, whatever it
    would have come to. -/
def resumeAttempt (course : Course) (attempt : Attempt) (s : State) :
    State × (Ending ⊕ Attempt) :=
  let inv := attempt.invocation
  if s.isCancelled attempt.token then
    ((inv.abandon attempt.flight s).dropGuard (.holding attempt.scope),
      .inl (.completed (.error cancelledFailure)))
  else
    judge course attempt.token attempt.scope inv
      (inv.resume (some course.span) attempt.flight s)

/-- A call that waited is resumed. -/
def resume (router : Router) (call : Call) (stage : Stage) (s : State) :
    State × Step Stage Outcome :=
  match stage with
  | .selecting due opinion =>
      if due ≤ s.now then
        let settled := s.settle router.registration opinion
        router.follow call settled.2 settled.1
      else (s, .running stage)
  | .attempting course attempt =>
      match resumeAttempt course attempt s with
      | (s, .inl ending) => router.pursue call course ending s
      | (s, .inr attempt) => (s, .running (.attempting course attempt))

/-- A call is taken down: its attempt from the inside out, the attempt's scope, and its
    telemetry, which gets no outcome. -/
def abandon (router : Router) (stage : Stage) (s : State) : State :=
  match stage with
  | .selecting _ _ => s
  | .attempting course attempt =>
      router.report course .disposed
        ((attempt.invocation.abandon attempt.flight s).dropGuard (.holding attempt.scope))

/-- Instants at which a call has something to do. -/
def timers : Stage → List Instant
  | .selecting due _ => [due]
  | .attempting course attempt =>
      (course.deadline.map (·.1)).toList ++ attempt.flight.timers

/-- Calls of a router. -/
def conduct (router : Router) : Conduct Call Stage Outcome where
  start call s := router.start call s
  resume call stage s := router.resume call stage s
  abandon _ stage s := router.abandon stage s
  timers := timers

/-- What a trace says about a router that has been put together. -/
def builtEvent (router : Router) (name : String) : Trace.Event :=
  let r := router.registration
  ⟨.debug, "invocation proxy built",
    [Trace.text "router" name, Trace.text "service" r.service, Trace.text "mode" r.mode,
      Trace.number "keys" r.keys.length, Trace.number "decorators" router.pipeline.length]⟩

/-- A router put together from a trial and the factories of its decorators. -/
def build (r : Registration) (factories : List Factory) (config : RouterConfig)
    (telemetry : Telemetry.Provider) (s : State) : State × Router :=
  let made := Pipeline.build config r.service factories s
  let router : Router := ⟨r, made.2, telemetry⟩
  (made.1.emit none (router.builtEvent config.name), router)

/-- The router in words. -/
def description (router : Router) : String :=
  let r := router.registration
  Text.describe "InvocationProxy"
    [("service_type", "ServiceType(" ++ Text.quoted r.service ++ ")"),
      ("mode", Text.quoted r.mode), ("keys", Text.quotedList r.keys),
      ("decorators", toString router.pipeline.length)] false

end Router

end TrialRouting
