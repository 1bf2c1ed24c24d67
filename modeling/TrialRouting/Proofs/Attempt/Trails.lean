import TrialRouting.Attempt.Flight
import TrialRouting.Proofs.Attempt.BuiltIns
import TrialRouting.Proofs.Trace

/-!
# The trail of an attempt

What an attempt writes to the trace on its way through built-in decorators has the shape of the
decorators. Logging opens a span of its own, and all that happens further inside is in that span
or in spans opened there; when it is left with an outcome, it records the duration and then the
outcome on its span and emits one event inside it. A decorator that turns an attempt away says so
in the innermost span around itself; so does a time bound that has run out, and a circuit that
opens.

`Context.Trail` is that shape, with the outcome of the attempt if it has come to one. An attempt
that still waits has none; `Flight.Trail` is what it has written by then. Waiting attempts are
resumed from the inside out, and taking one down writes nothing, so a trail only ever gets longer
at its end.
-/

namespace TrialRouting

open Trace (Entry Event Span)

namespace Context

/-- The first fields of a span of logging. -/
def attemptFields (c : Context) (router : String) : List Trace.Field :=
  [Trace.text "router" router, Trace.text "service" c.service, Trace.text "method" c.method,
    Trace.text "key" c.key, Trace.number "attempt" c.attempt.toNat]

/-- Fields that name the service and key of an attempt. -/
def names (c : Context) : List Trace.Field :=
  [Trace.text "service" c.service, Trace.text "key" c.key]

/-- The event inside the span of logging when it is left. -/
def completion (c : Context) (millis : Nat) (o : Outcome) : Event :=
  let fields := [Trace.text "service" c.service, Trace.text "method" c.method,
    Trace.text "key" c.key, Trace.number "duration_ms" millis]
  match o with
  | .ok _ => ⟨.info, "attempt complete", fields⟩
  | .error f => ⟨.warn, "attempt failed", fields ++
      [Trace.text "outcome" (Outcome.label o), Trace.text "error" f.message]⟩

/-- What logging writes when it is left: the duration, the outcome, and one event. -/
def farewell (c : Context) (own : Span) (millis : Nat) (o : Outcome) : List Entry :=
  [.recorded own [Trace.number "duration_ms" millis],
    .recorded own [Trace.text "outcome" (Outcome.label o)],
    .event (c.completion millis o) (some own)]

/-- The event of a time bound that has run out. -/
def deadlineEvent (c : Context) (limit : Duration) : Event :=
  ⟨.debug, "attempt deadline exceeded",
    [Trace.text "key" c.key, Trace.number "timeout_ms" limit.millis.toNat]⟩

/-- The event of a circuit that opens. -/
def openedEvent (c : Context) (resetMillis : Nat) : Event :=
  ⟨.warn, "circuit opened", c.names ++ [Trace.number "reset_timeout_ms" resetMillis]⟩

end Context

/-- A decorator turns an attempt away. Only a circuit and a limit do, and each of them says so in
one event before it answers with its error. -/
inductive Decorator.Rejects (c : Context) : Decorator → Event → Failure → Prop where
  | circuit (slot : Nat) : Rejects c (.circuitBreaker slot)
      ⟨.debug, "circuit open, attempt rejected", c.names⟩ (.routing (.circuitOpen c.service c.key))
  | limit (slot : Nat) : Rejects c (.concurrencyLimit slot)
      ⟨.debug, "concurrency limit reached, attempt rejected", c.names⟩ (.routing .overloaded)

/-- What a decorator writes when an attempt gets inside it. Logging opens its span; the others get
in without a word. -/
inductive Frame.Enters (c : Context) : Decorator → Frame → List Entry → Prop where
  | logging {own : Span} (router : String) (since : Instant) (name : own.name = "attempt")
      (call : own.invocation = c.invocation) :
      Enters c (.logging router) (.logging own since) [.opened own (c.attemptFields router)]
  | timeout (token : Token) (due : Option Instant) (limit : Duration) :
      Enters c (.timeout limit) (.timeout token due limit) []
  | circuit (slot : Nat) (a : Admission) : Enters c (.circuitBreaker slot) (.circuit slot a) []
  | permit (slot : Nat) : Enters c (.concurrencyLimit slot) (.permit slot) []

/-- What a decorator writes when it is left with an outcome. A circuit writes only if it opens,
which it does with a failure. -/
inductive Frame.Leaves (c : Context) (span : Option Span) :
    Frame → Outcome → List Entry → Prop where
  | logging (own : Span) (since : Instant) (millis : Nat) (o : Outcome) :
      Leaves c span (.logging own since) o (c.farewell own millis o)
  | timeout (token : Token) (due : Option Instant) (limit : Duration) (o : Outcome) :
      Leaves c span (.timeout token due limit) o []
  | circuit (slot : Nat) (a : Admission) (o : Outcome) : Leaves c span (.circuit slot a) o []
  | circuitOpens (slot : Nat) (a : Admission) (f : Failure) (resetMillis : Nat) :
      Leaves c span (.circuit slot a) (.error f) [.event (c.openedEvent resetMillis) span]
  | permit (slot : Nat) (o : Outcome) : Leaves c span (.permit slot) o []

/-- The trail of an attempt inside a span and through some decorators, with its outcome if it has
come to one. -/
inductive Context.Trail (c : Context) :
    Option Span → List Decorator → List Entry → Option Outcome → Prop where
  /-- The work writes nothing. -/
  | work (span : Option Span) (o? : Option Outcome) : Trail c span [] [] o?
  | rejected {span : Option Span} {d : Decorator} {rest : List Decorator} {e : Event}
      {f : Failure} (rejects : d.Rejects c e f) :
      Trail c span (d :: rest) [.event e span] (some (.error f))
  /-- The decorator has not been left, since its inside has come to no outcome. -/
  | unfinished {span : Option Span} {d : Decorator} {rest : List Decorator} {frame : Frame}
      {first inner : List Entry} (enters : frame.Enters c d first)
      (within : Trail c (frame.span span) rest inner none) :
      Trail c span (d :: rest) (first ++ inner) none
  /-- The decorator has been left and has passed on the outcome of its inside. -/
  | finished {span : Option Span} {d : Decorator} {rest : List Decorator} {frame : Frame}
      {first inner last : List Entry} {o : Outcome} (enters : frame.Enters c d first)
      (within : Trail c (frame.span span) rest inner (some o))
      (leaves : frame.Leaves c span o last) :
      Trail c span (d :: rest) (first ++ inner ++ last) (some o)
  /-- The decorator is a time bound that has cut off its inside. -/
  | expired {span : Option Span} {limit : Duration} {rest : List Decorator} {inner : List Entry}
      (within : Trail c span rest inner none) :
      Trail c span (.timeout limit :: rest) (inner ++ [.event (c.deadlineEvent limit) span])
        (some (.error (.routing (.timeout c.key limit.millis))))

/-- The trail of an attempt that waits. All decorators up to the work have been entered, and none of
them has been left. -/
inductive Flight.Trail (c : Context) :
    Option Span → List Decorator → List Entry → Flight → Prop where
  | working (span : Option Span) (due : Option Instant) (token : Token) (o : Outcome) :
      Trail c span [] [] (.working due token o)
  | within {span : Option Span} {d : Decorator} {rest : List Decorator} {frame : Frame}
      {first inner : List Entry} {flight : Flight} (enters : frame.Enters c d first)
      (within : Trail c (frame.span span) rest inner flight) :
      Trail c span (d :: rest) (first ++ inner) (.within frame flight)

/-- The trail of an attempt that has been entered or resumed, according to whether it has come to an
outcome or waits. -/
inductive Reply.Trail (c : Context) (span : Option Span) (decorators : List Decorator)
    (entries : List Entry) : Reply → Prop where
  | done {o : Outcome} (trail : c.Trail span decorators entries (some o)) :
      Trail c span decorators entries (.done o)
  | pending {flight : Flight} (trail : flight.Trail c span decorators entries) :
      Trail c span decorators entries (.pending flight)

/-- An attempt that waits has come to no outcome. So if it is taken down now, its trail ends as one
that was never finished. -/
theorem Flight.Trail.unfinished {c : Context} {span : Option Span} {decorators : List Decorator}
    {entries : List Entry} {flight : Flight} (trail : flight.Trail c span decorators entries) :
    c.Trail span decorators entries none := by
  induction trail with
  | working span due token o => exact .work span none
  | within enters _ ih => exact .unfinished enters ih

namespace Invocation

variable {inv : Invocation} {s : State} {span : Option Span} {frame : Frame}

/-! ### One decorator -/

/-- A decorator gives back what it holds without a trace. The place of a permit or a probe is given
back, and nothing is written about it. -/
theorem adds_release (frame : Frame) (key : String) (s : State) :
    s.Adds (frame.release key s) [] := by
  cases frame with
  | logging own since => exact .refl s
  | timeout token due limit => exact .refl s
  | circuit slot a => exact State.adds_of_same rfl rfl rfl
  | permit slot => exact State.adds_of_same rfl rfl rfl
  | intercepted i => exact .refl s

/-- An attempt is taken down without a trace, by induction on the decorators it is inside of: each
gives back what it holds. -/
theorem adds_abandon (inv : Invocation) (flight : Flight) (s : State) :
    s.Adds (inv.abandon flight s) [] := by
  induction flight generalizing s with
  | within frame inner ih => exact (ih s).before (adds_release frame inv.context.key _)
  | entering due i token rest => exact .refl s
  | working due token o => exact State.adds_of_same rfl rfl rfl
  | leaving due i o => exact .refl s

/-- Leaving logging writes the duration, the outcome and one event. -/
theorem adds_logOutcome (inv : Invocation) (own : Span) (since : Instant) (o : Outcome)
    (s : State) :
    s.Adds (inv.logOutcome own since o s) (inv.context.farewell own (s.now - since) o) := by
  have timed : s.Adds (s.record (.recorded own [Trace.number "duration_ms" (s.now - since)]))
      [.recorded own [Trace.number "duration_ms" (s.now - since)]] := State.adds_record s _ rfl
  have told := timed.trans
    (State.adds_record _ (.recorded own [Trace.text "outcome" (Outcome.label o)]) rfl)
  cases o with
  | ok v => exact told.trans (State.adds_emit _ _ _)
  | error f => exact told.trans (State.adds_emit _ _ _)

/-- Leaving a circuit writes an event if the circuit opens, and nothing otherwise. A circuit can
open only with an attempt that has failed. -/
theorem adds_settleCircuit (inv : Invocation) (span : Option Span) (slot : Nat) (a : Admission)
    (o : Outcome) (s : State) : ∃ last, s.Adds (inv.settleCircuit span slot a o s) last ∧
      (Frame.circuit slot a).Leaves inv.context span o last := by
  have settled : s.Adds
      (s.updateCircuits slot (·.settle inv.context.key a s.now (.ofOutcome o))) [] :=
    State.adds_of_same rfl rfl rfl
  rcases inv.settleCircuit_cases span slot a o s with silent | ⟨f, resetMillis, rfl, opens⟩
  · exact ⟨[], silent ▸ settled, .circuit slot a o⟩
  · rw [opens]
    exact ⟨_, settled.after (State.adds_emit _ _ _), .circuitOpens slot a f resetMillis⟩

/-- A built-in decorator is left with the outcome of its inside, whatever it writes on the way. This
is what makes the outcome of a trail the same at all its depths. -/
theorem adds_leave {d : Decorator} {first : List Entry} (enters : frame.Enters inv.context d first)
    (span : Option Span) (o : Outcome) (s : State) :
    ∃ t last, inv.leave span frame o s = (t, .done o) ∧ s.Adds t last ∧
      frame.Leaves inv.context span o last := by
  cases enters with
  | @logging own router since name call =>
    exact ⟨_, _, rfl, adds_logOutcome inv own since o s, .logging own since _ o⟩
  | timeout token due limit => exact ⟨_, _, rfl, .refl s, .timeout token due limit o⟩
  | circuit slot a =>
    obtain ⟨last, adds, leaves⟩ := adds_settleCircuit inv span slot a o s
    exact ⟨_, last, rfl, adds, leaves⟩
  | permit slot => exact ⟨_, _, rfl, State.adds_of_same rfl rfl rfl, .permit slot o⟩

/-- What a decorator makes of its inside continues the trail. If the inside still waits, nothing is
added to what the inside has written; if it is done, the decorator is left, and writes what it
writes then. -/
theorem trail_around {d : Decorator} {rest : List Decorator} {first added : List Entry}
    (before : List Entry) {r : State × Reply} (enters : frame.Enters inv.context d first)
    (adds : s.Adds r.1 added)
    (within : r.2.Trail inv.context (frame.span span) rest (before ++ added)) :
    ∃ more, s.Adds (inv.around span frame r).1 more ∧
      (inv.around span frame r).2.Trail inv.context span (d :: rest) (first ++ before ++ more) := by
  obtain ⟨t, reply⟩ := r
  cases within with
  | @done o trail =>
    obtain ⟨u, last, left, adds', leaves⟩ := adds_leave enters span o t
    refine ⟨added ++ last, ?_, ?_⟩
    · simp only [around, left]
      exact adds.trans adds'
    · simp only [around, left]
      have whole := Context.Trail.finished enters trail leaves
      rw [List.append_assoc] at whole
      exact .done (by simpa only [List.append_assoc] using whole)
  | @pending flight trail =>
    have waits : Reply.Trail inv.context span (d :: rest) (first ++ before ++ added)
        (.pending (.within frame flight)) := by
      rw [List.append_assoc]
      exact .pending (.within enters trail)
    simp only [around]
    split
    · cases enters with
      | timeout token due limit =>
        have takenDown : t.Adds ((inv.abandon flight t).cancel token) [] :=
          (adds_abandon inv flight t).before (State.adds_of_same rfl rfl rfl)
        refine ⟨_, adds.trans (takenDown.after (State.adds_emit _ span _)), ?_⟩
        have whole : inv.context.Trail span (.timeout limit :: rest) _ _ :=
          .expired trail.unfinished
        rw [List.append_assoc] at whole
        exact .done whole
      | logging router since name call => exact ⟨added, adds, waits⟩
      | circuit slot a => exact ⟨added, adds, waits⟩
      | permit slot => exact ⟨added, adds, waits⟩
    · exact ⟨added, adds, waits⟩

/-! ### Whole turns -/

/-- The work begins without a trace. What the work of a service writes by itself is not part of the
routing. -/
theorem trail_begin (inv : Invocation) (span : Option Span) (token : Token) (s : State) :
    s.Adds (inv.begin token s).1 [] ∧ (inv.begin token s).2.Trail inv.context span [] [] := by
  have started : s.Adds (inv.work.start s inv.caller token) [] := by
    have handed (t : State) :
        t.Adds (if inv.work.handsOut then t.handOut token else t) [] := by
      split
      · exact State.adds_of_same rfl rfl rfl
      · exact .refl t
    have cancels (b : Bool) (t : State) : t.Adds (if b then t.cancel inv.caller else t) [] := by
      split
      · exact State.adds_of_same rfl rfl rfl
      · exact .refl t
    have noted : s.Adds (s.note inv.work.began) [] := State.adds_of_same rfl rfl rfl
    cases work : inv.work with
    | bare key behavior lists =>
      rw [work] at noted handed
      exact noted.after ((handed _).after (cancels _ _))
    | serve made request lists =>
      rw [work] at noted handed
      have counted (t : State) : t.Adds { t with catalog := t.catalog.countRequest made } [] :=
        State.adds_of_same rfl rfl rfl
      exact noted.after ((counted _).after ((handed _).after (cancels _ _)))
  unfold begin
  split
  · exact ⟨.refl s, .done (.work span _)⟩
  · dsimp only
    split
    · exact ⟨started, .pending (.working span _ _ _)⟩
    · split
      · exact ⟨started, .done (.work span _)⟩
      · exact ⟨started, .pending (.working span _ _ _)⟩

/-- Entering built-in decorators begins a trail.

Proof: induction follows the decorators. Each of them either turns the attempt away, or lets it in
with an entry of its own before the trail of the rest. A decorator that lets it in may have changed
the state that it writes about; what it changes is no entry. -/
theorem trail_enter (inv : Invocation) (span : Option Span) {decorators : List Decorator}
    (builtIn : ∀ d ∈ decorators, d.isBuiltIn = true) (token : Token) (s : State) :
    ∃ added, s.Adds (inv.enter span decorators token s).1 added ∧
      (inv.enter span decorators token s).2.Trail inv.context span decorators added := by
  induction decorators generalizing span token s with
  | nil =>
    obtain ⟨adds, trail⟩ := inv.trail_begin span token s
    exact ⟨[], adds, trail⟩
  | cons d rest ih =>
    obtain ⟨known, others⟩ := List.forall_mem_cons.mp builtIn
    have lets {frame : Frame} {first : List Entry} {t : State} (inner : Token)
        (enters : frame.Enters inv.context d first) (opens : s.Adds t first) :
        ∃ added, s.Adds (inv.around span frame
            (inv.enter (frame.span span) rest inner t)).1 added ∧
          (inv.around span frame (inv.enter (frame.span span) rest inner t)).2.Trail inv.context
            span (d :: rest) added := by
      obtain ⟨added, adds, trail⟩ := ih (frame.span span) others inner t
      obtain ⟨more, goesOn, whole⟩ :=
        trail_around [] enters adds trail
      rw [List.append_nil] at whole
      exact ⟨first ++ more, opens.trans goesOn, whole⟩
    cases d with
    | logging router =>
      exact lets token (.logging router s.now rfl rfl) (State.adds_openSpan s rfl _)
    | timeout limit => exact lets _ (.timeout _ _ limit) (State.adds_of_same rfl rfl rfl)
    | circuitBreaker slot =>
      have arrives : s.Adds (s.updateCircuits slot (·.arrive inv.context.key s.now)) [] :=
        State.adds_of_same rfl rfl rfl
      cases admission : (s.circuitsAt slot).admission? inv.context.key s.now with
      | none =>
        rw [inv.enter_of_rejected span slot rest token s admission]
        exact ⟨_, arrives.after (State.adds_emit _ _ _), .done (.rejected (.circuit slot))⟩
      | some a =>
        rw [inv.enter_of_admitted span slot rest token s a admission]
        exact lets token (.circuit slot a) arrives
    | concurrencyLimit slot =>
      simp only [enter]
      split
      · exact ⟨_, State.adds_emit _ _ _, .done (.rejected (.limit slot))⟩
      · exact lets token (.permit slot) (State.adds_of_same rfl rfl rfl)
    | interceptor i => cases known

/-- Resuming an attempt continues its trail. The inside is resumed before the decorator looks at its
own time bound, so that what the inside writes comes before what the bound says. -/
theorem trail_resume {decorators : List Decorator} {before : List Entry} {flight : Flight}
    (trail : flight.Trail inv.context span decorators before) (s : State) :
    ∃ added, s.Adds (inv.resume span flight s).1 added ∧
      (inv.resume span flight s).2.Trail inv.context span decorators (before ++ added) := by
  induction trail generalizing s with
  | working span due token o =>
    simp only [resume]
    split
    · exact ⟨[], State.adds_of_same rfl rfl rfl, .done (.work span _)⟩
    · split
      · exact ⟨[], .refl s, .done (.work span _)⟩
      · exact ⟨[], .refl s, .pending (.working span due token o)⟩
  | within enters _ ih =>
    obtain ⟨added, adds, trail⟩ := ih s
    exact trail_around _ enters adds trail

end Invocation

end TrialRouting
