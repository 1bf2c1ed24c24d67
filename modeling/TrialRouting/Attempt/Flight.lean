import TrialRouting.Attempt.Decorator

/-!
# Attempts in flight

An attempt enters the decorators from the outermost to the innermost, does its work,
and leaves them in the reverse order. While something in it waits, the attempt is
kept as a value: the decorators it is inside of, around the thing that waits.

Resuming it goes to the innermost part first. Whatever has come to its end leaves the
decorators around it one by one; only when the inside still waits does a time bound
look at the clock. So work that is due at the very millisecond of a bound is in time,
and of two bounds that are due together the inner one expires. An expired or
abandoned attempt is taken down from the inside out, each part giving back what it
holds; nothing of it runs afterwards.
-/

namespace TrialRouting

/-- What the innermost part of an attempt does. -/
inductive Work where
  /-- A piece of work of its own. -/
  | bare (key : String) (behavior : Behavior) (handsOut : Bool)
  /-- A request to an instance. -/
  | serve (made : Instance) (request : Request) (handsOut : Bool)

/-- What an attempt is about: its context, the caller's token, and its work. -/
structure Invocation where
  context : Context
  caller : Token
  work : Work

namespace Work

/-- The line written when the work starts. -/
def began : Work → Note
  | bare key _ _ => .workBegan key
  | serve made request _ => .called made request

/-- The line written when the work is abandoned. -/
def dropped : Work → Note
  | bare key _ _ => .workDropped key
  | serve made _ _ => .dropped made

/-- Whether the token it gets is listed. -/
def handsOut : Work → Bool
  | bare _ _ h => h
  | serve _ _ h => h

/-- What it does if it starts now. -/
def behavior (s : State) : Work → Behavior
  | bare _ b _ => b
  | serve made request _ => s.catalog.behavior made request

/-- The state after it has started under a token. -/
def start (w : Work) (s : State) (caller token : Token) : State :=
  let cancels := (w.behavior s).cancelsCaller
  let s := s.note w.began
  let s := match w with
    | bare _ _ _ => s
    | serve made _ _ => { s with catalog := s.catalog.countRequest made }
  let s := if w.handsOut then s.handOut token else s
  if cancels then s.cancel caller else s

end Work

/-- A decorator that an attempt is inside of. -/
inductive Frame where
  | logging (span : Trace.Span) (since : Instant)
  /-- The token of the inside, when it expires, and after how long. -/
  | timeout (token : Token) (due : Option Instant) (limit : Duration)
  | circuit (slot : Nat) (admission : Admission)
  | permit (slot : Nat)
  | intercepted (i : Interceptor)

/-- An attempt that waits. -/
inductive Flight where
  /-- Inside a decorator. -/
  | within (frame : Frame) (inner : Flight)
  /-- An interceptor waits on the way in; the rest of the chain is still to come. -/
  | entering (due : Instant) (i : Interceptor) (token : Token) (rest : List Decorator)
  /-- The work goes on until an instant, or for ever. -/
  | working (due : Option Instant) (token : Token) (outcome : Outcome)
  /-- An interceptor waits on the way out. -/
  | leaving (due : Instant) (i : Interceptor) (outcome : Outcome)

/-- What entering or resuming an attempt leads to. -/
inductive Reply where
  | done (outcome : Outcome)
  | pending (flight : Flight)

/-- The failure of a cancelled attempt. -/
def cancelledFailure : Failure := .routing .cancelled

namespace Flight

/-- The instants at which something in the attempt is due. -/
def timers : Flight → List Instant
  | within (.timeout _ due _) inner => due.toList ++ inner.timers
  | within _ inner => inner.timers
  | entering due _ _ _ => [due]
  | working due _ _ => due.toList
  | leaving due _ _ => [due]

end Flight

namespace Frame

/-- The innermost span inside the decorator. -/
def span (frame : Frame) (outer : Option Trace.Span) : Option Trace.Span :=
  match frame with
  | logging span _ => some span
  | _ => outer

/-- Whether the decorator's time bound has run out. -/
def isExpired (frame : Frame) (now : Instant) : Bool :=
  match frame with
  | timeout _ (some due) _ => due ≤ now
  | _ => false

/-- The decorator gives back what it holds, its inside having been taken down. -/
def release (frame : Frame) (key : String) (s : State) : State :=
  match frame with
  | circuit slot admission => s.updateCircuits slot (·.ignore key admission)
  | permit slot => s.updateLimiter slot (·.giveBack)
  | _ => s

end Frame

namespace Interceptor

/-- An interceptor's last words on the way out. -/
def leave (i : Interceptor) (c : Context) (o : Outcome) (s : State) : State × Reply :=
  (s.notes ((i.leaveRemarks o).map .remark), .done (i.passOn c o))

end Interceptor

namespace Invocation

/-- Takes an attempt down from the inside out. -/
def abandon (inv : Invocation) : Flight → State → State
  | .within frame inner, s => frame.release inv.context.key (abandon inv inner s)
  | .working _ _ _, s => s.note inv.work.dropped
  | .entering _ _ _ _, s => s
  | .leaving _ _ _, s => s

/-- Fields that name the service and key of an attempt. -/
def serviceAndKey (inv : Invocation) : List Trace.Field :=
  [Trace.text "service" inv.context.service, Trace.text "key" inv.context.key]

/-- The logging decorator is left: the span gets the duration and the outcome, and an
    event inside it says how the attempt ended. -/
def logOutcome (inv : Invocation) (span : Trace.Span) (since : Instant) (o : Outcome)
    (s : State) : State :=
  let c := inv.context
  let duration := Trace.number "duration_ms" (s.now - since)
  let outcome := Trace.text "outcome" (Outcome.label o)
  let fields := [Trace.text "service" c.service, Trace.text "method" c.method,
    Trace.text "key" c.key, duration]
  let s := (s.record (.recorded span [duration])).record (.recorded span [outcome])
  match o with
  | .ok _ => s.emit (some span) ⟨.info, "attempt complete", fields⟩
  | .error f =>
      s.emit (some span)
        ⟨.warn, "attempt failed", fields ++ [outcome, Trace.text "error" f.message]⟩

/-- A circuit learns how an admitted attempt ended. -/
def settleCircuit (inv : Invocation) (span : Option Trace.Span) (slot : Nat)
    (admission : Admission) (o : Outcome) (s : State) : State :=
  let key := inv.context.key
  match o with
  | .ok _ => s.updateCircuits slot (·.succeed key admission)
  | .error (.routing .cancelled) => s.updateCircuits slot (·.ignore key admission)
  | .error _ =>
      let circuits := s.circuitsAt slot
      let opens := circuits.opensOnFailure key admission s.now
      let s := s.updateCircuits slot (·.fail key admission s.now)
      if opens then
        s.emit span ⟨.warn, "circuit opened",
          inv.serviceAndKey ++ [Trace.number "reset_timeout_ms" circuits.resetMillis]⟩
      else s

/-- A decorator is left with an outcome. -/
def leave (inv : Invocation) (span : Option Trace.Span) (frame : Frame) (o : Outcome)
    (s : State) : State × Reply :=
  match frame with
  | .logging own since => (inv.logOutcome own since o s, .done o)
  | .timeout _ _ _ => (s, .done o)
  | .circuit slot admission => (inv.settleCircuit span slot admission o s, .done o)
  | .permit slot => (s.updateLimiter slot (·.giveBack), .done o)
  | .intercepted i =>
      if i.pauseAfter = 0 then i.leave inv.context o s
      else (s, .pending (.leaving (s.now + i.pauseAfter) i o))

/-- A time bound has run out: the inside is taken down, its token cancelled, and the
    attempt fails. -/
def expire (inv : Invocation) (span : Option Trace.Span) (frame : Frame) (inner : Flight)
    (s : State) : State × Reply :=
  let key := inv.context.key
  match frame with
  | .timeout token _ limit =>
      let s := (inv.abandon inner s).cancel token
      let s := s.emit span ⟨.debug, "attempt deadline exceeded",
        [Trace.text "key" key, Trace.number "timeout_ms" limit.millis.toNat]⟩
      (s, .done (.error (.routing (.timeout key limit.millis))))
  | _ => (s, .pending (.within frame inner))

/-- What a decorator makes of what its inside has come to. -/
def around (inv : Invocation) (span : Option Trace.Span) (frame : Frame)
    (inside : State × Reply) : State × Reply :=
  match inside with
  | (s, .done o) => inv.leave span frame o s
  | (s, .pending inner) =>
      if frame.isExpired s.now then inv.expire span frame inner s
      else (s, .pending (.within frame inner))

/-- The work starts, unless its token is cancelled already. -/
def begin (inv : Invocation) (token : Token) (s : State) : State × Reply :=
  if s.isCancelled token then (s, .done (.error cancelledFailure))
  else
    let behavior := inv.work.behavior s
    let s := inv.work.start s inv.caller token
    if behavior.hangs then (s, .pending (.working none token behavior.outcome))
    else if behavior.pause = 0 then (s, .done behavior.outcome)
    else (s, .pending (.working (some (s.now + behavior.pause)) token behavior.outcome))

/-- An interceptor has finished waiting: it answers, or the rest of the chain runs
    inside it. -/
def proceed (inv : Invocation) (span : Option Trace.Span) (i : Interceptor) (token : Token)
    (rest : Token → State → State × Reply) (s : State) : State × Reply :=
  match i.answer inv.context with
  | some o => (s, .done o)
  | none =>
      if i.detaches then
        let own := s.tokens.nextRoot
        inv.around span (.intercepted i) (rest own (s.issueToken.cancel own))
      else inv.around span (.intercepted i) (rest token s)

/-- An interceptor is met on the way in. -/
def meet (inv : Invocation) (span : Option Trace.Span) (i : Interceptor) (token : Token)
    (rest : List Decorator) (run : Token → State → State × Reply) (s : State) :
    State × Reply :=
  if i.applies inv.context then
    let s := s.notes ((i.enterRemarks inv.context (s.isCancelled token)).map .remark)
    let s := if i.cancelsCaller then s.cancel inv.caller else s
    if i.pauseBefore = 0 then inv.proceed span i token run s
    else (s, .pending (.entering (s.now + i.pauseBefore) i token rest))
  else run token s

/-- The decorators are entered, outermost first, and then the work. -/
def enter (inv : Invocation) (span : Option Trace.Span) :
    List Decorator → Token → State → State × Reply
  | [], token, s => inv.begin token s
  | .logging router :: rest, token, s =>
      let c := inv.context
      let own := s.nextSpan "attempt" c.invocation
      let s := s.openSpan own
        [Trace.text "router" router, Trace.text "service" c.service,
          Trace.text "method" c.method, Trace.text "key" c.key,
          Trace.number "attempt" c.attempt.toNat]
      inv.around span (.logging own s.now) (enter inv (some own) rest token s)
  | .timeout limit :: rest, token, s =>
      let own := s.tokens.nextChild token
      inv.around span (.timeout own (s.timer.due? s.now limit) limit)
        (enter inv span rest own s.issueToken)
  | .circuitBreaker slot :: rest, token, s =>
      let key := inv.context.key
      let admission := (s.circuitsAt slot).admission? key s.now
      let s := s.updateCircuits slot (·.arrive key s.now)
      match admission with
      | none =>
          (s.emit span ⟨.debug, "circuit open, attempt rejected", inv.serviceAndKey⟩,
            .done (.error (.routing (.circuitOpen inv.context.service key))))
      | some admission =>
          inv.around span (.circuit slot admission) (enter inv span rest token s)
  | .concurrencyLimit slot :: rest, token, s =>
      if (s.limiterAt slot).isExhausted then
        (s.emit span ⟨.debug, "concurrency limit reached, attempt rejected", inv.serviceAndKey⟩,
          .done (.error (.routing .overloaded)))
      else
        inv.around span (.permit slot)
          (enter inv span rest token (s.updateLimiter slot (·.take)))
  | .interceptor i :: rest, token, s =>
      inv.meet span i token rest (fun token s => enter inv span rest token s) s

/-- An attempt that waited is resumed. -/
def resume (inv : Invocation) (span : Option Trace.Span) : Flight → State → State × Reply
  | .within frame inner, s =>
      inv.around span frame (resume inv (frame.span span) inner s)
  | .entering due i token rest, s =>
      if due ≤ s.now then
        inv.proceed span i token (fun token s => inv.enter span rest token s) s
      else (s, .pending (.entering due i token rest))
  | .working due token o, s =>
      if s.isCancelled token then
        (s.note inv.work.dropped, .done (.error cancelledFailure))
      else if due.any (· ≤ s.now) then (s, .done o)
      else (s, .pending (.working due token o))
  | .leaving due i o, s =>
      if due ≤ s.now then i.leave inv.context o s
      else (s, .pending (.leaving due i o))

end Invocation

end TrialRouting
