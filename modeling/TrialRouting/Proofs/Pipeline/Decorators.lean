import TrialRouting.Proofs.Breaker.Traffic
import TrialRouting.Proofs.Pipeline.Layers

/-!
# Pipelines as chains of layers

Entering and resuming an attempt go along the decorators that are still to be entered and along
those that it is inside of. Here each decorator is a layer by itself, which knows nothing of the
others, and the work is a service; the chain of a pipeline's layers around the work does what the
pipeline does, in every state.
-/

namespace TrialRouting

/-- What a turn of a service comes to, if what the service waits with stands for a flight. -/
def Turn.asReply {W : Type} (flight : W → Flight) (turn : Turn W) : State × Reply :=
  (turn.state, match turn.reply with
    | .inl o => .done o
    | .inr waiting => .pending (flight waiting))

/-- A flight inside an interceptor, if that takes part. -/
def Flight.inside (i : Interceptor) (inner : Flight) : Bool → Flight
  | true => .within (.intercepted i) inner
  | false => inner

namespace Invocation

variable (inv : Invocation)

/-- The work as a service: it is called unless its token is cancelled already. It waits until an
instant, or for ever, for the outcome that it will have. -/
def terminal : Service where
  Waiting := Option Instant × Token × Outcome
  enter _ token s :=
    if s.isCancelled token then ⟨s, .inl (.error cancelledFailure), []⟩
    else
      let behavior := inv.work.behavior s
      let s := inv.work.start s inv.caller token
      if behavior.hangs then ⟨s, .inr (none, token, behavior.outcome), [.called]⟩
      else if behavior.pause = 0 then ⟨s, .inl behavior.outcome, [.called]⟩
      else ⟨s, .inr (some (s.now + behavior.pause), token, behavior.outcome), [.called]⟩
  resume _ waiting s :=
    if s.isCancelled waiting.2.1 then
      ⟨s.note inv.work.dropped, .inl (.error cancelledFailure), []⟩
    else if waiting.1.any (· ≤ s.now) then ⟨s, .inl waiting.2.2, []⟩
    else ⟨s, .inr waiting, []⟩
  abandon _ s := (s.note inv.work.dropped, [])

/-- A time bound that has run out, and what it answers once its inside has been taken down. -/
def expiry? : Frame → State → Option (Option Trace.Span → State → State × Outcome)
  | .timeout token due limit, s =>
      if (Frame.timeout token due limit).isExpired s.now then
        some fun span s =>
          ((s.cancel token).emit span ⟨.debug, "attempt deadline exceeded",
            [Trace.text "key" inv.context.key, Trace.number "timeout_ms" limit.millis.toNat]⟩,
            .error (.routing (.timeout inv.context.key limit.millis)))
      else none
  | _, _ => none

/-- A decorator that never waits by itself as a layer: what it holds stands for a frame. -/
def plainLayer {Own : Type} (frame : Own → Frame)
    (enter : Option Trace.Span → Token → State → State × Layer.Move Empty Own) : Layer where
  Before := Empty
  Inside := Own
  After := Empty
  enter
  wake _ own := own.elim
  span own := (frame own).span
  receive span own o s := ((inv.leave span (frame own) o s).1, .inl o)
  finish _ own := own.elim
  expire? own := inv.expiry? (frame own)
  release hold s :=
    match hold with
    | .inside own => (frame own).release inv.context.key s
    | _ => s

/-- An interceptor's move once it has waited on the way in. -/
def interceptorMove (i : Interceptor) (token : Token) (s : State) :
    State × Layer.Move (Instant × Token) Bool :=
  match i.answer inv.context with
  | some o => (s, .answer o)
  | none =>
      let own := s.tokens.nextRoot
      if i.detaches then (s.issueToken.cancel own, .next true own) else (s, .next true token)

/-- An interceptor has waited on the way out, or need not wait. -/
def interceptorAnswer (i : Interceptor) (o : Outcome) (s : State) :
    State × (Outcome ⊕ Instant × Outcome) :=
  (s.notes ((i.leaveRemarks o).map .remark), .inl (i.passOn inv.context o))

/-- An interceptor as a layer. On the way in it waits with the token for its inside, and on the way
out with the outcome that it has received; in between it knows whether it takes part. -/
def interceptorLayer (i : Interceptor) : Layer where
  Before := Instant × Token
  Inside := Bool
  After := Instant × Outcome
  enter _ token s :=
    if i.applies inv.context then
      let s := s.notes ((i.enterRemarks inv.context (s.isCancelled token)).map .remark)
      let s := if i.cancelsCaller then s.cancel inv.caller else s
      if i.pauseBefore = 0 then inv.interceptorMove i token s
      else (s, .wait (s.now + i.pauseBefore, token))
    else (s, .next false token)
  wake _ own s := if own.1 ≤ s.now then inv.interceptorMove i own.2 s else (s, .wait own)
  span _ outer := outer
  receive _ takesPart o s :=
    if takesPart then
      if i.pauseAfter = 0 then inv.interceptorAnswer i o s
      else (s, .inr (s.now + i.pauseAfter, o))
    else (s, .inl o)
  finish _ own s := if own.1 ≤ s.now then inv.interceptorAnswer i own.2 s else (s, .inr own)
  expire? _ _ := none
  release _ s := s

/-- A decorator as a layer. -/
def layer : Decorator → Layer
  | .logging router =>
      inv.plainLayer (fun own => .logging own.1 own.2) fun _ token s =>
        let c := inv.context
        let own := s.nextSpan "attempt" c.invocation
        let s := s.openSpan own
          [Trace.text "router" router, Trace.text "service" c.service,
            Trace.text "method" c.method, Trace.text "key" c.key,
            Trace.number "attempt" c.attempt.toNat]
        (s, .next (own, s.now) token)
  | .timeout limit =>
      inv.plainLayer (fun own => .timeout own.1 own.2 limit) fun _ token s =>
        let own := s.tokens.nextChild token
        (s.issueToken, .next (own, s.timer.due? s.now limit) own)
  | .circuitBreaker slot =>
      inv.plainLayer (.circuit slot) fun span token s =>
        let key := inv.context.key
        let admission := (s.circuitsAt slot).admission? key s.now
        let s := s.updateCircuits slot (·.arrive key s.now)
        match admission with
        | none =>
            (s.emit span ⟨.debug, "circuit open, attempt rejected", inv.serviceAndKey⟩,
              .answer (.error (.routing (.circuitOpen inv.context.service key))))
        | some admission => (s, .next admission token)
  | .concurrencyLimit slot =>
      inv.plainLayer (fun _ : Unit => .permit slot) fun span token s =>
        if (s.limiterAt slot).isExhausted then
          (s.emit span
            ⟨.debug, "concurrency limit reached, attempt rejected", inv.serviceAndKey⟩,
            .answer (.error (.routing .overloaded)))
        else (s.updateLimiter slot (·.take), .next () token)
  | .interceptor i => inv.interceptorLayer i

/-- The layers of a pipeline around the work, in place. -/
def service (place : Nat) (decorators : List Decorator) : Service :=
  chain place (decorators.map inv.layer) inv.terminal

/-- The flight that a decorator and what is inside it wait as. -/
def flightWithin (rest : List Decorator) {W : Type} (inner : W → Flight) :
    (d : Decorator) → (inv.layer d).Waiting W → Flight
  | .logging _, .around own waiting => .within (.logging own.1 own.2) (inner waiting)
  | .timeout limit, .around own waiting => .within (.timeout own.1 own.2 limit) (inner waiting)
  | .circuitBreaker slot, .around own waiting => .within (.circuit slot own) (inner waiting)
  | .concurrencyLimit slot, .around _ waiting => .within (.permit slot) (inner waiting)
  | .interceptor i, .before own => .entering own.1 i own.2 rest
  | .interceptor i, .around takesPart waiting => (inner waiting).inside i takesPart
  | .interceptor i, .after own _ => .leaving own.1 i own.2
  | .logging _, .before own => Empty.elim own
  | .logging _, .after own _ => Empty.elim own
  | .timeout _, .before own => Empty.elim own
  | .timeout _, .after own _ => Empty.elim own
  | .circuitBreaker _, .before own => Empty.elim own
  | .circuitBreaker _, .after own _ => Empty.elim own
  | .concurrencyLimit _, .before own => Empty.elim own
  | .concurrencyLimit _, .after own _ => Empty.elim own

/-- The flight that a chain of layers waits as. -/
def flight : (place : Nat) → (decorators : List Decorator) →
    (inv.service place decorators).Waiting → Flight
  | _, [], waiting => .working waiting.1 waiting.2.1 waiting.2.2
  | place, d :: decorators, waiting =>
      inv.flightWithin decorators (flight (place + 1) decorators) d waiting

/-! ### What a chain does -/

/-- A service does what an attempt does from some decorators on, in every state. -/
structure Mirrors (s : Service) (flight : s.Waiting → Flight) (rest : List Decorator) : Prop where
  enter : ∀ span token u, (s.enter span token u).asReply flight = inv.enter span rest token u
  resume : ∀ span waiting u,
    (s.resume span waiting u).asReply flight = inv.resume span (flight waiting) u
  abandon : ∀ waiting u, (s.abandon waiting u).1 = inv.abandon (flight waiting) u

variable {inv} {s : Service} {flight : s.Waiting → Flight} {rest : List Decorator}

/-- A time bound gives up its inside if it has run out, and no other decorator does. -/
theorem expiry?_cases (frame : Frame) (u : State) :
    frame.isExpired u.now = false ∧ inv.expiry? frame u = none ∨
      frame.isExpired u.now = true ∧ ∃ expire, inv.expiry? frame u = some expire ∧
        ∀ span inner, inv.expire span frame inner u =
          ((expire span (inv.abandon inner u)).1, .done (expire span (inv.abandon inner u)).2) := by
  cases frame with
  | timeout token due limit =>
    cases missed : (Frame.timeout token due limit).isExpired u.now with
    | false => exact .inl ⟨rfl, by rw [expiry?, missed]; rfl⟩
    | true => exact .inr ⟨rfl, _, by rw [expiry?, missed]; rfl, fun _ _ => rfl⟩
  | _ => exact .inl ⟨rfl, rfl⟩

section Plain

variable {Own : Type} {frame : Own → Frame}
  {enter : Option Trace.Span → Token → State → State × Layer.Move Empty Own}
  {waits : (inv.plainLayer frame enter).Waiting s.Waiting → Flight}

/-- A decorator that never waits by itself makes the same of its inside, whether it is a layer or a
frame of a flight. It is left when its inside has answered, and otherwise it may give that up; a
decorator of this kind never has a turn of its own in between. -/
theorem around_plain (mirrors : inv.Mirrors s flight rest) (place : Nat)
    (span : Option Trace.Span) (own : Own) (inside : Turn s.Waiting)
    (plain : ∀ i, frame own ≠ .intercepted i)
    (around : ∀ waiting, waits (.around own waiting) = .within (frame own) (flight waiting)) :
    ((inv.plainLayer frame enter).around place s span own inside).asReply waits =
      inv.around span (frame own) (inside.asReply flight) := by
  obtain ⟨u, reply, prints⟩ := inside
  cases reply with
  | inl o =>
    have leaves : inv.leave span (frame own) o u =
        ((inv.leave span (frame own) o u).1, .done o) := by
      cases found : frame own with
      | intercepted i => exact absurd found (plain i)
      | _ => rfl
    exact leaves.symm
  | inr waiting =>
    rcases inv.expiry?_cases (frame own) u with ⟨inTime, none'⟩ | ⟨missed, expire, some', expires⟩
    · simp only [Layer.around, plainLayer, none', Turn.asReply, Invocation.around, inTime, if_false,
        Bool.false_eq_true]
      exact congrArg (fun waits => (u, Reply.pending waits)) (around waiting)
    · simp only [Layer.around, plainLayer, some', Turn.asReply, Invocation.around, missed, if_true,
        expires, mirrors.abandon]

/-- A decorator that never waits by itself, around a service that does what is inside it, does what
both do if it answers or lets an attempt in alike. The four built-in decorators are of this kind,
and differ in how they let an attempt in and in what they hold. -/
theorem mirrors_plain {d : Decorator} (mirrors : inv.Mirrors s flight rest) (place : Nat)
    (plain : ∀ own i, frame own ≠ .intercepted i)
    (around : ∀ own waiting, waits (.around own waiting) = .within (frame own) (flight waiting))
    (enters : ∀ span token u,
      (∃ v o, enter span token u = (v, .answer o) ∧
        inv.enter span (d :: rest) token u = (v, .done o)) ∨
      ∃ v own inner, enter span token u = (v, .next own inner) ∧
        inv.enter span (d :: rest) token u =
          inv.around span (frame own) (inv.enter ((frame own).span span) rest inner v)) :
    inv.Mirrors ((inv.plainLayer frame enter).wrap place s) waits (d :: rest) where
  enter span token u := by
    show ((inv.plainLayer frame enter).follow place s span (enter span token u)).asReply waits = _
    rcases enters span token u with ⟨v, o, moves, same⟩ | ⟨v, own, inner, moves, same⟩
    · rw [moves, same]
      rfl
    · rw [moves, same, ← mirrors.enter]
      exact around_plain mirrors place span own _ (plain own) (around own)
  resume span waiting u := by
    cases waiting with
    | before own => exact own.elim
    | after own received => exact own.elim
    | around own waiting =>
      rw [around, resume, ← mirrors.resume]
      exact around_plain mirrors place span own _ (plain own) (around own)
  abandon waiting u := by
    cases waiting with
    | before own => exact own.elim
    | after own received => exact own.elim
    | around own waiting =>
      rw [around, abandon, ← mirrors.abandon]
      rfl

end Plain

/-- An interceptor that takes part makes the same of its inside, and one that does not makes nothing
of it: it has handed the attempt on and is not seen any more. -/
theorem around_interceptor (inv : Invocation) (flight : s.Waiting → Flight) (rest : List Decorator)
    (i : Interceptor) (place : Nat) (span : Option Trace.Span) (takesPart : Bool)
    (inside : Turn s.Waiting) :
    ((inv.interceptorLayer i).around place s span takesPart inside).asReply
        (inv.flightWithin rest flight (.interceptor i)) =
      if takesPart then inv.around span (.intercepted i) (inside.asReply flight)
      else inside.asReply flight := by
  obtain ⟨u, reply, prints⟩ := inside
  cases takesPart with
  | false => cases reply <;> rfl
  | true =>
    cases reply with
    | inl o =>
      by_cases atOnce : i.pauseAfter = 0
      · simp only [Layer.around, interceptorLayer, interceptorAnswer, Turn.asReply, atOnce, if_true,
          Invocation.around, leave, Interceptor.leave]
      · simp only [Layer.around, interceptorLayer, Turn.asReply, flightWithin, atOnce, if_true,
          if_false, Invocation.around, leave]
    | inr waiting => rfl

/-- An interceptor that has had its say goes on alike. -/
theorem follow_interceptor (mirrors : inv.Mirrors s flight rest) (i : Interceptor) (place : Nat)
    (span : Option Trace.Span) (token : Token) (u : State) :
    ((inv.interceptorLayer i).follow place s span (inv.interceptorMove i token u)).asReply
        (inv.flightWithin rest flight (.interceptor i)) =
      inv.proceed span i token (fun token s => inv.enter span rest token s) u := by
  have entered (token : Token) (u : State) :=
    around_interceptor inv flight rest i place span true (s.enter span token u)
  simp only [mirrors.enter, if_true] at entered
  cases answer : i.answer inv.context with
  | some o =>
    simp only [interceptorMove, proceed, answer]
    rfl
  | none =>
    cases detaches : i.detaches with
    | true =>
      simp only [interceptorMove, proceed, answer, detaches, if_true]
      exact entered _ _
    | false =>
      simp only [interceptorMove, proceed, answer, detaches, if_false, Bool.false_eq_true]
      exact entered _ _

/-- An interceptor, around a service that does what is inside it, does what both do. It is the one
decorator that may wait by itself, before it calls its inside and after that has answered; so its
turns are compared in all three places. -/
theorem mirrors_interceptor (mirrors : inv.Mirrors s flight rest) (place : Nat) (i : Interceptor) :
    inv.Mirrors ((inv.interceptorLayer i).wrap place s)
      (inv.flightWithin rest flight (.interceptor i)) (.interceptor i :: rest) where
  enter span token u := by
    show ((inv.interceptorLayer i).follow place s span
      ((inv.interceptorLayer i).enter span token u)).asReply _ = _
    cases applies : i.applies inv.context with
    | false =>
      have passes := around_interceptor inv flight rest i place span false (s.enter span token u)
      simp only [mirrors.enter, if_false, Bool.false_eq_true] at passes
      simp only [interceptorLayer, Invocation.enter, meet, applies, if_false, Bool.false_eq_true]
      exact passes
    | true =>
      by_cases atOnce : i.pauseBefore = 0
      · simp only [interceptorLayer, Invocation.enter, meet, applies, atOnce, if_true]
        exact follow_interceptor mirrors i place span token _
      · simp only [interceptorLayer, Invocation.enter, meet, applies, atOnce, if_true, if_false]
        rfl
  resume span waiting u := by
    cases waiting with
    | before own =>
      show ((inv.interceptorLayer i).follow place s span
        ((inv.interceptorLayer i).wake span own u)).asReply _ = _
      by_cases due : own.1 ≤ u.now
      · simp only [interceptorLayer, flightWithin, Invocation.resume, due, if_true]
        exact follow_interceptor mirrors i place span own.2 u
      · simp only [interceptorLayer, flightWithin, Invocation.resume, due, if_false]
        rfl
    | around takesPart waiting =>
      have same := around_interceptor inv flight rest i place span takesPart
        (s.resume span waiting u)
      rw [mirrors.resume] at same
      cases takesPart with
      | true => exact same
      | false => exact same
    | after own received =>
      by_cases due : own.1 ≤ u.now
      · simp only [Layer.wrap, interceptorLayer, interceptorAnswer, flightWithin, Turn.asReply,
          Invocation.resume, due, if_true, Interceptor.leave]
      · simp only [Layer.wrap, interceptorLayer, flightWithin, Turn.asReply, Invocation.resume, due,
          if_false]
  abandon waiting u := by
    cases waiting with
    | before own => rfl
    | around takesPart waiting =>
      cases takesPart with
      | true => exact mirrors.abandon waiting u
      | false => exact mirrors.abandon waiting u
    | after own received => rfl

/-- A decorator around a service that does what is inside it does what both do. The built-in
decorators follow from the lemma on those that never wait by themselves, each with its own way of
letting an attempt in. -/
theorem Mirrors.wrap (mirrors : inv.Mirrors s flight rest) (place : Nat) (d : Decorator) :
    inv.Mirrors ((inv.layer d).wrap place s) (inv.flightWithin rest flight d) (d :: rest) := by
  cases d with
  | logging router =>
    exact mirrors_plain mirrors place nofun (fun _ _ => rfl) fun span token u =>
      .inr ⟨_, _, _, rfl, rfl⟩
  | timeout limit =>
    exact mirrors_plain mirrors place nofun (fun _ _ => rfl) fun span token u =>
      .inr ⟨_, _, _, rfl, rfl⟩
  | circuitBreaker slot =>
    refine mirrors_plain mirrors place nofun (fun _ _ => rfl) fun span token u => ?_
    cases admission : (u.circuitsAt slot).admission? inv.context.key u.now with
    | none =>
      exact .inl ⟨_, _, by simp only [admission],
        inv.enter_of_rejected span slot rest token u admission⟩
    | some a =>
      exact .inr ⟨_, a, token, by simp only [admission],
        inv.enter_of_admitted span slot rest token u a admission⟩
  | concurrencyLimit slot =>
    refine mirrors_plain mirrors place nofun (fun _ _ => rfl) fun span token u => ?_
    cases exhausted : (u.limiterAt slot).isExhausted with
    | true => exact .inl ⟨_, _, rfl, by simp only [Invocation.enter, exhausted, if_true]⟩
    | false =>
      exact .inr ⟨_, (), token, rfl, by
        simp only [Invocation.enter, exhausted, if_false, Bool.false_eq_true, Frame.span]⟩
  | interceptor i => exact mirrors_interceptor mirrors place i

/-- The work as a service does what the work of an attempt does: it is called unless its token is
cancelled, it waits until it is done, and a token that is cancelled meanwhile is looked at first. -/
theorem mirrors_terminal (inv : Invocation) :
    inv.Mirrors inv.terminal (fun waiting => .working waiting.1 waiting.2.1 waiting.2.2) [] where
  enter span token u := by
    simp only [terminal, enter, begin, Turn.asReply]
    split
    · rfl
    · split
      · rfl
      · split
        · rfl
        · rfl
  resume span waiting u := by
    simp only [terminal, resume, Turn.asReply]
    split
    · rfl
    · split
      · rfl
      · rfl
  abandon waiting u := rfl

/-- The chain of a pipeline's layers does what the pipeline does, in every state. The induction
follows the decorators from the work on, one layer at a time. -/
theorem mirrors_service (inv : Invocation) (place : Nat) (decorators : List Decorator) :
    inv.Mirrors (inv.service place decorators) (inv.flight place decorators) decorators := by
  induction decorators generalizing place with
  | nil => exact mirrors_terminal inv
  | cons d decorators ih => exact (ih (place + 1)).wrap place d

end Invocation

end TrialRouting
