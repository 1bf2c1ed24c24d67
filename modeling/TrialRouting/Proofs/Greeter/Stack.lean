import TrialRouting.Greeter
import TrialRouting.Proofs.Attempt.Runs
import TrialRouting.Proofs.Greeter.Standing

/-!
# Attempts at a greeting

The router of the greeter command puts four decorators around each attempt: logging, a limit on
attempts at once, circuits, and a bound on the time. Here such an attempt is followed through
all four. It is rejected by an open circuit, or it comes to its work and waits for it, unless the
work is done at once; then the work is done in time, or the bound runs out first, or the attempt
is taken down from outside. In each case the permit is given back and the circuit of the
attempt's key learns how it ended.
-/

namespace TrialRouting

namespace Greeter

/-- The bound on the time of an attempt. -/
def bound : Duration := .ofMillis config.attemptMillis

/-- The decorators of the greeter's router. -/
def stack : Pipeline :=
  [.logging commandName, .concurrencyLimit 0, .circuitBreaker 0, .timeout bound]

/-- The decorators around an attempt that has come to its work. -/
def enclosure (span : Trace.Span) (since : Instant) (a : Admission) (token : Token)
    (due : Option Instant) : List Frame :=
  [.logging span since, .permit 0, .circuit 0 a, .timeout token due bound]

/-- What a call finds at the decorators of the greeter's router: their circuits, and how many
permits are in hand. -/
def desk (now : Instant) (tokens : TokenForest) (circuits : Circuits) (available : Nat)
    (backdrop : Backdrop) : Standing :=
  ⟨now, tokens, [circuits], [⟨config.maxConcurrent, available⟩], backdrop⟩

end Greeter

open Greeter

/-- Whether a token is cancelled depends on the tokens that are found. -/
theorem State.isCancelled_of_desk {s : State} {now : Instant} {f : TokenForest} {c : Circuits}
    {available : Nat} {backdrop : Backdrop}
    (found : s.standing = desk now f c available backdrop) (token : Token) :
    s.isCancelled token = f.isCancelled token := by
  rw [isCancelled, show s.tokens = f from congrArg Standing.tokens found]

/-- What it shows that an attempt on a key has left a decorator, or has been taken down there. -/
def Frame.settle (frame : Frame) (key : String) (how : Settlement) (standing : Standing) :
    Standing :=
  match frame with
  | .circuit slot a =>
      { standing with circuits := standing.circuits.modify slot (·.settle key a standing.now how) }
  | .permit slot => { standing with limiters := standing.limiters.modify slot (·.giveBack) }
  | _ => standing

/-- What a piece of work does whenever it is asked before a backdrop: it comes to an end, and leaves
its caller's token alone. -/
structure Work.Does (w : Work) (backdrop : Backdrop) (b : Behavior) : Prop where
  behavior : ∀ s : State, s.backdrop = backdrop → w.behavior s = b
  ends : b.hangs = false
  cancelsNobody : b.cancelsCaller = false

/-- What the work comes to if it starts now under a token. -/
def Behavior.reply (b : Behavior) (now : Instant) (token : Token) : Reply :=
  if b.pause = 0 then .done b.outcome
  else .pending (.working (some (now + b.pause)) token b.outcome)

/-- A decorator that lets attempts out as they are. -/
def Frame.IsSmooth : Frame → Prop
  | .intercepted _ => False
  | _ => True

namespace Invocation

variable {inv : Invocation} {s : State} {span : Option Trace.Span} {own : Trace.Span}
  {now since : Instant} {f : TokenForest} {c : Circuits} {available : Nat} {backdrop : Backdrop}
  {token inner : Token} {a : Admission} {due : Option Instant} {frames : List Frame}
  {b : Behavior}

/-! ### Decorators around an attempt -/

/-- Leaving the logging decorator only shows in the trace. -/
theorem standing_logOutcome (inv : Invocation) (span : Trace.Span) (since : Instant) (o : Outcome)
    (s : State) : (inv.logOutcome span since o s).standing = s.standing := by
  cases o <;> rfl

/-- A decorator is left with the outcome of its inside, and settles what it has to at its circuit or
its limit. -/
theorem leave_settles {frame : Frame} (smooth : frame.IsSmooth) (span : Option Trace.Span)
    (o : Outcome) (s : State) : ∃ s', inv.leave span frame o s = (s', .done o) ∧
      s'.standing = frame.settle inv.context.key (.ofOutcome o) s.standing := by
  cases frame with
  | logging own since => exact ⟨_, rfl, inv.standing_logOutcome own since o s⟩
  | timeout token due limit => exact ⟨s, rfl, rfl⟩
  | circuit slot a =>
    obtain ⟨entries, settled⟩ := inv.settleCircuit_eq span slot a o s
    exact ⟨_, congrArg (·, Reply.done o) settled, rfl⟩
  | permit slot => exact ⟨_, rfl, rfl⟩
  | intercepted i => cases smooth

/-- So are all those around it, from the inside out, each with the same outcome. -/
theorem enclose_settles (frames : List Frame) (smooth : ∀ frame ∈ frames, frame.IsSmooth)
    (span : Option Trace.Span) (o : Outcome) (s : State) :
    ∃ s', inv.enclose span frames (s, .done o) = (s', .done o) ∧
      s'.standing =
        frames.foldr (·.settle inv.context.key (.ofOutcome o) ·) s.standing := by
  induction frames generalizing span with
  | nil => exact ⟨s, rfl, rfl⟩
  | cons frame frames ih =>
    obtain ⟨own, others⟩ := List.forall_mem_cons.mp smooth
    obtain ⟨t, inside, standing⟩ := ih others (frame.span span)
    obtain ⟨s', left, outside⟩ := inv.leave_settles own span o t
    refine ⟨s', ?_, ?_⟩
    · rw [enclose, inside]
      exact left
    · rw [outside, standing]
      rfl

/-- An attempt that waits is taken down from the inside out, and no circuit counts that. -/
theorem standing_abandon (frames : List Frame) (due : Option Instant) (token : Token)
    (o : Outcome) (s : State) :
    (inv.abandon ((Flight.working due token o).nested frames) s).standing =
      frames.foldr (·.settle inv.context.key .ignored ·) s.standing := by
  induction frames with
  | nil => rfl
  | cons frame frames ih =>
    have released (t : State) : (frame.release inv.context.key t).standing =
        frame.settle inv.context.key .ignored t.standing := by
      cases frame <;> rfl
    rw [List.foldr_cons, ← ih]
    exact released _

/-! ### The way in -/

/-- With a permit in hand, an attempt comes to the circuits. One permit less is available then. -/
theorem enter_stack (span : Option Trace.Span) (token : Token)
    (found : s.standing = desk now f c (available + 1) backdrop) :
    ∃ own s', inv.enter span stack token s =
        inv.enclose span [.logging own now, .permit 0]
          (inv.enter (some own) [.circuitBreaker 0, .timeout bound] token s') ∧
      s'.standing = desk now f c available backdrop := by
  have limiters : s.limiters = [⟨config.maxConcurrent, available + 1⟩] :=
    congrArg Standing.limiters found
  obtain rfl : s.now = now := congrArg Standing.now found
  have free : ¬ (s.limiterAt 0).isExhausted = true := by
    simp [State.limiterAt, limiters, Limiter.isExhausted]
  have taken : ({ s.standing with
      limiters := s.standing.limiters.modify 0 (·.take) } : Standing) =
        desk s.now f c available backdrop :=
    congrArg (fun st : Standing => { st with limiters := st.limiters.modify 0 (·.take) }) found
  exact ⟨_, (s.openSpan _ _).updateLimiter 0 (·.take),
    congrArg (inv.around span (.logging _ s.now)) (if_neg free), taken⟩

/-- Its arrival there shows in the circuits. -/
theorem standing_arrive (key : String) (found : s.standing = desk now f c available backdrop) :
    (s.updateCircuits 0 (·.arrive key s.now)).standing =
      desk now f (c.arrive key now) available backdrop :=
  congrArg (fun st : Standing =>
    { st with circuits := st.circuits.modify 0 (·.arrive key st.now) }) found

/-- An open circuit rejects the attempt at once, and the permit that it has taken is given back. -/
theorem enter_stack_of_rejected (span : Option Trace.Span) (token : Token)
    (found : s.standing = desk now f c (available + 1) backdrop)
    (rejected : c.admission? inv.context.key now = none) :
    ∃ s' failure, inv.enter span stack token s = (s', .done (.error failure)) ∧
      s'.standing = desk now f (c.arrive inv.context.key now) (available + 1) backdrop := by
  obtain ⟨own, s₁, entered, found⟩ := inv.enter_stack span token found
  have circuits : s₁.circuits = [c] := congrArg Standing.circuits found
  have clock : s₁.now = now := congrArg Standing.now found
  have turnedAway : (s₁.circuitsAt 0).admission? inv.context.key s₁.now = none := by
    rwa [State.circuitsAt, circuits, clock]
  rw [entered, inv.enter_of_rejected _ 0 _ token s₁ turnedAway]
  obtain ⟨s', answer, standing⟩ := inv.enclose_settles [.logging own now, .permit 0]
    (by simp [Frame.IsSmooth]) span (.error _) _
  refine ⟨s', _, answer, standing.trans ?_⟩
  exact congrArg (fun st : Standing => { st with limiters := st.limiters.modify 0 (·.giveBack) })
    (standing_arrive inv.context.key found)

/-- A piece of work that is asked counts the request, which the next call does not see. -/
theorem standing_start {w : Work} (does : w.Does s.backdrop b) (caller token : Token) :
    (w.start s caller token).standing = s.standing := by
  have quiet : (w.behavior s).cancelsCaller = false := by
    rw [does.behavior s rfl, does.cancelsNobody]
  have handed (listed : Bool) (t : State) :
      (if listed then t.handOut token else t).standing = t.standing := by
    cases listed <;> rfl
  cases w with
  | bare key behavior listed =>
    simp only [Work.start, quiet]
    exact handed listed _
  | serve made request listed =>
    simp only [Work.start, quiet]
    exact (handed listed _).trans (State.standing_countRequest _ made)

/-- The work of an attempt that has not been cancelled starts, and is done at once or waits. -/
theorem begin_of_live (live : s.isCancelled token = false) (does : inv.work.Does s.backdrop b) :
    ∃ s', inv.begin token s = (s', b.reply s.now token) ∧ s'.standing = s.standing := by
  have standing := standing_start does inv.caller token
  refine ⟨_, ?_, standing⟩
  have clock : (inv.work.start s inv.caller token).now = s.now := congrArg Standing.now standing
  simp only [begin, live, does.behavior s rfl, does.ends, Behavior.reply, clock,
    Bool.false_eq_true, if_false]
  split <;> rfl

/-- An attempt that a circuit admits comes to its work, under a token that the bound on its time has
issued. -/
theorem enter_stack_of_admitted (span : Option Trace.Span)
    (found : s.standing = desk now f c (available + 1) backdrop)
    (admitted : c.admission? inv.context.key now = some a) (tokens : f.Sound)
    (live : f.isCancelled token = false) (does : inv.work.Does backdrop b) :
    ∃ own s', inv.enter span stack token s =
        inv.enclose span (enclosure own now a (f.nextChild token) (backdrop.timer.due? now bound))
          (s', b.reply now (f.nextChild token)) ∧
      s'.standing = desk now f.issue (c.arrive inv.context.key now) available backdrop := by
  obtain ⟨own, s₁, entered, found⟩ := inv.enter_stack span token found
  obtain ⟨rfl, rfl, circuits, -, rfl⟩ := Standing.mk.inj found
  replace circuits : s₁.circuits = [c] := circuits
  have letIn : (s₁.circuitsAt 0).admission? inv.context.key s₁.now = some a := by
    rwa [State.circuitsAt, circuits]
  have inside := congrArg (fun st : Standing => { st with tokens := st.tokens.issue })
    (standing_arrive inv.context.key found)
  have still : (s₁.updateCircuits 0 (·.arrive inv.context.key s₁.now)).issueToken.isCancelled
      (s₁.tokens.nextChild token) = false :=
    (s₁.tokens.isCancelled_nextChild tokens token).trans live
  obtain ⟨s', begun, same⟩ := inv.begin_of_live still does
  refine ⟨own, s', ?_, same.trans inside⟩
  rw [entered, inv.enter_of_admitted _ 0 _ token s₁ a letIn]
  exact congrArg (fun r => inv.enclose span (enclosure own s₁.now a (s₁.tokens.nextChild token)
    (s₁.timer.due? s₁.now bound)) r) begun

/-! ### The way out -/

/-- What it shows that an attempt has left the decorators, or has been taken down inside them. -/
theorem settle_enclosure (key : String) (how : Settlement) :
    (enclosure own since a token due).foldr (·.settle key how ·)
        (desk now f c available backdrop) =
      desk now f (c.settle key a now how) (available + 1) backdrop := rfl

/-- An attempt whose work is done leaves the decorators with what the work has come to, and its
circuit learns that. -/
theorem enclose_of_done (span : Option Trace.Span) (own : Trace.Span) (since : Instant)
    (a : Admission) (token : Token) (due : Option Instant) (o : Outcome)
    (found : s.standing = desk now f c available backdrop) :
    ∃ s', inv.enclose span (enclosure own since a token due) (s, .done o) = (s', .done o) ∧
      s'.standing = desk now f (c.settle inv.context.key a now (.ofOutcome o)) (available + 1)
        backdrop := by
  obtain ⟨s', answer, standing⟩ := inv.enclose_settles (enclosure own since a token due)
    (by simp [enclosure, Frame.IsSmooth]) span o s
  exact ⟨s', answer, by rw [standing, found, settle_enclosure]⟩

/-- An attempt whose work is to be done later waits while it has time, inside all four
decorators. -/
theorem enclose_of_early (span : Option Trace.Span) (flight : Flight)
    (early : ∀ t, due = some t → s.now < t) :
    inv.enclose span (enclosure own since a token due) (s, .pending flight) =
      (s, .pending (flight.nested (enclosure own since a token due))) := by
  refine inv.enclose_waits span flight ?_
  cases due with
  | none => simp [enclosure, Frame.isExpired]
  | some t => simpa [enclosure, Frame.isExpired] using early t rfl

/-- A bound on the time that has run out takes the work down, cancels its token and fails. -/
theorem around_of_late {t : Instant} (outer : Option Trace.Span) (token inner : Token)
    (waiting : Option Instant) (o : Outcome)
    (found : s.standing = desk now f c available backdrop) (late : t ≤ now) :
    ∃ s', inv.around outer (.timeout token (some t) bound)
        (s, .pending (.working waiting inner o)) =
        (s', .done (.error (.routing (.timeout inv.context.key bound.millis)))) ∧
      s'.standing = desk now (f.cancel token) c available backdrop := by
  obtain rfl : s.now = now := congrArg Standing.now found
  have ranOut : (Frame.timeout token (some t) bound).isExpired s.now = true := decide_eq_true late
  exact ⟨_, if_pos ranOut,
    congrArg (fun st : Standing => { st with tokens := st.tokens.cancel token }) found⟩

/-- An attempt that has run out of time fails, and its circuit counts that as it counts any
failure. -/
theorem enclose_of_late {t : Instant} (span : Option Trace.Span) (own : Trace.Span)
    (since : Instant) (a : Admission) (token inner : Token) (waiting : Option Instant) (o : Outcome)
    (found : s.standing = desk now f c available backdrop) (late : t ≤ now) :
    ∃ s' failure, inv.enclose span (enclosure own since a token (some t))
        (s, .pending (.working waiting inner o)) = (s', .done (.error failure)) ∧
      s'.standing = desk now (f.cancel token) (c.settle inv.context.key a now .failed)
        (available + 1) backdrop := by
  obtain ⟨s₁, expired, takenDown⟩ := inv.around_of_late (some own) token inner waiting o found late
  obtain ⟨s', answer, standing⟩ := inv.enclose_settles
    [.logging own since, .permit 0, .circuit 0 a] (by simp [Frame.IsSmooth]) span
    (.error (.routing (.timeout inv.context.key bound.millis))) s₁
  refine ⟨s', _, Eq.trans ?_ answer, ?_⟩
  · rw [← expired]
    exact inv.enclose_concat span [.logging own since, .permit 0, .circuit 0 a] _ _
  · rw [standing, takenDown]
    rfl

end Invocation

end TrialRouting
