import Mathlib.Logic.Relation
import TrialRouting.Proofs.Tokens
import TrialRouting.Proofs.Breaker.Traffic

/-!
# What an attempt does to what calls share

Whatever its decorators are, an attempt changes the shared state only in the few ways
that `Invocation.Effect` lists: remarks and reports of its work, trace entries, new
tokens, cancelled tokens, a request counted, and the arrivals and departures at its
circuits and limiters. Entering, resuming and taking down an attempt are sequences of
such effects; the proofs follow the recursion over the decorators that are still to be
entered and over the decorators that an attempt in flight is inside of.

An invariant of the shared state therefore only has to be checked against each effect.
-/

namespace TrialRouting

/-- The token that a decorator has issued for its inside. -/
def Frame.token? : Frame → Option Token
  | .timeout token _ _ => some token
  | _ => none

/-- The tokens that the decorators around a flight have issued. -/
def Flight.tokens : Flight → List Token
  | .within frame inner => frame.token?.toList ++ inner.tokens
  | _ => []

/-- The tokens of a flight's time bounds have been issued. So cancelling one of them touches no
token that is issued later. -/
def Flight.Issued (flight : Flight) (f : TokenForest) : Prop :=
  ∀ t ∈ flight.tokens, t.id < f.issued

namespace Invocation

/-- The lines that an attempt writes: those of its work, and its interceptors' remarks. -/
def Writes (inv : Invocation) (n : Note) : Prop :=
  n = inv.work.began ∨ n = inv.work.dropped ∨ ∃ text, n = .remark text

/-- One thing that an attempt does to the shared state. -/
inductive Effect (inv : Invocation) : State → State → Prop where
  | noted (s : State) (ns : List Note) (own : ∀ n ∈ ns, inv.Writes n) :
      Effect inv s (s.notes ns)
  | traced (s : State) (entries : List Trace.Entry) :
      Effect inv s { s with trace := s.trace ++ entries }
  | spanned (s : State) (span : Trace.Span) (fields : List Trace.Field) :
      Effect inv s (s.openSpan span fields)
  | issued (s : State) : Effect inv s s.issueToken
  | cancelled (s : State) (t : Token) (known : t = inv.caller ∨ t.id < s.tokens.issued) :
      Effect inv s (s.cancel t)
  | handedOut (s : State) (t : Token) : Effect inv s (s.handOut t)
  | counted (s : State) (made : Instance) :
      Effect inv s { s with catalog := s.catalog.countRequest made }
  | arrived (s : State) (slot : Nat) :
      Effect inv s (s.updateCircuits slot (·.arrive inv.context.key s.now))
  | settled (s : State) (slot : Nat) (a : Admission) (how : Settlement) :
      Effect inv s (s.updateCircuits slot (·.settle inv.context.key a s.now how))
  | took (s : State) (slot : Nat) : Effect inv s (s.updateLimiter slot (·.take))
  | gaveBack (s : State) (slot : Nat) : Effect inv s (s.updateLimiter slot (·.giveBack))

/-- A sequence of effects of an attempt. -/
abbrev Reaches (inv : Invocation) : State → State → Prop :=
  Relation.ReflTransGen inv.Effect

variable {inv : Invocation} {s s' : State}

/-- A relation between states that holds along each effect holds along all sequences. This is how an
invariant of the shared state is proved for whatever an attempt does. -/
theorem Reaches.along {R : State → State → Prop} (refl : ∀ s, R s s)
    (trans : ∀ {a b c}, R a b → R b c → R a c) (each : ∀ a b, inv.Effect a b → R a b)
    (reaches : inv.Reaches s s') : R s s' := by
  induction reaches with
  | refl => exact refl s
  | tail _ last ih => exact trans ih (each _ _ last)

/-- A remark of an interceptor is a line of the attempt. -/
theorem writes_remark (texts : List String) : ∀ n ∈ texts.map Note.remark, inv.Writes n := by
  intro n member
  obtain ⟨text, -, rfl⟩ := List.mem_map.mp member
  exact .inr (.inr ⟨text, rfl⟩)

theorem reaches_note (s : State) (n : Note) (own : inv.Writes n) : inv.Reaches s (s.note n) :=
  .single (.noted s [n] fun _ member => List.mem_singleton.mp member ▸ own)

theorem reaches_record (s : State) (e : Trace.Entry) : inv.Reaches s (s.record e) :=
  .single (.traced s [e])

theorem reaches_emit (s : State) (span : Option Trace.Span) (e : Trace.Event) :
    inv.Reaches s (s.emit span e) :=
  reaches_record s (.event e span)

/-- No effect takes back a token that has been issued. So the numbers of tokens tell old from
new. -/
theorem Reaches.issued_le (reaches : inv.Reaches s s') :
    s.tokens.issued ≤ s'.tokens.issued := by
  refine reaches.along (R := fun a b => a.tokens.issued ≤ b.tokens.issued)
    (fun _ => Nat.le_refl _) Nat.le_trans ?_
  intro a b effect
  cases effect with
  | issued => exact Nat.le_succ _
  | _ => exact Nat.le_refl _

/-- The tokens grow along an attempt of a caller whose token has been issued: what is cancelled
stays cancelled, and new ones come on top. -/
theorem Reaches.grows (reaches : inv.Reaches s s') (known : inv.caller.id < s.tokens.issued) :
    s.tokens.Grows s'.tokens := by
  refine reaches.along (R := fun a b => inv.caller.id < a.tokens.issued →
    a.tokens.Grows b.tokens) (fun _ _ => .refl _) ?_ ?_ known
  · intro a b c first second known
    have grown : a.tokens.Grows b.tokens := first known
    exact grown.trans (second (Nat.lt_of_lt_of_le known grown.issued))
  · intro a b effect known
    cases effect with
    | issued => exact .issue _
    | cancelled t issued =>
      rcases issued with rfl | issued
      · exact .cancel _ _ known
      · exact .cancel _ _ issued
    | _ => exact .refl _

/-- What entering or resuming an attempt comes to: a sequence of effects, and, if something
waits, a flight whose tokens have been issued. -/
structure Yields (inv : Invocation) (s : State) (r : State × Reply) : Prop where
  reaches : inv.Reaches s r.1
  issued : ∀ flight, r.2 = .pending flight → flight.Issued r.1.tokens

/-- What follows a sequence of effects. Whatever the rest comes to, the effects come first. -/
theorem Yields.after {r : State × Reply} (first : inv.Reaches s s') (rest : inv.Yields s' r) :
    inv.Yields s r :=
  ⟨first.trans rest.reaches, rest.issued⟩

/-- An attempt that is done has nothing in flight. -/
theorem yields_done (o : Outcome) (reaches : inv.Reaches s s') :
    inv.Yields s (s', .done o) :=
  ⟨reaches, fun _ impossible => by cases impossible⟩

/-- A flight outside all decorators has no tokens, so that nothing has to be said about them. -/
theorem yields_pending {flight : Flight} (reaches : inv.Reaches s s')
    (bare : flight.tokens = []) : inv.Yields s (s', .pending flight) := by
  refine ⟨reaches, ?_⟩
  rintro _ ⟨⟩ t member
  rw [bare] at member
  exact absurd member List.not_mem_nil

/-- A decorator gives back what it holds: a settlement without an outcome at a circuit, a permit at
a limit. -/
theorem release_reaches (frame : Frame) (s : State) :
    inv.Reaches s (frame.release inv.context.key s) := by
  cases frame with
  | circuit slot a => exact .single (.settled s slot a .ignored)
  | permit slot => exact .single (.gaveBack s slot)
  | logging _ _ => exact .refl
  | timeout _ _ _ => exact .refl
  | intercepted _ => exact .refl

/-- Taking an attempt down is a sequence of its effects: what its decorators hold is given back, and
its work is dropped. -/
theorem abandon_reaches (flight : Flight) (s : State) :
    inv.Reaches s (inv.abandon flight s) := by
  induction flight generalizing s with
  | within frame inner ih => exact (ih s).trans (release_reaches frame _)
  | working _ _ _ => exact reaches_note s _ (.inr (.inl rfl))
  | entering _ _ _ _ => exact .refl
  | leaving _ _ _ => exact .refl

/-- Leaving a circuit settles the attempt there, and may write that the circuit has opened. -/
theorem settleCircuit_reaches (span : Option Trace.Span) (slot : Nat) (a : Admission)
    (o : Outcome) (s : State) : inv.Reaches s (inv.settleCircuit span slot a o s) := by
  obtain ⟨entries, settled⟩ := inv.settleCircuit_eq span slot a o s
  rw [settled]
  exact .tail (.single (.settled s slot a (.ofOutcome o))) (.traced _ entries)

/-- Leaving the logging decorator only grows the trace. -/
theorem logOutcome_reaches (span : Trace.Span) (since : Instant) (o : Outcome) (s : State) :
    inv.Reaches s (inv.logOutcome span since o s) := by
  have timed (duration outcome : Trace.Field) : inv.Reaches s
      ((s.record (.recorded span [duration])).record (.recorded span [outcome])) :=
    (reaches_record s _).trans (reaches_record _ _)
  cases o with
  | ok v => exact (timed _ _).trans (reaches_emit _ _ _)
  | error f => exact (timed _ _).trans (reaches_emit _ _ _)

/-- An interceptor's last words are remarks. -/
theorem leave_interceptor_yields (i : Interceptor) (o : Outcome) (s : State) :
    inv.Yields s (i.leave inv.context o s) :=
  yields_done _ (.single (.noted s _ (writes_remark _)))

/-- Leaving a decorator is a sequence of effects. Only an interceptor may make the attempt wait on
its way out. -/
theorem leave_yields (span : Option Trace.Span) (frame : Frame) (o : Outcome) (s : State) :
    inv.Yields s (inv.leave span frame o s) := by
  cases frame with
  | logging own since => exact yields_done o (logOutcome_reaches own since o s)
  | timeout _ _ _ => exact yields_done o .refl
  | circuit slot a => exact yields_done o (settleCircuit_reaches span slot a o s)
  | permit slot => exact yields_done o (.single (.gaveBack s slot))
  | intercepted i =>
    simp only [leave]
    split
    · exact leave_interceptor_yields i o s
    · exact yields_pending .refl rfl

/-- What a decorator makes of its inside. Its own token has been issued before, so that a time bound
that has run out cancels a known token. -/
theorem around_yields (span : Option Trace.Span) (frame : Frame) (r : State × Reply)
    (inside : inv.Yields s r) (own : ∀ t, frame.token? = some t → t.id < r.1.tokens.issued) :
    inv.Yields s (inv.around span frame r) := by
  obtain ⟨s₁, reply⟩ := r
  cases reply with
  | done o => exact .after inside.reaches (leave_yields span frame o s₁)
  | pending inner =>
    have waiting : inv.Yields s (s₁, .pending (.within frame inner)) := by
      refine ⟨inside.reaches, ?_⟩
      rintro _ ⟨⟩ t member
      rcases List.mem_append.mp member with issued | within
      · exact own t (Option.mem_toList.mp issued)
      · exact inside.issued inner rfl t within
    simp only [around]
    split
    · cases frame with
      | timeout token due limit =>
        refine yields_done _ (.trans inside.reaches ?_)
        have takenDown : inv.Reaches s₁ (inv.abandon inner s₁) := abandon_reaches inner s₁
        have known : token.id < (inv.abandon inner s₁).tokens.issued :=
          Nat.lt_of_lt_of_le (own token rfl) takenDown.issued_le
        exact (takenDown.tail (.cancelled _ token (.inr known))).trans (reaches_emit _ _ _)
      | logging _ _ => exact waiting
      | circuit _ _ => exact waiting
      | permit _ => exact waiting
      | intercepted _ => exact waiting
    · exact waiting

/-- The work starts. -/
theorem start_reaches (token : Token) (s : State) :
    inv.Reaches s (inv.work.start s inv.caller token) := by
  have noted : inv.Reaches s (s.note inv.work.began) := reaches_note s _ (.inl rfl)
  have handed (s' : State) :
      inv.Reaches s' (if inv.work.handsOut then s'.handOut token else s') := by
    split
    · exact .single (.handedOut s' token)
    · exact .refl
  have cancels (b : Bool) (s' : State) :
      inv.Reaches s' (if b then s'.cancel inv.caller else s') := by
    split
    · exact .single (.cancelled s' _ (.inl rfl))
    · exact .refl
  cases work : inv.work with
  | bare key behavior lists =>
    rw [work] at noted handed
    exact noted.trans ((handed _).trans (cancels _ _))
  | serve made request lists =>
    rw [work] at noted handed
    have counted (s' : State) :
        inv.Reaches s' { s' with catalog := s'.catalog.countRequest made } :=
      .single (.counted s' made)
    exact noted.trans ((counted _).trans ((handed _).trans (cancels _ _)))

/-- The work starts, or its token is cancelled already, and then nothing happens but the answer. -/
theorem begin_yields (token : Token) (s : State) : inv.Yields s (inv.begin token s) := by
  unfold begin
  split
  · exact yields_done _ .refl
  · dsimp only
    split
    · exact yields_pending (start_reaches token s) rfl
    · split
      · exact yields_done _ (start_reaches token s)
      · exact yields_pending (start_reaches token s) rfl

/-- An interceptor that has waited on the way in goes on. If it detaches its inside, a token is
issued and cancelled. -/
theorem proceed_yields (span : Option Trace.Span) (i : Interceptor) (token : Token)
    (rest : Token → State → State × Reply) (each : ∀ token s, inv.Yields s (rest token s))
    (s : State) : inv.Yields s (inv.proceed span i token rest s) := by
  have none' : ∀ (r : State × Reply) t, (Frame.intercepted i).token? = some t →
      t.id < r.1.tokens.issued := by
    intro r t impossible
    cases impossible
  unfold proceed
  split
  · exact yields_done _ .refl
  · split
    · have detached : inv.Reaches s (s.issueToken.cancel s.tokens.nextRoot) :=
        .tail (.single (.issued s)) (.cancelled _ _ (.inr (Nat.lt_succ_self _)))
      exact around_yields span _ _ (.after detached (each _ _)) (none' _)
    · exact around_yields span _ _ (each token s) (none' _)

/-- An interceptor is met on the way in. It may make remarks, cancel the caller and wait before it
goes on. -/
theorem meet_yields (span : Option Trace.Span) (i : Interceptor) (token : Token)
    (rest : List Decorator) (run : Token → State → State × Reply)
    (each : ∀ token s, inv.Yields s (run token s)) (s : State) :
    inv.Yields s (inv.meet span i token rest run s) := by
  have remarks : inv.Reaches s (s.notes
      ((i.enterRemarks inv.context (s.isCancelled token)).map .remark)) :=
    .single (.noted s _ (writes_remark _))
  have cancels (s : State) :
      inv.Reaches s (if i.cancelsCaller then s.cancel inv.caller else s) := by
    split
    · exact .single (.cancelled s _ (.inl rfl))
    · exact .refl
  unfold meet
  split
  · dsimp only
    split
    · exact .after (remarks.trans (cancels _)) (proceed_yields span i token run each _)
    · exact yields_pending (remarks.trans (cancels _)) rfl
  · exact each token s

/-- Entering the decorators and then the work, by induction on the decorators. -/
theorem enter_yields (span : Option Trace.Span) (decorators : List Decorator) (token : Token)
    (s : State) : inv.Yields s (inv.enter span decorators token s) := by
  induction decorators generalizing span token s with
  | nil => exact begin_yields token s
  | cons d rest ih =>
    have none' : ∀ (frame : Frame) (r : State × Reply), frame.token? = none →
        ∀ t, frame.token? = some t → t.id < r.1.tokens.issued := by
      intro frame r tokenless t impossible
      rw [tokenless] at impossible
      cases impossible
    cases d with
    | logging router =>
      exact around_yields span _ _ (.after (.single (.spanned s _ _)) (ih _ _ _)) (none' _ _ rfl)
    | timeout limit =>
      have entered := ih span (s.tokens.nextChild token) s.issueToken
      refine around_yields span _ _ (.after (.single (.issued s)) entered) ?_
      rintro _ ⟨⟩
      exact Nat.lt_of_lt_of_le (Nat.lt_succ_self _) entered.reaches.issued_le
    | circuitBreaker slot =>
      have arrived : inv.Reaches s (s.updateCircuits slot (·.arrive inv.context.key s.now)) :=
        .single (.arrived s slot)
      cases admission : (s.circuitsAt slot).admission? inv.context.key s.now with
      | none =>
        rw [inv.enter_of_rejected span slot rest token s admission]
        exact yields_done _ (arrived.trans (reaches_emit _ _ _))
      | some a =>
        rw [inv.enter_of_admitted span slot rest token s a admission]
        exact around_yields span _ _ (.after arrived (ih _ _ _)) (none' _ _ rfl)
    | concurrencyLimit slot =>
      simp only [enter]
      split
      · exact yields_done _ (reaches_emit _ _ _)
      · exact around_yields span _ _ (.after (.single (.took s slot)) (ih _ _ _)) (none' _ _ rfl)
    | interceptor i => exact meet_yields span i token rest _ (fun token s => ih span token s) s

/-- Resuming an attempt that waits, by induction on what it waits inside of. -/
theorem resume_yields (span : Option Trace.Span) (flight : Flight) (s : State)
    (issued : flight.Issued s.tokens) : inv.Yields s (inv.resume span flight s) := by
  induction flight generalizing span s with
  | within frame inner ih =>
    have inside : inner.Issued s.tokens :=
      fun t member => issued t (List.mem_append_right _ member)
    have resumed := ih (frame.span span) s inside
    refine around_yields span frame _ resumed ?_
    intro t own
    have known : t.id < s.tokens.issued :=
      issued t (List.mem_append_left _ (Option.mem_toList.mpr own))
    exact Nat.lt_of_lt_of_le known resumed.reaches.issued_le
  | entering due i token rest =>
    simp only [resume]
    split
    · exact proceed_yields span i token _ (fun token s => enter_yields span rest token s) s
    · exact yields_pending .refl rfl
  | working due token o =>
    simp only [resume]
    split
    · exact yields_done _ (reaches_note s _ (.inr (.inl rfl)))
    · split
      · exact yields_done _ .refl
      · exact yields_pending .refl rfl
  | leaving due i o =>
    simp only [resume]
    split
    · exact leave_interceptor_yields i o s
    · exact yields_pending .refl rfl

end Invocation

end TrialRouting
