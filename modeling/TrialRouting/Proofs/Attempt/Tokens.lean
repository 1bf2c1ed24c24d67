import TrialRouting.Proofs.Attempt.BuiltIns
import TrialRouting.Proofs.Attempt.Teardown

/-!
# The tokens of an attempt

Each time bound that an attempt is let into issues a token right below the one it was given, and
hands it on to its inside. So above the token that the work gets are the tokens of the bounds
around it, from the inside out, and then the token that the attempt was entered with.

No built-in decorator cancels anything on the way in or on the way out. A time bound that runs out
cancels the token it has issued, says so in the trace, and ends the attempt; a turn of an attempt
therefore cancels at most one token, one of the attempt's own, and exactly if the trace says that a
bound has run out.
-/

namespace TrialRouting

/-- Whether an entry of the trace says that a time bound has run out. -/
def Trace.Entry.isCut : Trace.Entry → Bool
  | .event e _ => e.message == "attempt deadline exceeded"
  | _ => false

/-- A forest in which a token has been cancelled, or none. -/
def TokenForest.cut (f : TokenForest) (cut : Option Token) : TokenForest :=
  cut.elim f f.cancel

namespace State

variable {s t u : State}

/-- What happens between two states cancels a token, or none, and the trace says that a time bound
has run out, or it does not. The two belong together for a turn as a whole, though not for each part
of it. -/
structure Cuts (s t : State) (told : Bool) (cut : Option Token) : Prop where
  tokens : t.tokens = s.tokens.cut cut
  handedOut : t.handedOut = s.handedOut
  trace : ∃ entries, t.trace = s.trace ++ entries ∧ entries.any (·.isCut) = told

/-- What happens between two states cancels no token, and no time bound runs out. Tokens may be
issued meanwhile. -/
structure Calm (s t : State) : Prop where
  cancelled : t.tokens.cancelled = s.tokens.cancelled
  issued : s.tokens.issued ≤ t.tokens.issued
  handedOut : t.handedOut = s.handedOut
  trace : ∃ entries, t.trace = s.trace ++ entries ∧ entries.any (·.isCut) = false

/-- Neither the tokens nor the trace have changed. -/
theorem cuts_of_same (tokens : t.tokens = s.tokens) (handedOut : t.handedOut = s.handedOut)
    (trace : t.trace = s.trace) : s.Cuts t false none :=
  ⟨tokens, handedOut, [], by rw [trace, List.append_nil], rfl⟩

/-- Before a token is cancelled, or after it has been, other things happen. Of two things in a row
at most one cancels. -/
theorem Cuts.trans {told told' : Bool} {cut cut' : Option Token} (first : s.Cuts t told cut)
    (second : t.Cuts u told' cut') (once : cut = none ∨ cut' = none) :
    s.Cuts u (told || told') (cut.or cut') := by
  obtain ⟨entries, written, said⟩ := first.trace
  obtain ⟨more, writtenToo, saidToo⟩ := second.trace
  refine ⟨?_, second.handedOut.trans first.handedOut, entries ++ more, ?_, ?_⟩
  · rw [second.tokens, first.tokens]
    rcases once with rfl | rfl
    · rfl
    · cases cut <;> rfl
  · rw [writtenToo, written, List.append_assoc]
  · rw [List.any_append, said, saidToo]

theorem Calm.trans (first : s.Calm t) (second : t.Calm u) : s.Calm u := by
  obtain ⟨entries, written, said⟩ := first.trace
  obtain ⟨more, writtenToo, saidToo⟩ := second.trace
  refine ⟨second.cancelled.trans first.cancelled, Nat.le_trans first.issued second.issued,
    second.handedOut.trans first.handedOut, entries ++ more, ?_, ?_⟩
  · rw [writtenToo, written, List.append_assoc]
  · rw [List.any_append, said, saidToo, Bool.or_self]

/-- If nothing is cancelled and no bound runs out, all is calm. -/
theorem Cuts.calm (cuts : s.Cuts t false none) : s.Calm t :=
  ⟨congrArg _ cuts.tokens, Nat.le_of_eq (congrArg _ cuts.tokens.symm), cuts.handedOut, cuts.trace⟩

theorem Calm.refl (s : State) : s.Calm s :=
  (cuts_of_same rfl rfl rfl).calm

/-- A token has been issued. -/
theorem calm_issueToken (s : State) : s.Calm s.issueToken :=
  ⟨rfl, Nat.le_succ _, rfl, [], (List.append_nil _).symm, rfl⟩

/-- An entry of the trace cancels nothing. -/
theorem cuts_record (s : State) (e : Trace.Entry) : s.Cuts (s.record e) e.isCut none :=
  ⟨rfl, rfl, [e], rfl, by rw [List.any_cons, List.any_nil, Bool.or_false]⟩

/-- A token has been cancelled. -/
theorem cuts_cancel (s : State) (t : Token) : s.Cuts (s.cancel t) false (some t) :=
  ⟨rfl, rfl, [], (List.append_nil _).symm, rfl⟩

end State

namespace Flight

/-- What a turn of an attempt comes to that waits inside built-in decorators: it goes on waiting and
has done nothing, or it ends. -/
inductive Turns (flight : Flight) (s : State) : State × Reply → Prop where
  | waits : Turns flight s (s, .pending flight)
  /-- The attempt has ended, and one of its own tokens is cancelled if a bound has run out. -/
  | ends {t : State} {cut : Option Token} {o : Outcome} (cuts : s.Cuts t cut.isSome cut)
      (own : ∀ token ∈ cut, token ∈ flight.tokens) : Turns flight s (t, .done o)

/-- An attempt that has ended without a bound that ran out. -/
theorem turns_of_calm {flight : Flight} {s t : State} (cuts : s.Cuts t false none) (o : Outcome) :
    flight.Turns s (t, .done o) := by
  have uncut : s.Cuts t (none : Option Token).isSome none := cuts
  refine .ends uncut ?_
  rintro _ ⟨⟩

/-- The tokens of a flight inside decorators are theirs and its own, from the outside in. -/
theorem tokens_nested (frames : List Frame) (flight : Flight) :
    (flight.nested frames).tokens = frames.flatMap (·.token?.toList) ++ flight.tokens := by
  induction frames with
  | nil => rfl
  | cons frame frames ih =>
    rw [List.flatMap_cons, List.append_assoc, ← ih]
    rfl

/-- A flight inside built-in decorators waits for the same work. -/
theorem worksTo_nested {decorators : List Decorator} {o : Outcome} {frames : List Frame}
    {flight : Flight} (works : flight.WorksTo decorators o)
    (own : ∀ frame ∈ frames, frame.Of decorators) :
    (flight.nested frames).WorksTo decorators o := by
  induction frames with
  | nil => exact works
  | cons frame frames ih =>
    obtain ⟨own, others⟩ := List.forall_mem_cons.mp own
    exact .within own (ih others)

end Flight

namespace Approach

/-- The tokens that the decorators around a place have issued, outermost first. -/
def tokens (a : Approach) : List Token :=
  a.frames.flatMap (·.token?.toList)

/-- One more decorator has been entered. -/
theorem tokens_within (a : Approach) (frame : Frame) (token : Token) (state : State) :
    (a.within frame token state).tokens = a.tokens ++ frame.token?.toList := by
  simp only [tokens, within, List.flatMap_append, List.flatMap_singleton]

/-- A place on the way in of an attempt that has been entered with a token: nothing has been
cancelled so far, and the tokens above the one that has come this far are those of the time bounds,
from the inside out, and then the one the attempt was entered with. -/
structure Below (token : Token) (s : State) (a : Approach) : Prop where
  calm : s.Calm a.state
  line : a.token.id :: a.token.above =
    (a.tokens.map (·.id)).reverse ++ token.id :: token.above
  issued : ∀ t ∈ a.tokens, s.tokens.issued ≤ t.id ∧ t.id < a.state.tokens.issued

end Approach

namespace Invocation

variable {inv : Invocation} {decorators : List Decorator} {a b : Approach} {s t : State}
  {frame : Frame} {span : Option Trace.Span} {token : Token}

/-! ### The way in -/

/-- A built-in decorator that lets an attempt in cancels nothing. A time bound puts its token
between the one it was given and the rest. -/
theorem below_next {lines : List Note} (builtIn : ∀ d ∈ decorators, d.isBuiltIn = true)
    (quiet : a.Quiet decorators lines) (below : a.Below token s) (step : inv.next? a = some b) :
    b.Below token s := by
  obtain ⟨outer, frames, rest, own, u⟩ := a
  have entered {frame : Frame} {t : State} {rest' : List Decorator}
      (tokenless : frame.token? = none) (calm : u.Calm t) :
      (Approach.within ⟨outer, frames, rest', own, u⟩ frame own t).Below token s := by
    have same : (Approach.within ⟨outer, frames, rest', own, u⟩ frame own t).tokens =
        Approach.tokens ⟨outer, frames, rest, own, u⟩ := by
      rw [Approach.tokens_within, tokenless]
      exact List.append_nil _
    refine ⟨below.calm.trans calm, same ▸ below.line, ?_⟩
    rw [same]
    intro t' member
    obtain ⟨fresh, known⟩ := below.issued t' member
    exact ⟨fresh, Nat.lt_of_lt_of_le known calm.issued⟩
  have updated {t : State} (tokens : t.tokens = u.tokens) (handedOut : t.handedOut = u.handedOut)
      (trace : t.trace = u.trace) : u.Calm t :=
    (State.cuts_of_same tokens handedOut trace).calm
  cases rest with
  | nil => cases step
  | cons d rest =>
    have mem : d ∈ decorators := quiet.rest d List.mem_cons_self
    cases d with
    | logging router =>
      rw [← Option.some.inj step]
      exact entered rfl ⟨rfl, Nat.le_refl _, rfl, [_], rfl, rfl⟩
    | timeout limit =>
      rw [← Option.some.inj step]
      refine ⟨below.calm.trans u.calm_issueToken, ?_, ?_⟩
      · rw [Approach.tokens_within, List.map_append, List.reverse_append, List.append_assoc]
        exact congrArg _ below.line
      · rw [Approach.tokens_within]
        intro t member
        rcases List.mem_append.mp member with before | new
        · obtain ⟨fresh, known⟩ := below.issued t before
          exact ⟨fresh, Nat.lt_succ_of_lt known⟩
        · rw [List.mem_singleton.mp new]
          exact ⟨below.calm.issued, Nat.lt_succ_self _⟩
    | circuitBreaker slot =>
      simp only [next?] at step
      obtain ⟨admission, -, rfl⟩ := Option.map_eq_some_iff.mp step
      exact entered rfl (updated rfl rfl rfl)
    | concurrencyLimit slot =>
      simp only [next?] at step
      split at step
      · cases step
      · rw [← Option.some.inj step]
        exact entered rfl (updated rfl rfl rfl)
    | interceptor i => cases builtIn _ mem

/-- How far an attempt comes on its way in within a number of steps. -/
def descend (inv : Invocation) : Nat → Approach → Approach
  | 0, a => a
  | n + 1, a =>
      match inv.next? a with
      | none => a
      | some b => descend inv n b

/-- Where an attempt calls the implementation, if it comes to that. -/
def callSite? (inv : Invocation) (a : Approach) : Option Approach :=
  let b := inv.descend a.rest.length a
  if b.rest.isEmpty && !b.state.isCancelled b.token then some b else none

/-- It comes there on its way in, and not beyond, if the number is that of the decorators at
least. -/
theorem descends_descend (inv : Invocation) {n : Nat} (a : Approach) (enough : a.rest.length ≤ n) :
    inv.Descends a (inv.descend n a) ∧ inv.next? (inv.descend n a) = none := by
  induction n generalizing a with
  | zero =>
    have arrived : a.rest = [] := List.eq_nil_of_length_eq_zero (Nat.le_zero.mp enough)
    exact ⟨.refl, by simp only [descend, next?, arrived]⟩
  | succ n ih =>
    cases step : inv.next? a with
    | none =>
      simp only [descend, step]
      exact ⟨.refl, trivial⟩
    | some b =>
      obtain ⟨d, further⟩ := rest_of_next step
      rw [further, List.length_cons] at enough
      obtain ⟨way, innermost⟩ := ih b (Nat.le_of_succ_le_succ enough)
      simp only [descend, step]
      exact ⟨.head step way, innermost⟩

/-- The place that an attempt comes to inside built-in decorators: nothing has been written and
nothing cancelled on the way, and the tokens are in line. -/
theorem below_descend (builtIn : ∀ d ∈ decorators, d.isBuiltIn = true)
    (way : inv.Descends ⟨span, [], decorators, token, s⟩ a) :
    a.Quiet decorators s.journal ∧ a.Below token s := by
  induction way with
  | refl =>
    exact ⟨⟨fun _ none => absurd none List.not_mem_nil, fun _ mem => mem, rfl⟩, .refl s, rfl,
      fun _ none => absurd none List.not_mem_nil⟩
  | tail _ step ih => exact ⟨quiet_next builtIn ih.1 step, below_next builtIn ih.1 ih.2 step⟩

/-! ### The way out -/

/-- A built-in decorator that is left cancels nothing. Only a bound that has run out does, and that
is no leaving with an outcome of the inside. -/
theorem cuts_leave (own : frame.Of decorators) (span : Option Trace.Span) (o : Outcome)
    (s : State) : ∃ t, inv.leave span frame o s = (t, .done o) ∧ s.Cuts t false none := by
  cases frame with
  | logging span since =>
    refine ⟨_, rfl, ?_⟩
    have recorded (duration outcome : Trace.Field) : s.Cuts
        ((s.record (.recorded span [duration])).record (.recorded span [outcome])) false none :=
      (State.cuts_record _ _).trans (State.cuts_record _ _) (.inl rfl)
    cases o with
    | ok v => exact (recorded _ _).trans (State.cuts_record _ _) (.inl rfl)
    | error f => exact (recorded _ _).trans (State.cuts_record _ _) (.inl rfl)
  | timeout token due limit => exact ⟨s, rfl, State.cuts_of_same rfl rfl rfl⟩
  | circuit slot admission =>
    refine ⟨_, rfl, ?_⟩
    simp only [settleCircuit]
    split
    · exact State.cuts_of_same rfl rfl rfl
    · exact State.cuts_of_same rfl rfl rfl
    · split
      · have failed : s.Cuts (s.updateCircuits slot
            (·.fail inv.context.key admission s.now)) false none := State.cuts_of_same rfl rfl rfl
        exact failed.trans (State.cuts_record _ _) (.inl rfl)
      · exact State.cuts_of_same rfl rfl rfl
  | permit slot => exact ⟨_, rfl, State.cuts_of_same rfl rfl rfl⟩
  | intercepted i => cases own

/-- Nor do all decorators together, from the inside out. -/
theorem cuts_enclose {frames : List Frame} (own : ∀ frame ∈ frames, frame.Of decorators)
    (span : Option Trace.Span) (o : Outcome) (s : State) :
    ∃ t, inv.enclose span frames (s, .done o) = (t, .done o) ∧ s.Cuts t false none := by
  induction frames generalizing span with
  | nil => exact ⟨s, rfl, State.cuts_of_same rfl rfl rfl⟩
  | cons frame frames ih =>
    obtain ⟨own, others⟩ := List.forall_mem_cons.mp own
    obtain ⟨t, inside, before⟩ := ih others (frame.span span)
    obtain ⟨u, left, after⟩ := inv.cuts_leave own span o t
    refine ⟨u, ?_, before.trans after (.inl rfl)⟩
    rw [enclose, inside]
    exact left

/-- Taking an attempt down shows nowhere in the trace. Spans that were open stay without an
ending. -/
theorem trace_abandon (flight : Flight) (s : State) : (inv.abandon flight s).trace = s.trace := by
  induction flight with
  | within frame inner ih =>
    refine Eq.trans ?_ ih
    cases frame <;> rfl
  | working due token o => rfl
  | entering due i token rest => rfl
  | leaving due i o => rfl

/-- Nor does it cancel a token. -/
theorem cuts_abandon (inv : Invocation) (flight : Flight) (s : State) :
    s.Cuts (inv.abandon flight s) false none :=
  have back := inv.givenBack_abandon flight s
  State.cuts_of_same back.tokens back.handedOut (inv.trace_abandon flight s)

/-- A turn of the inside is a turn of the attempt. If the inside goes on waiting at the end of a
time bound, that bound's own token is cancelled and the trace says so; the token is one of the
flight's. -/
theorem turns_around {inner : Flight} {r : State × Reply} (inside : inner.Turns s r)
    (own : frame.Of decorators) (span : Option Trace.Span) :
    (Flight.within frame inner).Turns s (inv.around span frame r) := by
  cases inside with
  | @ends t cut o cuts below =>
    obtain ⟨u, left, calm⟩ := inv.cuts_leave own span o t
    have same : s.Cuts u cut.isSome cut := by
      simpa using cuts.trans calm (.inr rfl)
    simp only [around, left]
    exact .ends same fun token member => List.mem_append_right _ (below token member)
  | waits =>
    simp only [around]
    split
    · cases frame with
      | timeout token due limit =>
        have cut : s.Cuts ((inv.abandon inner s).cancel token) false (some token) :=
          (inv.cuts_abandon inner s).trans (State.cuts_cancel _ token) (.inl rfl)
        refine .ends (cut.trans (State.cuts_record _ _) (.inr rfl)) ?_
        rintro _ ⟨⟩
        exact List.mem_cons_self
      | _ => exact .waits
    · exact .waits

/-- The same goes for all decorators around a flight, by induction from the inside out. -/
theorem turns_enclose {flight : Flight} {r : State × Reply} (inside : flight.Turns s r)
    {frames : List Frame} (own : ∀ frame ∈ frames, frame.Of decorators)
    (span : Option Trace.Span) :
    (flight.nested frames).Turns s (inv.enclose span frames r) := by
  induction frames generalizing span with
  | nil => exact inside
  | cons frame frames ih =>
    obtain ⟨own, others⟩ := List.forall_mem_cons.mp own
    exact inv.turns_around (ih others (frame.span span)) own span

/-- A turn of an attempt whose work goes on, by induction on the decorators it waits inside of. -/
theorem turns_resume {flight : Flight} {o : Outcome} (works : flight.WorksTo decorators o)
    (span : Option Trace.Span) (s : State) : flight.Turns s (inv.resume span flight s) := by
  induction works generalizing span with
  | working due token =>
    simp only [resume]
    split
    · have dropped : s.Cuts (s.note inv.work.dropped) false none := State.cuts_of_same rfl rfl rfl
      exact Flight.turns_of_calm dropped _
    · split
      · exact Flight.turns_of_calm (State.cuts_of_same rfl rfl rfl) _
      · exact .waits
  | within own inside ih => exact inv.turns_around (ih _) own span

/-! ### The turn in which an attempt is entered -/

/-- The work gets its token. If it cancels its caller's token, that happens as it starts, and the
tokens below the caller's are cancelled with it. -/
theorem start_eq (work : Work) (s : State) (caller token : Token) :
    (work.start s caller token).tokens =
        (if (work.behavior s).cancelsCaller then s.tokens.cancel caller else s.tokens) ∧
      (work.start s caller token).handedOut =
        s.handedOut ++ (if work.handsOut then [token] else []) ∧
      (work.start s caller token).trace = s.trace := by
  have lists (t : State) : (if work.handsOut then t.handOut token else t) =
      { t with handedOut := t.handedOut ++ if work.handsOut then [token] else [] } := by
    split
    · rfl
    · rw [List.append_nil]
  have cancels (t : State) : (if (work.behavior s).cancelsCaller then t.cancel caller else t) =
      { t with tokens := if (work.behavior s).cancelsCaller then t.tokens.cancel caller
          else t.tokens } := by
    split <;> rfl
  simp only [Work.start, lists, cancels]
  cases work <;> exact ⟨rfl, rfl, rfl⟩

/-- An attempt that does not come to call the implementation ends at once, and nothing is cancelled
on its way. -/
theorem enter_of_uncalled (builtIn : ∀ d ∈ decorators, d.isBuiltIn = true)
    (uncalled : inv.callSite? ⟨span, [], decorators, token, s⟩ = none) :
    ∃ t o, inv.enter span decorators token s = (t, .done o) ∧ s.Calm t := by
  obtain ⟨way, innermost⟩ :=
    inv.descends_descend ⟨span, [], decorators, token, s⟩ (Nat.le_refl _)
  simp only [callSite?] at uncalled
  generalize inv.descend _ _ = a at way innermost uncalled
  obtain ⟨quiet, below⟩ := below_descend builtIn way
  have refused {t : State} {o : Outcome} (answer : inv.answer a = (t, .done o))
      (cuts : a.state.Cuts t false none) :
      ∃ t o, inv.enter span decorators token s = (t, .done o) ∧ s.Calm t := by
    obtain ⟨u, out, after⟩ := inv.cuts_enclose quiet.frames a.outer o t
    refine ⟨u, o, ?_, below.calm.trans (cuts.calm.trans after.calm)⟩
    rw [enter_eq_enclose way, answer, out]
  cases reached : a.rest with
  | nil =>
    have dead : a.state.isCancelled a.token = true := by
      simpa [reached] using uncalled
    have answer : inv.answer a = (a.state, .done (.error cancelledFailure)) := by
      simp only [answer, reached, enter, begin, dead, if_true]
    exact refused answer (State.cuts_of_same rfl rfl rfl)
  | cons d rest =>
    have mem : d ∈ decorators := quiet.rest d (reached ▸ List.mem_cons_self)
    cases d with
    | logging router => simp only [next?, reached, reduceCtorEq] at innermost
    | timeout limit => simp only [next?, reached, reduceCtorEq] at innermost
    | circuitBreaker slot =>
      simp only [next?, reached, Option.map_eq_none_iff] at innermost
      have answer := inv.enter_of_rejected a.span slot rest a.token a.state innermost
      rw [← reached] at answer
      have arrived : a.state.Cuts (a.state.updateCircuits slot
          (·.arrive inv.context.key a.state.now)) false none := State.cuts_of_same rfl rfl rfl
      exact refused answer (arrived.trans (State.cuts_record _ _) (.inl rfl))
    | concurrencyLimit slot =>
      simp only [next?, reached] at innermost
      split at innermost
      · next exhausted =>
        have answer : inv.answer a = (a.state.emit a.span
            ⟨.debug, "concurrency limit reached, attempt rejected", inv.serviceAndKey⟩,
            .done (.error (.routing .overloaded))) := by
          simp only [answer, reached, enter, exhausted, if_true]
        exact refused answer (State.cuts_record _ _)
      · cases innermost
    | interceptor i => cases builtIn _ mem

/-- An attempt that calls the implementation hands it a live token, and either ends at once or goes
on waiting for it inside the bounds whose tokens are above that one. From the call on it is as if it
were resumed. -/
theorem enter_of_called (builtIn : ∀ d ∈ decorators, d.isBuiltIn = true)
    (called : inv.callSite? ⟨span, [], decorators, token, s⟩ = some a) :
    a.Below token s ∧ a.state.isCancelled a.token = false ∧
      ∃ (flight : Flight) (o : Outcome), flight.WorksTo decorators o ∧ flight.tokens = a.tokens ∧
        flight.Turns (inv.work.start a.state inv.caller a.token)
          (inv.enter span decorators token s) := by
  obtain ⟨way, -⟩ := inv.descends_descend ⟨span, [], decorators, token, s⟩ (Nat.le_refl _)
  simp only [callSite?] at called
  generalize inv.descend _ _ = b at way called
  split at called
  · next site =>
    obtain rfl : b = a := Option.some.inj called
    obtain ⟨quiet, below⟩ := below_descend builtIn way
    simp only [Bool.and_eq_true, List.isEmpty_iff, Bool.not_eq_true'] at site
    obtain ⟨reached, live⟩ := site
    have answers : inv.answer b = inv.begin b.token b.state := by rw [answer, reached, enter]
    obtain ⟨due, turns⟩ : ∃ due,
        (Flight.working due b.token (inv.work.behavior b.state).outcome).Turns
          (inv.work.start b.state inv.caller b.token) (inv.answer b) := by
      simp only [answers, begin, live, if_false, Bool.false_eq_true]
      split
      · exact ⟨_, .waits⟩
      · split
        · exact ⟨none, Flight.turns_of_calm (State.cuts_of_same rfl rfl rfl) _⟩
        · exact ⟨_, .waits⟩
    have turned := inv.turns_enclose turns quiet.frames b.outer
    rw [← enter_eq_enclose way] at turned
    exact ⟨below, live, _, _, Flight.worksTo_nested (.working due b.token) quiet.frames,
      (Flight.tokens_nested _ _).trans (List.append_nil _), turned⟩
  · cases called

end Invocation

end TrialRouting
