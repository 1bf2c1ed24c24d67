import TrialRouting.Proofs.Attempt.Effects

/-!
# What an attempt that waits is waiting for

An attempt takes no virtual time while it runs, and when it is left waiting nothing in it is
due any more: whatever was due at that very millisecond has been done, and a time bound that
had run out has cut off its inside. So all that an attempt waits for lies ahead, and the
clock may move on to the first of it.
-/

namespace TrialRouting

/-- Everything in a flight is due after an instant. -/
def Flight.IsAfter (flight : Flight) (now : Instant) : Prop :=
  ∀ t ∈ flight.timers, now < t

/-- If a reply is that something waits, then for what lies ahead. What is due at this very instant
has been seen to. -/
def Reply.IsAfter (r : State × Reply) : Prop :=
  ∀ flight, r.2 = .pending flight → flight.IsAfter r.1.now

namespace Invocation

variable {inv : Invocation} {s s' : State}

/-- No effect of an attempt takes time. Time passes only while an attempt waits. -/
theorem Effect.now_eq (effect : inv.Effect s s') : s'.now = s.now := by
  cases effect <;> rfl

theorem Reaches.now_eq (reaches : inv.Reaches s s') : s'.now = s.now :=
  reaches.along (R := fun a b => b.now = a.now) (fun _ => rfl)
    (fun first second => second.trans first) (fun _ _ effect => effect.now_eq)

/-- An attempt that is done waits for nothing. -/
theorem isAfter_done (s : State) (o : Outcome) : Reply.IsAfter (s, .done o) :=
  fun _ impossible => nomatch impossible

/-- A decorator that is left either lets go of the attempt or makes it wait, and then for an instant
that lies ahead. -/
theorem isAfter_leave (span : Option Trace.Span) (frame : Frame) (o : Outcome) (s : State) :
    Reply.IsAfter (inv.leave span frame o s) := by
  cases frame with
  | intercepted i =>
    simp only [leave]
    split
    · exact isAfter_done _ _
    · next waits =>
      rintro _ ⟨⟩ t due
      rw [List.mem_singleton.mp due]
      exact Nat.lt_add_of_pos_right (Nat.pos_of_ne_zero waits)
  | logging _ _ => exact isAfter_done _ _
  | timeout _ _ _ => exact isAfter_done _ _
  | circuit _ _ => exact isAfter_done _ _
  | permit _ => exact isAfter_done _ _

/-- A decorator around an inside that waits for what lies ahead waits for what lies ahead: a time
bound that has run out does not wait, but takes its inside down. -/
theorem isAfter_around (span : Option Trace.Span) (frame : Frame) {r : State × Reply}
    (inside : Reply.IsAfter r) : Reply.IsAfter (inv.around span frame r) := by
  obtain ⟨s, reply⟩ := r
  cases reply with
  | done o => exact isAfter_leave span frame o s
  | pending inner =>
    have ahead : inner.IsAfter s.now := inside inner rfl
    cases frame with
    | timeout token due limit =>
      simp only [around]
      split
      · exact isAfter_done _ _
      · next notYet =>
        rintro _ ⟨⟩ t member
        rcases List.mem_append.mp member with bound | within
        · rw [Option.mem_toList] at bound
          subst bound
          simpa [Frame.isExpired] using notYet
        · exact ahead t within
    | logging _ _ => rintro _ ⟨⟩; exact ahead
    | circuit _ _ => rintro _ ⟨⟩; exact ahead
    | permit _ => rintro _ ⟨⟩; exact ahead
    | intercepted _ => rintro _ ⟨⟩; exact ahead

/-- The work starts and waits for what lies ahead, or for ever. Work that takes no time is done at
once. -/
theorem isAfter_begin (token : Token) (s : State) : Reply.IsAfter (inv.begin token s) := by
  unfold begin
  split
  · exact isAfter_done _ _
  · dsimp only
    split
    · rintro _ ⟨⟩ t impossible
      cases impossible
    · split
      · exact isAfter_done _ _
      · next waits =>
        rintro _ ⟨⟩ t due
        rw [List.mem_singleton.mp due]
        exact Nat.lt_add_of_pos_right (Nat.pos_of_ne_zero waits)

/-- An interceptor goes on, with the rest of the chain inside it unless it answers. -/
theorem isAfter_proceed (span : Option Trace.Span) (i : Interceptor) (token : Token)
    (rest : Token → State → State × Reply) (each : ∀ token s, Reply.IsAfter (rest token s))
    (s : State) : Reply.IsAfter (inv.proceed span i token rest s) := by
  unfold proceed
  split
  · exact isAfter_done _ _
  · split
    · exact isAfter_around span _ (each _ _)
    · exact isAfter_around span _ (each token s)

/-- Entering the decorators and then the work, by induction on the decorators. -/
theorem isAfter_enter (span : Option Trace.Span) (decorators : List Decorator) (token : Token)
    (s : State) : Reply.IsAfter (inv.enter span decorators token s) := by
  induction decorators generalizing span token s with
  | nil => exact isAfter_begin token s
  | cons d rest ih =>
    cases d with
    | logging router => exact isAfter_around span _ (ih _ _ _)
    | timeout limit => exact isAfter_around span _ (ih _ _ _)
    | circuitBreaker slot =>
      cases admission : (s.circuitsAt slot).admission? inv.context.key s.now with
      | none =>
        rw [inv.enter_of_rejected span slot rest token s admission]
        exact isAfter_done _ _
      | some a =>
        rw [inv.enter_of_admitted span slot rest token s a admission]
        exact isAfter_around span _ (ih _ _ _)
    | concurrencyLimit slot =>
      simp only [enter]
      split
      · exact isAfter_done _ _
      · exact isAfter_around span _ (ih _ _ _)
    | interceptor i =>
      simp only [enter, meet]
      split
      · split
        · exact isAfter_proceed span i token _ (fun token s => ih span token s) _
        · next waits =>
          rintro _ ⟨⟩ t due
          rw [List.mem_singleton.mp due]
          exact Nat.lt_add_of_pos_right (Nat.pos_of_ne_zero waits)
      · exact ih span token s

/-- An attempt that is resumed has done all that was due, or waits for what lies ahead. The
induction follows what it waits inside of. -/
theorem isAfter_resume (span : Option Trace.Span) (flight : Flight) (s : State) :
    Reply.IsAfter (inv.resume span flight s) := by
  induction flight generalizing span s with
  | within frame inner ih => exact isAfter_around span frame (ih (frame.span span) s)
  | entering due i token rest =>
    simp only [resume]
    split
    · exact isAfter_proceed span i token _ (fun token s => isAfter_enter span rest token s) s
    · next notYet =>
      rintro _ ⟨⟩ t member
      rw [List.mem_singleton.mp member]
      exact Nat.lt_of_not_le notYet
  | working due token o =>
    simp only [resume]
    split
    · exact isAfter_done _ _
    · split
      · exact isAfter_done _ _
      · next notYet =>
        rintro _ ⟨⟩ t member
        rw [Flight.timers, Option.mem_toList] at member
        subst member
        simpa using notYet
  | leaving due i o =>
    simp only [resume]
    split
    · exact isAfter_done _ _
    · next notYet =>
      rintro _ ⟨⟩ t member
      rw [List.mem_singleton.mp member]
      exact Nat.lt_of_not_le notYet

end Invocation

end TrialRouting
