import Mathlib.Algebra.GroupWithZero.Nat
import TrialRouting.Proofs.Attempt.Descent
import TrialRouting.Proofs.Attempt.Teardown

/-!
# The permits an attempt holds

An attempt takes a permit when it enters a limit and gives it back when it leaves it, whether
with a value, with a failure, or because it is taken down. So at any moment the permits that a
limiter has handed out are those of the limits that attempts are inside of: `State.Lends` says
how many have been handed out, and each lemma here carries that number along with the
decorators an attempt holds.

The number is counted from whatever the other attempts hold, which never enters into it.
-/

namespace TrialRouting

/-- How many permits of a limiter an answer leaves an attempt with. -/
def Reply.permits (slot : Nat) : Reply → Nat
  | .done _ => 0
  | .pending flight => flight.permits slot

/-- How many permits of a limiter an attempt on its way in has taken. -/
def Approach.permits (slot : Nat) (a : Approach) : Nat :=
  (a.frames.map (·.permits slot)).sum

/-- One decorator more. -/
theorem Approach.permits_within (slot : Nat) (a : Approach) (frame : Frame) (token : Token)
    (s : State) : (a.within frame token s).permits slot = a.permits slot + frame.permits slot := by
  simp [permits, within]

namespace State

/-- A limiter is in its place, and so many of its permits have been handed out. Together with those
that are available they make up the limit. -/
def Lends (s : State) (slot limit taken : Nat) : Prop :=
  ∃ available, s.limiters[slot]? = some ⟨limit, available⟩ ∧ available + taken = limit

namespace Lends

variable {s s' : State} {slot other limit taken : Nat}

/-- What leaves the limiters alone hands out nothing. Most of what an attempt does is of this
kind. -/
theorem of_same (lends : s.Lends slot limit taken) (same : s'.limiters = s.limiters) :
    s'.Lends slot limit taken := by
  obtain ⟨available, here, total⟩ := lends
  exact ⟨available, same ▸ here, total⟩

/-- The permits in hand and those handed out make up the limit. -/
theorem total (lends : s.Lends slot limit taken) :
    (s.limiterAt slot).available + taken = limit := by
  obtain ⟨available, here, total⟩ := lends
  simpa only [limiterAt, here, Option.getD_some] using total

/-- No permits are left exactly if as many have been handed out as there are. So whether an attempt
is rejected can be read off the number of those inside. -/
theorem isExhausted_iff (lends : s.Lends slot limit taken) :
    (s.limiterAt slot).isExhausted = true ↔ taken = limit := by
  have total := lends.total
  rw [Limiter.isExhausted, beq_iff_eq]
  omega

/-- The changes of another limiter hand out nothing. -/
theorem of_other (lends : s.Lends slot limit taken) (different : other ≠ slot)
    (f : Limiter → Limiter) : (s.updateLimiter other f).Lends slot limit taken := by
  obtain ⟨available, here, total⟩ := lends
  refine ⟨available, ?_, total⟩
  simp [updateLimiter, different, here]

/-- A limiter that is not exhausted hands out a permit. It counts for the limiter in question only
if it is that one. -/
theorem take (lends : s.Lends slot limit taken)
    (free : ¬ (s.limiterAt other).isExhausted = true) :
    (s.updateLimiter other (·.take)).Lends slot limit
      (taken + (Frame.permit other).permits slot) := by
  by_cases same : slot = other
  · subst same
    have total := lends.total
    obtain ⟨available, here, -⟩ := lends
    rw [Limiter.isExhausted, beq_iff_eq] at free
    refine ⟨(s.limiterAt slot).available - 1, ?_, ?_⟩
    · simp [updateLimiter, limiterAt, here, Limiter.take]
    · simp only [Frame.permits, if_true]
      omega
  · have foreign : (Frame.permit other).permits slot = 0 := by simp [Frame.permits, same]
    rw [foreign]
    exact lends.of_other (Ne.symm same) _

/-- A permit is given back, and one less has been handed out. -/
theorem giveBack (lends : s.Lends slot limit (taken + (Frame.permit other).permits slot)) :
    (s.updateLimiter other (·.giveBack)).Lends slot limit taken := by
  by_cases same : slot = other
  · subst same
    obtain ⟨available, here, total⟩ := lends
    simp only [Frame.permits, if_true] at total
    refine ⟨available + 1, ?_, by omega⟩
    simp [updateLimiter, here, Limiter.giveBack]
  · have foreign : (Frame.permit other).permits slot = 0 := by simp [Frame.permits, same]
    rw [foreign] at lends
    exact lends.of_other (Ne.symm same) _

end Lends

end State

namespace Invocation

variable {inv : Invocation} {s : State} {slot limit taken : Nat}

/-- What an attempt that has come to something holds besides the permits handed out before: the
permits of the limits it waits inside of, and none if it is done. -/
def Keeps (slot limit taken : Nat) (r : State × Reply) : Prop :=
  r.1.Lends slot limit (taken + r.2.permits slot)

/-- An attempt that is taken down gives back all it holds, by induction on the decorators it is
inside of. -/
theorem lends_abandon {flight : Flight} (lends : s.Lends slot limit (taken + flight.permits slot)) :
    (inv.abandon flight s).Lends slot limit taken := by
  obtain ⟨available, here, total⟩ := lends
  have back := (inv.givenBack_abandon flight s).limiters slot
  refine ⟨available + flight.permits slot, ?_, by omega⟩
  rw [back, here]
  rfl

/-- A decorator that is left gives back what it holds, unless it makes the attempt wait; then it is
no limit, and holds nothing. -/
theorem keeps_leave (span : Option Trace.Span) (frame : Frame) (o : Outcome)
    (lends : s.Lends slot limit (taken + frame.permits slot)) :
    Keeps slot limit taken (inv.leave span frame o s) := by
  cases frame with
  | logging own since => exact lends.of_same (by cases o <;> rfl)
  | timeout token due limit => exact lends
  | circuit slot a =>
    obtain ⟨entries, settled⟩ := inv.settleCircuit_eq span slot a o s
    exact lends.of_same (by simp only [leave, settled]; rfl)
  | permit slot => exact lends.giveBack
  | intercepted i =>
    simp only [leave]
    split
    · exact lends.of_same rfl
    · exact lends

/-- What a decorator makes of its inside holds the permits of both. If its time has run out, the
inside is taken down first and gives back its own. -/
theorem keeps_around (span : Option Trace.Span) (frame : Frame) {r : State × Reply}
    (inside : Keeps slot limit (taken + frame.permits slot) r) :
    Keeps slot limit taken (inv.around span frame r) := by
  obtain ⟨s, reply⟩ := r
  cases reply with
  | done o => exact keeps_leave span frame o inside
  | pending inner =>
    have waiting : Keeps slot limit taken (s, .pending (.within frame inner)) := by
      rw [Keeps, Reply.permits, Flight.permits, ← Nat.add_assoc]
      exact inside
    simp only [around]
    split
    · cases frame with
      | timeout token due bound => exact (lends_abandon inside).of_same rfl
      | logging _ _ => exact waiting
      | circuit _ _ => exact waiting
      | permit _ => exact waiting
      | intercepted _ => exact waiting
    · exact waiting

/-- The work has no permits of its own, whether it starts or not. -/
theorem keeps_begin (token : Token) (lends : s.Lends slot limit taken) :
    Keeps slot limit taken (inv.begin token s) := by
  have started : (inv.work.start s inv.caller token).limiters = s.limiters := by
    unfold Work.start
    cases inv.work <;> (dsimp only; split <;> split <;> rfl)
  unfold begin
  split
  · exact lends
  · dsimp only
    split
    · exact lends.of_same started
    · split <;> exact lends.of_same started

/-- An interceptor goes on, with the rest of the chain inside it unless it answers. -/
theorem keeps_proceed (span : Option Trace.Span) (i : Interceptor) (token : Token)
    (rest : Token → State → State × Reply)
    (each : ∀ token s', s'.limiters = s.limiters → Keeps slot limit taken (rest token s'))
    (lends : s.Lends slot limit taken) :
    Keeps slot limit taken (inv.proceed span i token rest s) := by
  unfold proceed
  split
  · exact lends
  · split
    · exact keeps_around span _ (each _ _ rfl)
    · exact keeps_around span _ (each token s rfl)

/-- Whatever the decorators of an attempt are, what it has taken on its way in and not given back on
its way out are the permits of the limits it waits inside of. The induction follows the decorators,
with the permits of those outside counted among the ones handed out before. -/
theorem keeps_enter (span : Option Trace.Span) (decorators : List Decorator) (token : Token)
    (lends : s.Lends slot limit taken) :
    Keeps slot limit taken (inv.enter span decorators token s) := by
  induction decorators generalizing span token s taken with
  | nil => exact keeps_begin token lends
  | cons d rest ih =>
    cases d with
    | logging router => exact keeps_around span _ (ih _ _ (lends.of_same rfl))
    | timeout bound => exact keeps_around span _ (ih _ _ (lends.of_same rfl))
    | circuitBreaker slot =>
      cases admission : (s.circuitsAt slot).admission? inv.context.key s.now with
      | none =>
        rw [inv.enter_of_rejected span slot rest token s admission]
        exact lends.of_same rfl
      | some a =>
        rw [inv.enter_of_admitted span slot rest token s a admission]
        exact keeps_around span _ (ih _ _ (lends.of_same rfl))
    | concurrencyLimit slot =>
      simp only [enter]
      split
      · exact lends.of_same rfl
      · next free => exact keeps_around span _ (ih _ _ (lends.take free))
    | interceptor i =>
      have remarked : ∀ s', s'.limiters = s.limiters → ∀ token,
          Keeps slot limit taken (inv.enter span rest token s') :=
        fun s' same token => ih span token (lends.of_same same)
      simp only [enter, meet]
      split
      · have met : (if i.cancelsCaller = true then (s.notes ((i.enterRemarks inv.context
            (s.isCancelled token)).map .remark)).cancel inv.caller else s.notes ((i.enterRemarks
            inv.context (s.isCancelled token)).map .remark)).limiters = s.limiters := by
          split <;> rfl
        split
        · exact keeps_proceed span i token _
            (fun token s' same => remarked s' (same.trans met) token) (lends.of_same met)
        · exact lends.of_same met
      · exact remarked s rfl token

/-- So are they when an attempt that had waited goes on. It takes further permits only if it had
waited on its way in. -/
theorem keeps_resume (span : Option Trace.Span) {flight : Flight}
    (lends : s.Lends slot limit (taken + flight.permits slot)) :
    Keeps slot limit taken (inv.resume span flight s) := by
  induction flight generalizing span taken with
  | within frame inner ih =>
    refine keeps_around span frame (ih _ ?_)
    rw [Nat.add_assoc]
    exact lends
  | entering due i token rest =>
    simp only [resume]
    split
    · exact keeps_proceed span i token _
        (fun token s' same => keeps_enter span rest token (lends.of_same same)) lends
    · exact lends
  | working due token o =>
    simp only [resume]
    split
    · exact lends.of_same rfl
    · split <;> exact lends
  | leaving due i o =>
    simp only [resume]
    split
    · exact lends.of_same rfl
    · exact lends

/-! ### On the way in -/

variable {a b : Approach}

/-- An interceptor takes no permit on the way in. -/
theorem lends_inside {i : Interceptor}
    (lends : a.state.Lends slot limit (taken + a.permits slot))
    (goesOn : inv.inside? i a = some b) :
    b.state.Lends slot limit (taken + b.permits slot) := by
  simp only [inside?] at goesOn
  split at goesOn
  · cases goesOn
  · split at goesOn
    · rw [← Option.some.inj goesOn, Approach.permits_within]
      exact lends.of_same rfl
    · rw [← Option.some.inj goesOn, Approach.permits_within]
      exact lends

/-- A step on the way in takes a permit exactly if it enters a limit. All other decorators leave the
limiters alone. -/
theorem lends_next (lends : a.state.Lends slot limit (taken + a.permits slot))
    (step : inv.next? a = some b) : b.state.Lends slot limit (taken + b.permits slot) := by
  obtain ⟨outer, frames, rest, token, s⟩ := a
  cases rest with
  | nil => cases step
  | cons d rest =>
    cases d with
    | logging router =>
      rw [← Option.some.inj step, Approach.permits_within]
      exact lends.of_same rfl
    | timeout bound =>
      rw [← Option.some.inj step, Approach.permits_within]
      exact lends.of_same rfl
    | circuitBreaker slot =>
      simp only [next?] at step
      obtain ⟨admission, -, rfl⟩ := Option.map_eq_some_iff.mp step
      rw [Approach.permits_within]
      exact lends.of_same rfl
    | concurrencyLimit slot =>
      simp only [next?] at step
      split at step
      · cases step
      · next free =>
        rw [← Option.some.inj step, Approach.permits_within, ← Nat.add_assoc]
        exact lends.take free
    | interceptor i =>
      simp only [next?, meet?] at step
      split at step
      · split at step
        · refine lends_inside (a := ⟨outer, frames, rest, token, _⟩) (lends.of_same ?_) step
          split <;> rfl
        · cases step
      · rw [← Option.some.inj step]
        exact lends

/-- Wherever an attempt comes to on its way in, the permits it has taken are counted, by induction
on the steps. -/
theorem Descends.lends (way : inv.Descends a b)
    (lends : a.state.Lends slot limit (taken + a.permits slot)) :
    b.state.Lends slot limit (taken + b.permits slot) := by
  induction way with
  | refl => exact lends
  | tail _ step ih => exact lends_next ih step

/-- An attempt that goes on on its way in has kept the permits it had taken while it waited. -/
theorem lends_resumption {span : Option Trace.Span} {flight : Flight}
    (lends : s.Lends slot limit (taken + flight.permits slot))
    (again : inv.resumption? span flight s = some a) :
    a.state.Lends slot limit (taken + a.permits slot) := by
  induction flight generalizing span taken a with
  | within frame inner ih =>
    simp only [resumption?] at again
    obtain ⟨deeper, found, rfl⟩ := Option.map_eq_some_iff.mp again
    rw [Flight.permits, ← Nat.add_assoc] at lends
    have inside : deeper.state.Lends slot limit
        (taken + frame.permits slot + deeper.permits slot) :=
      ih lends found
    rw [Nat.add_assoc] at inside
    simpa only [Approach.permits, List.map_cons, List.sum_cons] using inside
  | entering due i token rest =>
    simp only [resumption?] at again
    split at again
    · exact lends_inside lends again
    · cases again
  | working due token o => cases again
  | leaving due i o => cases again

/-- At a limit an attempt is rejected if no permit is left: the rest of the chain has no part in the
answer, and no permit is taken. It does not wait for one either. -/
theorem answer_of_exhausted (inv : Invocation) {rest : List Decorator}
    (here : a.rest = .concurrencyLimit slot :: rest)
    (exhausted : (a.state.limiterAt slot).isExhausted = true) :
    inv.next? a = none ∧ inv.answer a =
      (a.state.emit a.span
        ⟨.debug, "concurrency limit reached, attempt rejected", inv.serviceAndKey⟩,
        .done (.error (.routing .overloaded))) := by
  constructor
  · simp only [next?, here, exhausted, if_true]
  · simp only [answer, here, enter, exhausted, if_true]

/-- Otherwise it takes a permit and the rest of the chain runs inside the limit, which gives the
permit back whatever the rest comes to. -/
theorem answer_of_free (inv : Invocation) {rest : List Decorator}
    (here : a.rest = .concurrencyLimit slot :: rest)
    (free : ¬ (a.state.limiterAt slot).isExhausted = true) :
    inv.next? a = some ({ a with rest }.within (.permit slot) a.token
        (a.state.updateLimiter slot (·.take))) ∧
      inv.answer a = inv.around a.span (.permit slot)
        (inv.enter a.span rest a.token (a.state.updateLimiter slot (·.take))) := by
  constructor
  · simp only [next?, here, free, if_false, Bool.false_eq_true]
  · simp only [answer, here, enter, free, if_false, Bool.false_eq_true]

end Invocation

end TrialRouting
