import TrialRouting.Proofs.Attempt.Descent

/-!
# Whole runs of an attempt

An attempt is entered in some state and gets on when it is resumed, in whatever states others have
left what they share; between its own turns anything may happen. It comes to its end in its last
turn. What it writes are the lines that its own turns add to the journal.

On its way in it comes to a place beyond which it is not let in: all decorators have been entered
and the work is next, or a decorator answers by itself or makes it wait.
-/

namespace TrialRouting

/-- The lines that one state has more in its journal than another. -/
def State.added (s s' : State) : List Note :=
  s'.journal.drop s.journal.length

theorem State.added_eq {s s' : State} {lines : List Note}
    (grown : s'.journal = s.journal ++ lines) :
    s.added s' = lines := by
  rw [added, grown, List.drop_left]

namespace Invocation

/-- The turns of an attempt that is entered in a state, with the lines it has written so far and
what it has come to. Between two turns the shared state is whatever the others have made of it. -/
inductive Runs (inv : Invocation) (span : Option Trace.Span) (decorators : List Decorator)
    (token : Token) (s : State) : List Note → State × Reply → Prop where
  | entered : Runs inv span decorators token s
      (s.added (inv.enter span decorators token s).1) (inv.enter span decorators token s)
  | resumed {lines : List Note} {t : State} {flight : Flight}
      (before : Runs inv span decorators token s lines (t, .pending flight)) (u : State) :
      Runs inv span decorators token s (lines ++ u.added (inv.resume span flight u).1)
        (inv.resume span flight u)

variable {inv : Invocation} {a b : Approach}

/-- Inside an interceptor the same decorators are still to be entered: meeting it is part of one
step. -/
theorem rest_of_inside {i : Interceptor} (goesOn : inv.inside? i a = some b) : b.rest = a.rest := by
  simp only [inside?] at goesOn
  split at goesOn
  · cases goesOn
  · split at goesOn
    · rw [← Option.some.inj goesOn]; rfl
    · rw [← Option.some.inj goesOn]; rfl

/-- A step on the way in is a step past the next decorator. So there are at most as many steps as
decorators. -/
theorem rest_of_next (step : inv.next? a = some b) : ∃ d, a.rest = d :: b.rest := by
  obtain ⟨outer, frames, rest, token, s⟩ := a
  cases rest with
  | nil => cases step
  | cons d rest =>
    refine ⟨d, ?_⟩
    cases d with
    | logging router => rw [← Option.some.inj step]; rfl
    | timeout limit => rw [← Option.some.inj step]; rfl
    | circuitBreaker slot =>
      simp only [next?] at step
      obtain ⟨admission, -, rfl⟩ := Option.map_eq_some_iff.mp step
      rfl
    | concurrencyLimit slot =>
      simp only [next?] at step
      split at step
      · cases step
      · rw [← Option.some.inj step]; rfl
    | interceptor i =>
      simp only [next?, meet?] at step
      split at step
      · split at step
        · rw [rest_of_inside step]
        · cases step
      · rw [← Option.some.inj step]

/-- Every attempt comes to a place beyond which it is not let in, by induction on the decorators
that are still to be entered. -/
theorem exists_innermost (inv : Invocation) (a : Approach) :
    ∃ b, inv.Descends a b ∧ inv.next? b = none := by
  generalize size : a.rest.length = n
  induction n generalizing a with
  | zero =>
    have arrived : a.rest = [] := List.eq_nil_of_length_eq_zero size
    exact ⟨a, .refl, by simp only [next?, arrived]⟩
  | succ n ih =>
    cases step : inv.next? a with
    | none => exact ⟨a, .refl, step⟩
    | some b =>
      obtain ⟨d, further⟩ := rest_of_next step
      rw [further, List.length_cons] at size
      obtain ⟨c, way, innermost⟩ := ih b (Nat.succ.inj size)
      exact ⟨c, .head step way, innermost⟩

end Invocation

end TrialRouting
