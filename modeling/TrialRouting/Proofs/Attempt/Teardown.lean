import TrialRouting.Proofs.Breaker.Traffic

/-!
# Taking an attempt down

An attempt that is taken down gives back what its decorators hold: one permit for each limit
it is inside of, and the probe's place in each circuit that admitted it as a probe. No circuit
counts that as a success or as a failure, and nothing of the attempt runs any more.
-/

namespace TrialRouting

/-- How many permits of a limiter a decorator holds. -/
def Frame.permits (slot : Nat) : Frame → Nat
  | .permit other => if slot = other then 1 else 0
  | _ => 0

/-- Whether a decorator holds the probe's place in some circuit of a breaker. -/
def Frame.probes (slot : Nat) : Frame → Bool
  | .circuit other .probe => slot == other
  | _ => false

/-- How many permits of a limiter an attempt holds. -/
def Flight.permits (slot : Nat) : Flight → Nat
  | .within frame inner => frame.permits slot + inner.permits slot
  | _ => 0

/-- Whether an attempt is the probe in a circuit of a breaker. -/
def Flight.probes (slot : Nat) : Flight → Bool
  | .within frame inner => frame.probes slot || inner.probes slot
  | _ => false

/-- A limiter with some permits more. -/
def Limiter.giveBackAll (l : Limiter) (permits : Nat) : Limiter :=
  { l with available := l.available + permits }

/-- A breaker whose probe's place has been freed, if it was held. -/
def Breaker.vacate (b : Breaker) (held : Bool) : Breaker :=
  { b with probing := b.probing && !held }

/-- An attempt with the given holdings has been taken down: besides what it gives back only the
journal has changed. The breakers of other keys are not concerned. -/
structure State.GivenBack (s s' : State) (key : String) (permits : Nat → Nat)
    (probes : Nat → Bool) : Prop where
  now : s'.now = s.now
  tokens : s'.tokens = s.tokens
  handedOut : s'.handedOut = s.handedOut
  catalog : s'.catalog = s.catalog
  limiters : ∀ slot, s'.limiters[slot]? =
    Option.map (fun l : Limiter => l.giveBackAll (permits slot)) s.limiters[slot]?
  breakers : ∀ slot, (s'.circuitsAt slot).breaker key =
    ((s.circuitsAt slot).breaker key).vacate (probes slot)
  others : ∀ slot other, other ≠ key →
    (s'.circuitsAt slot).breaker other = (s.circuitsAt slot).breaker other

/-- Giving back nothing changes nothing. -/
theorem Limiter.giveBackAll_zero : (fun l : Limiter => l.giveBackAll 0) = id := rfl

/-- A place that is not held is not freed. -/
@[simp] theorem Breaker.vacate_false (b : Breaker) : b.vacate false = b := by
  simp [vacate]

namespace State

variable {s s' s'' : State} {key : String}

/-- Other circuits than the changed ones stay as they are. -/
theorem circuitsAt_updateCircuits_of_ne (s : State) (f : Circuits → Circuits) {slot other : Nat}
    (different : slot ≠ other) :
    (s.updateCircuits slot f).circuitsAt other = s.circuitsAt other := by
  simp [circuitsAt, updateCircuits, different]

/-- The changed circuits are changed if they are in place. If they are not, there is nothing to
change, and one sees the circuits of a default decorator as before. -/
theorem circuitsAt_updateCircuits (s : State) (slot : Nat) (f : Circuits → Circuits) :
    (s.updateCircuits slot f).circuitsAt slot = f (s.circuitsAt slot) ∨
      s.circuitsAt slot = { config := {} } ∧
        (s.updateCircuits slot f).circuitsAt slot = s.circuitsAt slot := by
  simp only [circuitsAt, updateCircuits, List.getElem?_modify]
  cases s.circuits[slot]? with
  | none => exact .inr ⟨rfl, rfl⟩
  | some circuits => exact .inl (by simp)

/-- Nothing is held and nothing given back. A line in the journal is no concern of the
decorators. -/
theorem givenBack_note (s : State) (key : String) (n : Note) :
    s.GivenBack (s.note n) key (fun _ => 0) (fun _ => false) := by
  refine ⟨rfl, rfl, rfl, rfl, ?_, ?_, fun _ _ _ => rfl⟩
  · intro slot
    rw [Limiter.giveBackAll_zero, Option.map_id]
    rfl
  · intro slot
    rw [Breaker.vacate_false]
    rfl

theorem GivenBack.refl (s : State) (key : String) :
    s.GivenBack s key (fun _ => 0) (fun _ => false) := by
  refine ⟨rfl, rfl, rfl, rfl, ?_, ?_, fun _ _ _ => rfl⟩
  · intro slot
    rw [Limiter.giveBackAll_zero, Option.map_id]
    rfl
  · intro slot
    rw [Breaker.vacate_false]

/-- What is given back in two parts. Permits are added up, and a place is free if either part has
freed it. -/
theorem GivenBack.trans {permits more : Nat → Nat} {probes others : Nat → Bool}
    (first : s.GivenBack s' key permits probes) (second : s'.GivenBack s'' key more others) :
    s.GivenBack s'' key (fun slot => more slot + permits slot)
      (fun slot => others slot || probes slot) := by
  refine ⟨second.now.trans first.now, second.tokens.trans first.tokens,
    second.handedOut.trans first.handedOut, second.catalog.trans first.catalog, ?_, ?_, ?_⟩
  · intro slot
    have both : (fun l : Limiter => l.giveBackAll (more slot + permits slot)) =
        (·.giveBackAll (more slot)) ∘ (·.giveBackAll (permits slot)) := by
      funext l
      simp only [Limiter.giveBackAll, Function.comp, Limiter.mk.injEq, true_and]
      omega
    rw [second.limiters, first.limiters, Option.map_map, both]
  · intro slot
    rw [second.breakers, first.breakers]
    cases probes slot <;> cases others slot <;> simp [Breaker.vacate]
  · intro slot other different
    rw [second.others slot other different, first.others slot other different]

end State

/-- A decorator gives back what it holds: a limit one permit, and a circuit the place of its probe,
whose outcome is then not known to the breaker. -/
theorem Frame.givenBack_release (frame : Frame) (key : String) (s : State) :
    s.GivenBack (frame.release key s) key (frame.permits ·) (frame.probes ·) := by
  cases frame with
  | logging span since => exact .refl s key
  | timeout token due limit => exact .refl s key
  | intercepted i => exact .refl s key
  | permit slot =>
    refine ⟨rfl, rfl, rfl, rfl, ?_, ?_, fun _ _ _ => rfl⟩
    · intro other
      simp only [release, State.updateLimiter, List.getElem?_modify, permits]
      by_cases same : slot = other
      · subst same
        simp only [if_true]
        rfl
      · simp [same, Ne.symm same, Limiter.giveBackAll_zero]
    · intro other
      simp only [probes, Breaker.vacate_false]
      rfl
  | circuit slot a =>
    refine ⟨rfl, rfl, rfl, rfl, ?_, ?_, ?_⟩
    · intro other
      simp only [permits, Limiter.giveBackAll_zero, Option.map_id]
      rfl
    · intro other
      by_cases same : slot = other
      · subst same
        rcases s.circuitsAt_updateCircuits slot (·.ignore key a) with changed | ⟨empty, unchanged⟩
        · rw [release, changed, Circuits.ignore, Circuits.breaker_put_self]
          cases a with
          | normal => exact (Breaker.vacate_false _).symm
          | probe => simp [Breaker.ignore, Breaker.release, Breaker.vacate, probes]
        · simp only [release, unchanged, empty]
          rfl
      · have elsewhere : (Frame.circuit slot a).probes other = false := by
          cases a <;> simp [probes, Ne.symm same]
        rw [elsewhere, Breaker.vacate_false, release, s.circuitsAt_updateCircuits_of_ne _ same]
    · intro other foreign different
      by_cases same : slot = other
      · subst same
        rcases s.circuitsAt_updateCircuits slot (·.ignore key a) with changed | ⟨empty, unchanged⟩
        · rw [release, changed, Circuits.ignore]
          exact Circuits.breaker_put_of_ne _ _ different
        · simp only [release, unchanged]
      · rw [release, s.circuitsAt_updateCircuits_of_ne _ same]

/-- Taking an attempt down gives back what it holds, and does nothing else. The induction follows
the decorators that the attempt is inside of. -/
theorem Invocation.givenBack_abandon (inv : Invocation) (flight : Flight) (s : State) :
    s.GivenBack (inv.abandon flight s) inv.context.key (flight.permits ·) (flight.probes ·) := by
  induction flight generalizing s with
  | within frame inner ih =>
    exact (ih s).trans (frame.givenBack_release inv.context.key (inv.abandon inner s))
  | working due token o => exact s.givenBack_note _ _
  | entering due i token rest => exact .refl s _
  | leaving due i o => exact .refl s _

end TrialRouting
