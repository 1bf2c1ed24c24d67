import TrialRouting.Attempt.Flight

/-!
# Traffic through a circuit

The attempts on one key that pass one breaking decorator, in any overlap. An attempt
arrives and is rejected or admitted; an admitted attempt is inside until it settles,
in whatever order and however late. Each event carries the instant at which it
happens.

Any number of attempts may be inside at once, and an attempt that was admitted
while the circuit was closed may settle after it has opened. Nothing here looks at
what the attempts do in between: a history of events is all that a circuit sees of
them. The last section ties the events to the decorator: what it does on the way in,
on the way out, and when it is taken down.
-/

namespace TrialRouting

/-- How an attempt that a circuit has admitted comes to its end. -/
inductive Settlement where
  | succeeded
  | failed
  /-- It was cancelled, or taken down before it had an outcome. -/
  | ignored
  deriving DecidableEq, Repr

/-- What an outcome means to a circuit. -/
def Settlement.ofOutcome : Outcome → Settlement
  | .ok _ => .succeeded
  | .error (.routing .cancelled) => .ignored
  | .error _ => .failed

namespace Circuits

/-- The circuits after an admitted attempt on a key has settled. -/
def settle (c : Circuits) (key : String) (a : Admission) (now : Nat) :
    Settlement → Circuits
  | .succeeded => c.succeed key a
  | .failed => c.fail key a now
  | .ignored => c.ignore key a

/-- A breaker that has just been put under a key is the key's breaker. -/
@[simp] theorem breaker_put_self (c : Circuits) (key : String) (b : Breaker) :
    (c.put key b).breaker key = b := by
  simp [breaker, put, Directory.lookup?_set_self]

/-- The breakers of other keys are left alone. -/
theorem breaker_put_of_ne (c : Circuits) (b : Breaker) {key other : String}
    (distinct : other ≠ key) : (c.put key b).breaker other = c.breaker other := by
  simp [breaker, put, Directory.lookup?_set_of_ne _ _ distinct]

/-- Only the breaker of its own key learns how an attempt has ended. The breakers of all keys are in
one directory, but each is written back under its own key. -/
theorem breaker_settle_of_ne (c : Circuits) (key : String) (a : Admission) (now : Nat)
    (how : Settlement) {other : String} (different : other ≠ key) :
    (c.settle key a now how).breaker other = c.breaker other := by
  cases how <;> exact breaker_put_of_ne c _ different

/-- A success closes the circuit, whatever its state before and whoever succeeds. There is no check
that the circuit is half-open, or that the attempt is a probe. -/
theorem state_succeed (c : Circuits) (key : String) (a : Admission) :
    ((c.succeed key a).breaker key).state = .closed := by
  rw [succeed, breaker_put_self]
  cases a <;> rfl

/-- Putting a breaker in place does not change when circuits open. -/
@[simp] theorem config_put (c : Circuits) (key : String) (b : Breaker) :
    (c.put key b).config = c.config := rfl

/-- Putting a breaker in place does not change where its clock starts. -/
@[simp] theorem origin_put (c : Circuits) (key : String) (b : Breaker) :
    (c.put key b).origin = c.origin := rfl

/-- Putting a breaker in place does not set the clock. -/
@[simp] theorem clock_put (c : Circuits) (key : String) (b : Breaker) :
    (c.put key b).clock = c.clock := rfl

/-- The breaker's clock counts the milliseconds since its origin, modulo 64 bits. It is a count of
nanoseconds cut to milliseconds first, which loses nothing of a whole number of them. -/
theorem clock_eq (c : Circuits) (now : Nat) : c.clock now = (now - c.origin) % UInt64.size := by
  have milliseconds : (now - c.origin) * 1000000 / 1000000 = now - c.origin :=
    Nat.mul_div_cancel _ (by decide)
  simp [clock, Duration.millis, Duration.ofMillis, milliseconds, UInt64.toNat_ofNat']

/-- A reset time of whole milliseconds that fits in 64 bits is compared as it is. -/
theorem resetMillis_eq (c : Circuits) (reset : Nat) (whole : c.config.reset = .ofMillis reset)
    (fits : reset < UInt64.size) : c.resetMillis = reset := by
  have milliseconds : reset * 1000000 / 1000000 = reset := Nat.mul_div_cancel _ (by decide)
  have wrapped : c.resetMillis = reset % UInt64.size := by
    simp [resetMillis, whole, Duration.millis, Duration.ofMillis, milliseconds,
      UInt64.toNat_ofNat']
  rw [wrapped, Nat.mod_eq_of_lt fits]

/-- Less than the reset time after an instant the breaker's clock has not moved on by the reset
time, also when it has wrapped around: then it is behind, and the difference counts as nothing. So a
wrapped clock may keep a circuit open too long, and never too short a time. -/
theorem clock_sub_lt (c : Circuits) (opened now reset : Nat) (later : opened ≤ now)
    (early : now < opened + reset) (fits : reset < UInt64.size) :
    c.clock now - c.clock opened < reset := by
  obtain ⟨origin, counted⟩ : ∃ origin : Nat, c.origin = origin := ⟨c.origin, rfl⟩
  rw [clock_eq, clock_eq, counted]
  unfold UInt64.size at *
  omega

end Circuits

/-- An admitted attempt that has not settled yet. -/
structure Passage where
  /-- Attempts are numbered in the order in which they are admitted. -/
  number : Nat
  admission : Admission
  /-- When it was admitted. -/
  since : Nat
  deriving DecidableEq, Repr

/-- What may happen to the attempts on a key. -/
inductive Happening where
  | arrival
  /-- The admitted attempt of that number settles. -/
  | settlement (number : Nat) (how : Settlement)
  deriving DecidableEq, Repr

/-- Something that happens at an instant. -/
structure CircuitEvent where
  instant : Nat
  happening : Happening
  deriving DecidableEq, Repr

/-- The circuits of a decorator with the attempts on one key that are inside. -/
structure Traffic where
  circuits : Circuits
  inside : List Passage := []
  /-- How many attempts have been admitted so far. -/
  admitted : Nat := 0
  /-- When the latest event happened. -/
  now : Nat

namespace Traffic

/-- A decorator that has just been made. -/
def fresh (config : BreakerConfig) (origin : Nat) : Traffic :=
  { circuits := { config, origin }, now := origin }

/-- The attempt of a number, while it is inside. -/
def passage? (t : Traffic) (number : Nat) : Option Passage :=
  t.inside.find? (·.number == number)

/-- The traffic after an event. Only an attempt that is inside can settle. -/
def after (key : String) (t : Traffic) (e : CircuitEvent) : Traffic :=
  match e.happening with
  | .arrival =>
      let circuits := t.circuits.arrive key e.instant
      match t.circuits.admission? key e.instant with
      | none => { t with circuits, now := e.instant }
      | some admission =>
          { circuits
            inside := t.inside ++ [⟨t.admitted, admission, e.instant⟩]
            admitted := t.admitted + 1
            now := e.instant }
  | .settlement number how =>
      match t.passage? number with
      | none => { t with now := e.instant }
      | some p =>
          { t with
            circuits := t.circuits.settle key p.admission e.instant how
            inside := t.inside.filter (·.number != number)
            now := e.instant }

/-- The traffic after a history of events. -/
def run (key : String) (t : Traffic) (history : List CircuitEvent) : Traffic :=
  history.foldl (after key) t

/-- Whether an attempt that arrived now would be rejected. -/
def Rejects (t : Traffic) (key : String) (now : Nat) : Prop :=
  t.circuits.admission? key now = none

instance (t : Traffic) (key : String) (now : Nat) : Decidable (t.Rejects key now) :=
  inferInstanceAs (Decidable (t.circuits.admission? key now = none))

/-- The attempt whose success an event is, if it is one. -/
def success? (t : Traffic) (e : CircuitEvent) : Option Passage :=
  match e.happening with
  | .settlement number .succeeded => t.passage? number
  | _ => none

/-- The attempts that succeed in a history, in order. -/
def successes (key : String) : Traffic → List CircuitEvent → List Passage
  | _, [] => []
  | t, e :: rest => (t.success? e).toList ++ successes key (t.after key e) rest

/-- An event opens the circuit of the key: it is the failure of an attempt inside that
trips the breaker. -/
def Opens (t : Traffic) (key : String) (e : CircuitEvent) : Prop :=
  ∃ number p, e.happening = .settlement number .failed ∧ t.passage? number = some p ∧
    t.circuits.opensOnFailure key p.admission e.instant = true

@[simp] theorem run_nil (key : String) (t : Traffic) : t.run key [] = t := rfl

@[simp] theorem run_cons (key : String) (t : Traffic) (e : CircuitEvent)
    (rest : List CircuitEvent) : t.run key (e :: rest) = (t.after key e).run key rest := rfl

theorem run_append (key : String) (t : Traffic) (first rest : List CircuitEvent) :
    t.run key (first ++ rest) = (t.run key first).run key rest := by
  simp [run, List.foldl_append]

/-- Every event sets the time. -/
@[simp] theorem now_after (key : String) (t : Traffic) (e : CircuitEvent) :
    (t.after key e).now = e.instant := by
  unfold after
  split <;> split <;> rfl

end Traffic

/-- Events in order of time, none before an instant. -/
def Timely : Nat → List CircuitEvent → Prop
  | _, [] => True
  | start, e :: rest => start ≤ e.instant ∧ Timely e.instant rest

namespace Timely

/-- The events of a timely history up to any point are timely. -/
theorem of_append_left {start : Nat} {first rest : List CircuitEvent}
    (timely : Timely start (first ++ rest)) : Timely start first := by
  induction first generalizing start with
  | nil => trivial
  | cons e first ih => exact ⟨timely.1, ih timely.2⟩

/-- What follows a part of a timely history is no earlier than that part's end. The induction
follows the part; every event sets the time for those after it. -/
theorem of_append_right {key : String} {t : Traffic} {first rest : List CircuitEvent}
    (timely : Timely t.now (first ++ rest)) : Timely (t.run key first).now rest := by
  induction first generalizing t with
  | nil => exact timely
  | cons e first ih =>
    have onwards : Timely (t.after key e).now (first ++ rest) := by
      simpa using timely.2
    exact ih onwards

end Timely

/-! ### The decorator -/

namespace Invocation

/-- A rejected attempt fails at the decorator: the circuit learns of its arrival, a trace
may tell of it, and the rest of the chain has no part in the answer. -/
theorem enter_of_rejected (inv : Invocation) (span : Option Trace.Span) (slot : Nat)
    (rest : List Decorator) (token : Token) (s : State)
    (rejected : (s.circuitsAt slot).admission? inv.context.key s.now = none) :
    inv.enter span (.circuitBreaker slot :: rest) token s =
      ((s.updateCircuits slot (·.arrive inv.context.key s.now)).emit span
        ⟨.debug, "circuit open, attempt rejected", inv.serviceAndKey⟩,
        .done (.error (.routing (.circuitOpen inv.context.service inv.context.key)))) := by
  simp only [enter, rejected]

/-- An admitted attempt enters the rest of the chain inside the circuit. What becomes of it there is
not seen by the circuit until it leaves or is taken down. -/
theorem enter_of_admitted (inv : Invocation) (span : Option Trace.Span) (slot : Nat)
    (rest : List Decorator) (token : Token) (s : State) (admission : Admission)
    (admitted : (s.circuitsAt slot).admission? inv.context.key s.now = some admission) :
    inv.enter span (.circuitBreaker slot :: rest) token s =
      inv.around span (.circuit slot admission)
        (inv.enter span rest token (s.updateCircuits slot (·.arrive inv.context.key s.now))) := by
  simp only [enter, admitted]

/-- Leaving the circuit with an outcome settles the attempt as that outcome says, and an event
follows if a failure opens the circuit. -/
theorem settleCircuit_cases (inv : Invocation) (span : Option Trace.Span) (slot : Nat)
    (a : Admission) (o : Outcome) (s : State) :
    inv.settleCircuit span slot a o s =
        s.updateCircuits slot (·.settle inv.context.key a s.now (.ofOutcome o)) ∨
      ∃ f resetMillis, o = .error f ∧ inv.settleCircuit span slot a o s =
        (s.updateCircuits slot (·.settle inv.context.key a s.now (.ofOutcome o))).emit span
          ⟨.warn, "circuit opened",
            inv.serviceAndKey ++ [Trace.number "reset_timeout_ms" resetMillis]⟩ := by
  have failing (f : Failure) (reported : inv.settleCircuit span slot a (.error f) s =
      if (s.circuitsAt slot).opensOnFailure inv.context.key a s.now then
        (s.updateCircuits slot (·.fail inv.context.key a s.now)).emit span
          ⟨.warn, "circuit opened", inv.serviceAndKey ++
            [Trace.number "reset_timeout_ms" (s.circuitsAt slot).resetMillis]⟩
      else s.updateCircuits slot (·.fail inv.context.key a s.now)) :
      inv.settleCircuit span slot a (.error f) s =
          s.updateCircuits slot (·.fail inv.context.key a s.now) ∨
        ∃ g resetMillis, Except.error f = (.error g : Outcome) ∧
          inv.settleCircuit span slot a (.error f) s =
          (s.updateCircuits slot (·.fail inv.context.key a s.now)).emit span
            ⟨.warn, "circuit opened",
              inv.serviceAndKey ++ [Trace.number "reset_timeout_ms" resetMillis]⟩ := by
    rw [reported]
    split
    · exact .inr ⟨f, _, rfl, rfl⟩
    · exact .inl rfl
  cases o with
  | ok v => exact .inl rfl
  | error f =>
    cases f with
    | implementation fault => exact failing _ rfl
    | routing e =>
      cases e with
      | cancelled => exact .inl rfl
      | timeout _ _ => exact failing _ rfl
      | circuitOpen _ _ => exact failing _ rfl
      | overloaded => exact failing _ rfl
      | resolution _ _ => exact failing _ rfl
      | resultShape _ => exact failing _ rfl
      | decorator _ => exact failing _ rfl
      | unrecognized _ => exact failing _ rfl

/-- Besides settling the attempt, leaving the circuit only lets a trace grow. So what an attempt
does to a circuit on its way out is the settlement, whatever its outcome. -/
theorem settleCircuit_eq (inv : Invocation) (span : Option Trace.Span) (slot : Nat)
    (a : Admission) (o : Outcome) (s : State) :
    ∃ entries, inv.settleCircuit span slot a o s =
      { s.updateCircuits slot (·.settle inv.context.key a s.now (.ofOutcome o)) with
        trace := s.trace ++ entries } := by
  rcases inv.settleCircuit_cases span slot a o s with settled | ⟨f, resetMillis, -, settled⟩
  · refine ⟨[], settled.trans ?_⟩
    simp [State.updateCircuits]
  · exact ⟨_, settled⟩

end Invocation

/-- An admitted attempt that is taken down settles as ignored. -/
theorem Frame.release_circuit (slot : Nat) (a : Admission) (key : String) (s : State) :
    (Frame.circuit slot a).release key s =
      s.updateCircuits slot (·.settle key a s.now .ignored) := rfl

end TrialRouting
