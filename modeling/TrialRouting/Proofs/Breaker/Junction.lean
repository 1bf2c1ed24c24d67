import Mathlib.Logic.Function.Basic
import TrialRouting.Proofs.Breaker.Bookkeeping
import TrialRouting.Proofs.Attempt.Effects
import TrialRouting.Proofs.Attempt.Teardown

/-!
# Keys that share a decorator

The attempts on all keys that pass one breaking decorator, in any overlap. Every key has a lane
of its own, with the attempts on it that are inside, and all lanes share the circuits of the
decorator. The breakers are made when their keys are first met and kept side by side, so this
is where one key might come to feel another.

It does not. Two junctions that look the same on a key go on looking the same whatever happens
on the other keys, and whatever happens on the key happens to both; so the events of the other
keys may be deleted from a history without anything changing for the key. What is left is the
traffic of the key alone, and all that is true of such traffic is true of each lane.
-/

namespace TrialRouting

namespace Circuits

/-- Two decorators look the same to the attempts on a key. They agree on what all keys share, which
never changes, and on the breaker of the key. -/
structure Alike (key : String) (c c' : Circuits) : Prop where
  config : c'.config = c.config
  origin : c'.origin = c.origin
  breaker : c'.breaker key = c.breaker key

namespace Alike

variable {c c' c'' : Circuits} {key other : String}

theorem refl (key : String) (c : Circuits) : c.Alike key c :=
  ⟨rfl, rfl, rfl⟩

theorem trans (first : c.Alike key c') (second : c'.Alike key c'') : c.Alike key c'' :=
  ⟨second.config.trans first.config, second.origin.trans first.origin,
    second.breaker.trans first.breaker⟩

theorem symm (alike : c.Alike key c') : c'.Alike key c :=
  ⟨alike.config.symm, alike.origin.symm, alike.breaker.symm⟩

/-- They tell the same time. The clock of a breaker starts when the decorator is made, whichever key
it is for. -/
theorem clock (alike : c.Alike key c') (now : Nat) : c'.clock now = c.clock now := by
  rw [clock_eq, clock_eq, alike.origin]

/-- They admit an attempt on the key in the same way. -/
theorem admission (alike : c.Alike key c') (now : Nat) :
    c'.admission? key now = c.admission? key now := by
  rw [admission?, admission?, alike.breaker, alike.clock, resetMillis, resetMillis, alike.config]

/-- Another breaker for the key makes no difference between them. -/
theorem put (alike : c.Alike key c') (b : Breaker) : (c.put key b).Alike key (c'.put key b) := by
  refine ⟨alike.config, alike.origin, ?_⟩
  rw [breaker_put_self, breaker_put_self]

/-- A breaker for another key makes no difference to the key. This is where it matters that the
breakers are kept by key. -/
theorem put_other (c : Circuits) (b : Breaker) (apart : other ≠ key) :
    c.Alike key (c.put other b) :=
  ⟨rfl, rfl, c.breaker_put_of_ne b (Ne.symm apart)⟩

/-- An attempt on the key arrives at both. -/
theorem arrive (alike : c.Alike key c') (now : Nat) :
    (c.arrive key now).Alike key (c'.arrive key now) := by
  have same : c'.arrive key now =
      c'.put key ((c.breaker key).arrive (c.clock now) c.resetMillis).1 := by
    rw [Circuits.arrive, alike.breaker, alike.clock, resetMillis, resetMillis, alike.config]
  rw [same]
  exact alike.put _

/-- An attempt on another key arrives. The circuit of that key may turn half-open with it, and no
other does. -/
theorem arrive_other (c : Circuits) (now : Nat) (apart : other ≠ key) :
    c.Alike key (c.arrive other now) :=
  put_other c _ apart

/-- An attempt on the key settles with both. -/
theorem settle (alike : c.Alike key c') (a : Admission) (now : Nat) (how : Settlement) :
    (c.settle key a now how).Alike key (c'.settle key a now how) := by
  cases how with
  | succeeded =>
    simp only [Circuits.settle, succeed, alike.breaker]
    exact alike.put _
  | failed =>
    simp only [Circuits.settle, fail, alike.breaker, alike.clock, alike.config]
    exact alike.put _
  | ignored =>
    simp only [Circuits.settle, ignore, alike.breaker]
    exact alike.put _

/-- An attempt on another key settles. Its circuit may open or close, and no other does. -/
theorem settle_other (c : Circuits) (a : Admission) (now : Nat) (how : Settlement)
    (apart : other ≠ key) : c.Alike key (c.settle other a now how) := by
  cases how with
  | succeeded => exact put_other c _ apart
  | failed => exact put_other c _ apart
  | ignored => exact put_other c _ apart

end Alike

end Circuits

/-! ### A history of all keys -/

/-- Something that happens to the attempts on a key. -/
structure KeyedEvent where
  key : String
  event : CircuitEvent
  deriving DecidableEq, Repr

/-- The attempts on one key. They may overlap one another, and those on other keys. -/
structure Lane where
  inside : List Passage := []
  /-- How many attempts have been admitted so far. -/
  admitted : Nat := 0
  /-- When the latest event happened. -/
  now : Nat
  deriving DecidableEq, Repr

/-- The circuits of a decorator with the attempts on each key. The circuits are one for all, and
what has been admitted is counted key by key. -/
structure Junction where
  circuits : Circuits
  lane : String → Lane

namespace Junction

/-- A decorator that has just been made. -/
def fresh (config : BreakerConfig) (origin : Nat) : Junction :=
  { circuits := { config, origin }, lane := fun _ => { now := origin } }

/-- The traffic of a key: its own lane, and the circuits that all lanes share. -/
def traffic (x : Junction) (key : String) : Traffic :=
  { circuits := x.circuits
    inside := (x.lane key).inside
    admitted := (x.lane key).admitted
    now := (x.lane key).now }

/-- The junction after an event. -/
def after (x : Junction) (e : KeyedEvent) : Junction :=
  let t := (x.traffic e.key).after e.key e.event
  { circuits := t.circuits
    lane := Function.update x.lane e.key ⟨t.inside, t.admitted, t.now⟩ }

/-- The junction after a history of events. -/
def run (x : Junction) (history : List KeyedEvent) : Junction :=
  history.foldl after x

/-- What is left of a history when the events of all other keys are deleted. The instants of those
that stay are the ones they had. -/
def own (key : String) (history : List KeyedEvent) : List KeyedEvent :=
  history.filter (·.key == key)

/-- How an attempt on the key is admitted, if an event is its arrival. -/
def decision? (key : String) (x : Junction) (e : KeyedEvent) : Option (Option Admission) :=
  if e.key = key ∧ e.event.happening = .arrival then
    some (x.circuits.admission? key e.event.instant)
  else none

/-- How the attempts on the key are admitted in a history, in order. -/
def decisions (key : String) : Junction → List KeyedEvent → List (Option Admission)
  | _, [] => []
  | x, e :: rest => (x.decision? key e).toList ++ decisions key (x.after e) rest

/-- Two junctions look the same to the attempts on a key. -/
structure Alike (key : String) (x y : Junction) : Prop where
  circuits : x.circuits.Alike key y.circuits
  lane : y.lane key = x.lane key

variable {x y : Junction} {key : String} {e : KeyedEvent}

@[simp] theorem run_nil (x : Junction) : x.run [] = x := rfl

@[simp] theorem run_cons (x : Junction) (e : KeyedEvent) (rest : List KeyedEvent) :
    x.run (e :: rest) = (x.after e).run rest := rfl

/-- An event of the key belongs to its history. -/
theorem own_cons_self (rest : List KeyedEvent) (here : e.key = key) :
    own key (e :: rest) = e :: own key rest := by
  simp [own, here]

/-- An event of another key does not. -/
theorem own_cons_other (rest : List KeyedEvent) (apart : e.key ≠ key) :
    own key (e :: rest) = own key rest := by
  simp [own, apart]

/-- What happens on a key happens in its traffic. The circuits change, and the lane of the key with
them. -/
theorem traffic_after (x : Junction) (key : String) (event : CircuitEvent) :
    (x.after ⟨key, event⟩).traffic key = (x.traffic key).after key event := by
  simp only [after, traffic, Function.update_self]

/-- An event of a key leaves the circuits of all other keys alone, and their lanes as well. -/
theorem alike_after_other (x : Junction) (apart : e.key ≠ key) : x.Alike key (x.after e) := by
  refine ⟨?_, Function.update_of_ne (Ne.symm apart) _ _⟩
  simp only [after, Traffic.after]
  split
  · split <;> exact .arrive_other _ _ apart
  · split
    · exact .refl _ _
    · exact .settle_other _ _ _ _ apart

namespace Alike

/-- An event of the key happens to both. -/
theorem after (alike : x.Alike key y) (here : e.key = key) :
    (x.after e).Alike key (y.after e) := by
  subst here
  have lane : y.lane e.key = x.lane e.key := alike.lane
  simp only [Junction.after, Traffic.after, traffic, Traffic.passage?, lane]
  cases e.event.happening with
  | arrival =>
    have decided := alike.circuits.admission e.event.instant
    simp only [decided]
    split
    · exact ⟨alike.circuits.arrive _, by simp only [Function.update_self]⟩
    · exact ⟨alike.circuits.arrive _, by simp only [Function.update_self]⟩
  | settlement number how =>
    dsimp only
    split
    · exact ⟨alike.circuits, by simp only [Function.update_self]⟩
    · exact ⟨alike.circuits.settle _ _ _, by simp only [Function.update_self]⟩

/-- Two junctions that look the same on a key still do after a history of one of them and the events
of the key alone in the other, and have admitted the attempts on the key alike. The induction
follows the history: an event of the key happens to both, and one of another key to the first alone,
which makes no difference. -/
theorem run (alike : x.Alike key y) (history : List KeyedEvent) :
    (x.run history).Alike key (y.run (own key history)) ∧
      x.decisions key history = y.decisions key (own key history) := by
  induction history generalizing x y with
  | nil => exact ⟨alike, rfl⟩
  | cons e rest ih =>
    by_cases here : e.key = key
    · obtain ⟨looks, decided⟩ := ih (alike.after here)
      have asked : x.decision? key e = y.decision? key e := by
        simp only [decision?, alike.circuits.admission]
      rw [own_cons_self rest here]
      refine ⟨looks, ?_⟩
      simp only [decisions, asked, decided]
    · have elsewhere : (x.after e).Alike key y :=
        have moved := alike_after_other x here
        ⟨moved.circuits.symm.trans alike.circuits, alike.lane.trans moved.lane.symm⟩
      obtain ⟨looks, decided⟩ := ih elsewhere
      have silent : x.decision? key e = none := by simp [decision?, here]
      rw [own_cons_other rest here]
      refine ⟨looks, ?_⟩
      simpa only [decisions, silent, Option.toList_none, List.nil_append] using decided

end Alike

/-- The events of a key alone are the history of its traffic. So whatever has been proved of the
traffic of one key is true of each key of a junction. -/
theorem traffic_run_own (x : Junction) (key : String) (history : List KeyedEvent) :
    (x.run (own key history)).traffic key =
      (x.traffic key).run key ((own key history).map (·.event)) := by
  induction history generalizing x with
  | nil => rfl
  | cons e rest ih =>
    by_cases here : e.key = key
    · subst here
      rw [own_cons_self rest rfl, run_cons, ih, traffic_after]
      rfl
    · rw [own_cons_other rest here, ih]

end Junction

/-! ### The decorator -/

/-- Whatever an attempt does leaves the circuits of all keys but its own alone. So the events of
this module are all that an attempt may do to the breakers. -/
theorem Invocation.Reaches.alike {inv : Invocation} {s s' : State} {key : String}
    (reaches : inv.Reaches s s') (apart : inv.context.key ≠ key) (slot : Nat) :
    (s.circuitsAt slot).Alike key (s'.circuitsAt slot) := by
  have changed (s : State) (other : Nat) (f : Circuits → Circuits)
      (spares : ∀ c : Circuits, c.Alike key (f c)) :
      (s.circuitsAt slot).Alike key ((s.updateCircuits other f).circuitsAt slot) := by
    by_cases same : other = slot
    · subst same
      rcases s.circuitsAt_updateCircuits other f with done | ⟨-, unchanged⟩
      · rw [done]
        exact spares _
      · rw [unchanged]
        exact .refl _ _
    · rw [s.circuitsAt_updateCircuits_of_ne f same]
      exact .refl _ _
  refine reaches.along (R := fun a b => (a.circuitsAt slot).Alike key (b.circuitsAt slot))
    (fun _ => .refl _ _) .trans ?_
  intro a b effect
  cases effect with
  | arrived other => exact changed a other _ fun c => .arrive_other c _ apart
  | settled other admission how => exact changed a other _ fun c => .settle_other c _ _ _ apart
  | _ => exact .refl _ _

namespace Junction

/-- A key of a decorator sees nothing of the other keys in a history. -/
structure Isolated (config : BreakerConfig) (origin : Nat) (key : String)
    (history : List KeyedEvent) : Prop where
  /-- The attempts on the key have been admitted, one by one, as in the history without the
  events of the other keys, -/
  decisions : (fresh config origin).decisions key history =
    (fresh config origin).decisions key (own key history)
  /-- the circuit of the key is in the same state, -/
  state : ((fresh config origin).run history).circuits.state key =
    ((fresh config origin).run (own key history)).circuits.state key
  /-- whenever an attempt on the key arrived next, it would be admitted in the same way, -/
  admission : ∀ now, ((fresh config origin).run history).circuits.admission? key now =
    ((fresh config origin).run (own key history)).circuits.admission? key now
  /-- and so on through all that may follow. -/
  later : ∀ rest, ((fresh config origin).run history).decisions key rest =
    ((fresh config origin).run (own key history)).decisions key (own key rest)
  /-- The breaker of the key and the attempts inside are those of its own traffic. -/
  breaker : ((fresh config origin).run history).circuits.breaker key =
    ((Traffic.fresh config origin).run key ((own key history).map (·.event))).circuits.breaker key
  inside : (((fresh config origin).run history).lane key).inside =
    ((Traffic.fresh config origin).run key ((own key history).map (·.event))).inside
  /-- A key that has not been met has a closed circuit without failures, which admits. -/
  unmet : own key history = [] →
    ((fresh config origin).run history).circuits.breaker key = {} ∧
      ((fresh config origin).run history).circuits.state key = .closed ∧
      ∀ now, ((fresh config origin).run history).circuits.admission? key now = some .normal
  /-- What an attempt on another key does on its way in, when it goes on, and when it is taken
  down changes neither the breaker of the key nor what decides about it. -/
  entering : ∀ inv : Invocation, inv.context.key ≠ key →
    ∀ slot span decorators token (s : State),
      (s.circuitsAt slot).Alike key ((inv.enter span decorators token s).1.circuitsAt slot)
  resuming : ∀ inv : Invocation, inv.context.key ≠ key →
    ∀ slot span (flight : Flight) (s : State), flight.Issued s.tokens →
      (s.circuitsAt slot).Alike key ((inv.resume span flight s).1.circuitsAt slot)
  abandoning : ∀ inv : Invocation, inv.context.key ≠ key → ∀ slot flight (s : State),
    (s.circuitsAt slot).Alike key ((inv.abandon flight s).circuitsAt slot)

/-- Whatever the attempts on other keys do or leave unsettled, and in whatever overlap, the attempts
on a key fare as if they had the decorator for themselves.

Proof: a new decorator looks like itself, and a history and what is left of it keep two junctions
looking the same on the key. The decisions so far, the state of the circuit and the decisions to
come can all be read off what looks the same. -/
theorem isolates_keys (config : BreakerConfig) (origin : Nat) (key : String)
    (history : List KeyedEvent) : Isolated config origin key history := by
  have same : (fresh config origin).Alike key (fresh config origin) := ⟨.refl _ _, rfl⟩
  obtain ⟨looks, decided⟩ := same.run history
  have alone := traffic_run_own (fresh config origin) key history
  refine ⟨decided, ?_, ?_, ?_, ?_, ?_, ?_, ?_, ?_, ?_⟩
  · rw [Circuits.state, Circuits.state, looks.circuits.breaker]
  · exact fun now => (looks.circuits.admission now).symm
  · exact fun rest => (looks.run rest).2
  · rw [← looks.circuits.breaker]
    exact congrArg (·.circuits.breaker key) alone
  · rw [← looks.lane]
    exact congrArg (·.inside) alone
  · intro unmet
    rw [unmet] at looks
    have untouched : ((fresh config origin).run history).circuits.breaker key = {} :=
      looks.circuits.breaker.symm
    refine ⟨untouched, ?_, ?_⟩
    · rw [Circuits.state, untouched]
    · intro now
      rw [Circuits.admission?, untouched]
      rfl
  · exact fun inv apart slot span decorators token s =>
      (Invocation.enter_yields span decorators token s).reaches.alike apart slot
  · exact fun inv apart slot span flight s issued =>
      (Invocation.resume_yields span flight s issued).reaches.alike apart slot
  · exact fun inv apart slot flight s =>
      (Invocation.abandon_reaches flight s).alike apart slot

/-- One key fails while an attempt on another has not settled. -/
def strikeBeside : List KeyedEvent :=
  [⟨"b", ⟨0, .arrival⟩⟩, ⟨"a", ⟨0, .arrival⟩⟩, ⟨"a", ⟨1, .settlement 0 .failed⟩⟩,
    ⟨"a", ⟨2, .arrival⟩⟩, ⟨"b", ⟨3, .arrival⟩⟩]

/-- The key that has failed is rejected; the other is admitted, and so is one that has not been met.
The attempt on the other key was inside all the while. -/
theorem strike_stays_on_key :
    Isolated Traffic.oneStrike 0 "b" strikeBeside ∧
      (fresh Traffic.oneStrike 0).decisions "a" strikeBeside = [some .normal, none] ∧
      (fresh Traffic.oneStrike 0).decisions "b" strikeBeside = [some .normal, some .normal] ∧
      ((fresh Traffic.oneStrike 0).run strikeBeside).circuits.state "a" = .opened ∧
      ((fresh Traffic.oneStrike 0).run strikeBeside).circuits.state "c" = .closed := by
  have apart : own "c" strikeBeside = [] := by decide
  exact ⟨isolates_keys _ _ _ _, by decide, by decide, by decide,
    ((isolates_keys Traffic.oneStrike 0 "c" strikeBeside).unmet apart).2.1⟩

end Junction

end TrialRouting
