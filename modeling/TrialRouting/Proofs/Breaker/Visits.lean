import TrialRouting.Proofs.Breaker.Bookkeeping

/-!
# Visits to a circuit

Attempts on one key that do not overlap: each settles before the next one arrives. A `Visit` is
an arrival with the settlement that follows it, and a visitor finds nobody inside and leaves
nobody behind. What can be seen of it from outside is how the attempt was admitted and the
state of the circuit before and after it settled.
-/

namespace TrialRouting

/-- An attempt that settles before the next one arrives. One that is rejected settles with its
arrival, and it does not matter how. -/
structure Visit where
  arrival : Nat
  settled : Nat
  how : Settlement
  deriving DecidableEq, Repr

/-- Visits one after another, none before an instant. -/
def Orderly : Nat → List Visit → Prop
  | _, [] => True
  | start, v :: rest => start ≤ v.arrival ∧ v.arrival ≤ v.settled ∧ Orderly v.settled rest

/-- How a visit has gone. -/
structure Reception where
  /-- As what the attempt was let through, if it was. -/
  admission : Option Admission
  /-- The state of the circuit once the attempt had arrived. -/
  during : CircuitState
  /-- The state of the circuit once it had settled. -/
  afterwards : CircuitState
  deriving DecidableEq, Repr

/-- The circuit has opened when the attempt settled. -/
def Reception.Opens (r : Reception) : Prop :=
  r.during ≠ .opened ∧ r.afterwards = .opened

/-- The ends of the attempts that were let through. -/
def outcomes : List Reception → List Visit → List Settlement
  | r :: log, v :: rest => (r.admission.map fun _ => v.how).toList ++ outcomes log rest
  | _, _ => []

/-- How many attempts have failed in a row, up to the last one. Those that were cancelled or
taken down do not count. -/
def failuresInARow (ends : List Settlement) : Nat :=
  ((ends.filter (· != .ignored)).reverse.takeWhile (· == .failed)).length

/-- A success starts the row again. -/
theorem failuresInARow_succeeded (ends : List Settlement) :
    failuresInARow (ends ++ [.succeeded]) = 0 := by
  simp [failuresInARow]

/-- A failure makes it longer. -/
theorem failuresInARow_failed (ends : List Settlement) :
    failuresInARow (ends ++ [.failed]) = failuresInARow ends + 1 := by
  simp [failuresInARow]

/-- An attempt without an outcome leaves the row as it is: it is neither counted nor does it
interrupt the failures before and after it. -/
theorem failuresInARow_ignored (ends : List Settlement) :
    failuresInARow (ends ++ [.ignored]) = failuresInARow ends := by
  simp [failuresInARow]

namespace Traffic

/-- The traffic after a visit: an attempt arrives, and settles if it has been admitted. -/
def visit (key : String) (t : Traffic) (v : Visit) : Traffic :=
  (t.after key ⟨v.arrival, .arrival⟩).after key ⟨v.settled, .settlement t.admitted v.how⟩

/-- The traffic after some visits. -/
def visits (key : String) (t : Traffic) (vs : List Visit) : Traffic :=
  vs.foldl (visit key) t

/-- How a visit goes. -/
def reception (key : String) (t : Traffic) (v : Visit) : Reception where
  admission := t.circuits.admission? key v.arrival
  during := (t.after key ⟨v.arrival, .arrival⟩).circuits.state key
  afterwards := (t.visit key v).circuits.state key

/-- How some visits go. -/
def log (key : String) : Traffic → List Visit → List Reception
  | _, [] => []
  | t, v :: rest => t.reception key v :: log key (t.visit key v) rest

variable {key : String} {t : Traffic}

/-- An attempt that is rejected leaves nothing behind but its arrival. There is nobody inside, so
that its settlement finds no attempt of its number. -/
theorem visit_of_rejected (quiet : t.inside = []) (v : Visit)
    (rejected : t.circuits.admission? key v.arrival = none) :
    t.visit key v = { t with circuits := t.circuits.arrive key v.arrival, now := v.settled } := by
  simp [visit, after, rejected, passage?, quiet]

/-- An attempt that is admitted and settles leaves nobody inside. It is the only one there, and the
settlement is its own. -/
theorem visit_of_admitted (quiet : t.inside = []) (v : Visit) {a : Admission}
    (admitted : t.circuits.admission? key v.arrival = some a) :
    t.visit key v =
      { circuits := (t.circuits.arrive key v.arrival).settle key a v.settled v.how
        inside := []
        admitted := t.admitted + 1
        now := v.settled } := by
  simp [visit, after, admitted, passage?, quiet]

end Traffic

end TrialRouting
