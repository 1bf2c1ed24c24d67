import TrialRouting.Proofs.Overlap.Backdrop
import TrialRouting.Schedule

/-!
# What one activity of a schedule writes

The journal, the trace and the metrics are shared, so what several activities write ends up
interleaved. Only one of them has its turn at a time: what is added during its turns is what it
has written, and the clock tells how long after its start it was.
-/

namespace TrialRouting

/-- What has been written, each line with the time that had passed since a start. -/
structure Chronicle where
  journal : List (Nat × Note) := []
  trace : List (Nat × Trace.Entry) := []
  samples : List (Nat × Telemetry.Sample) := []

namespace Chronicle

instance : Append Chronicle where
  append first second := {
    journal := first.journal ++ second.journal
    trace := first.trace ++ second.trace
    samples := first.samples ++ second.samples }

/-- What one state has written more than another, at the time of the latter. -/
def between (start : Instant) (s s' : State) : Chronicle where
  journal := (s'.journal.drop s.journal.length).map (s.now - start, ·)
  trace := (s'.trace.drop s.trace.length).map (s.now - start, ·)
  samples := (s'.samples.drop s.samples.length).map (s.now - start, ·)

/-- The lines without their numbers. -/
def anonymous (c : Chronicle) : Chronicle where
  journal := c.journal.map (Prod.map id Note.anonymous)
  trace := c.trace.map (Prod.map id Trace.Entry.anonymous)
  samples := c.samples

theorem anonymous_append (c c' : Chronicle) :
    (c ++ c').anonymous = c.anonymous ++ c'.anonymous := by
  show Chronicle.mk _ _ _ = Chronicle.mk _ _ _
  rw [mk.injEq]
  exact ⟨List.map_append, List.map_append, rfl⟩

theorem empty_append (c : Chronicle) : ({} : Chronicle) ++ c = c :=
  rfl

theorem append_empty (c : Chronicle) : c ++ {} = c := by
  show Chronicle.mk _ _ _ = c
  rw [List.append_nil, List.append_nil, List.append_nil]

/-- Nothing is written while nothing is done. -/
theorem between_self (start : Instant) (s : State) : between start s s = {} := by
  simp only [between, List.drop_length, List.map_nil]

end Chronicle

namespace Schedule

variable {α σ ρ : Type}

/-- What the `n`-th activity writes when something is done for each in turn. -/
def writtenByEach (f : Activity α σ ρ → State → State × Activity α σ ρ) :
    Nat → List (Activity α σ ρ) → State → Chronicle
  | _, [], _ => {}
  | 0, a :: _, s => .between a.startAt s (f a s).1
  | n + 1, a :: rest, s => writtenByEach f n rest (f a s).1

/-- What it writes in a round. -/
def writtenInRound (p : Conduct α σ ρ) (n : Nat) (as : List (Activity α σ ρ)) (s : State) :
    Chronicle :=
  let turned := each (fun a s => a.turn p s) as s
  writtenByEach (fun a s => a.turn p s) n as s
    ++ writtenByEach (fun a s => a.applyCancel s) n turned.2 turned.1

/-- What it writes in the rounds of an instant. -/
def writtenInRounds (p : Conduct α σ ρ) (n : Nat) :
    Nat → List (Activity α σ ρ) → State → Chronicle
  | 0, _, _ => {}
  | more + 1, as, s =>
      let after := round p as s
      writtenInRound p n as s ++
        if cancelledCount as s < cancelledCount after.2 after.1 then
          writtenInRounds p n more after.2 after.1
        else {}

/-- What it writes from instant to instant. -/
def writtenInInstants (p : Conduct α σ ρ) (n : Nat) :
    Nat → List (Activity α σ ρ) → State → Chronicle
  | 0, _, _ => {}
  | more + 1, as, s =>
      let settled := rounds p (as.length + 1) as s
      writtenInRounds p n (as.length + 1) as s ++
        match nextInstant? p settled.2 settled.1.now with
        | none => {}
        | some due => writtenInInstants p n more settled.2 { settled.1 with now := due }

/-- What the `n`-th of the activities that are run writes. -/
def written (p : Conduct α σ ρ) (n : Nat) (as : List (Activity α σ ρ)) (s : State) : Chronicle :=
  let last := (as.map fun a => max a.startAt a.abandonAt).max?.getD s.now
  writtenInInstants p n (last - s.now + 1) as s

end Schedule

end TrialRouting
