import TrialRouting.Proofs.Overlap.Instants

/-!
# An activity by itself

A schedule with one activity that nobody cancels: it gets a turn when it starts and, if it waits
then, at the next instant at which something is due for it. An activity that comes to its end in
its first or its second turn ends the schedule there.
-/

namespace TrialRouting

variable {α σ ρ : Type} {p : Conduct α σ ρ} {a a' : Activity α σ ρ} {s s' s'' : State}
  {stage : σ} {result : ρ} {due : Instant} {more : Nat}

/-- Nobody cancels an activity for which no cancellation has been arranged. -/
theorem Activity.applyCancel_of_none (none : a.cancelAt = none) (s : State) :
    a.applyCancel s = (s, a) := by
  unfold applyCancel
  rw [none]
  split
  · next found => cases found
  · rfl

/-- An activity that gets its turn when it is to start. -/
theorem Activity.turn_of_start (waiting : a.status = .waiting) (starts : a.startAt ≤ s.now) :
    a.turn p s = a.afterTurn p (p.start a.request s) := by
  simp only [turn, waiting, starts, if_true]

/-- Its result ends it. -/
theorem Activity.afterTurn_of_finished (a : Activity α σ ρ) (s : State) (result : ρ) :
    a.afterTurn p (s, .finished result) =
      (s, { a with status := .ended s.now (some result) }) := rfl

/-- It goes on unless it is to be abandoned, which it is not before its time. -/
theorem Activity.afterTurn_of_running (early : s.now < a.abandonAt) (stage : σ) :
    a.afterTurn p (s, .running stage) = (s, { a with status := .running stage }) :=
  if_neg (Nat.not_le_of_lt early)

namespace Schedule

/-- One round is enough for an activity whose token is not cancelled in it. A further one is only
for what a cancellation has made due. -/
theorem rounds_alone (none : a'.cancelAt = none) (turned : a.turn p s = (s', a'))
    (live : s'.isCancelled a'.token = false) (more : Nat) :
    rounds p (more + 1) [a] s = (s', [a']) := by
  have after : round p [a] s = (s', [a']) := by
    simp only [round, each, turned, a'.applyCancel_of_none none]
  have nobody : cancelledCount [a'] s' = 0 := by simp [cancelledCount, live]
  simp only [rounds, after, nobody, Nat.not_lt_zero, if_false]

/-- A schedule is over when its activity has ended, since nothing is due any more. -/
theorem instants_of_ended (none : a'.cancelAt = none) (turned : a.turn p s = (s', a'))
    (live : s'.isCancelled a'.token = false) (ended : a'.instants p = []) :
    instants p (more + 1) [a] s = (s', [a']) := by
  have nothing : nextInstant? p [a'] s'.now = Option.none := by simp [nextInstant?, ended]
  simp only [instants, List.length_singleton, rounds_alone none turned live, nothing]

/-- Otherwise the clock moves on to what is due next, and the schedule goes on from there. -/
theorem instants_of_running (none : a'.cancelAt = none) (turned : a.turn p s = (s', a'))
    (live : s'.isCancelled a'.token = false) (next : nextInstant? p [a'] s'.now = some due) :
    instants p (more + 1) [a] s = instants p more [a'] { s' with now := due } := by
  simp only [instants, List.length_singleton, rounds_alone none turned live, next]

/-- An activity that comes to its result as soon as it starts ends the schedule at the instant at
which it began. -/
theorem run_of_finished (waiting : a.status = .waiting) (starts : a.startAt ≤ s.now)
    (none : a.cancelAt = none) (started : p.start a.request s = (s', .finished result))
    (live : s'.isCancelled a.token = false) :
    run p [a] s = (s', [{ a with status := .ended s'.now (some result) }]) := by
  have turned : a.turn p s = (s', { a with status := .ended s'.now (some result) }) := by
    rw [Activity.turn_of_start waiting starts, started, Activity.afterTurn_of_finished]
  exact instants_of_ended none turned live rfl

/-- An activity that waits, and comes to its result when something is due for it. The clock is moved
once. -/
theorem run_of_waiting (waiting : a.status = .waiting) (starts : a.startAt ≤ s.now)
    (none : a.cancelAt = none) (started : p.start a.request s = (s', .running stage))
    (clock : s'.now = s.now) (live : s'.isCancelled a.token = false)
    (timer : due ∈ p.timers stage) (least : ∀ t ∈ p.timers stage, due ≤ t) (later : s.now < due)
    (early : due < a.abandonAt)
    (resumed : p.resume a.request stage { s' with now := due } = (s'', .finished result))
    (live' : s''.isCancelled a.token = false) :
    run p [a] s = (s'', [{ a with status := .ended s''.now (some result) }]) := by
  have first : a.turn p s = (s', { a with status := .running stage }) := by
    rw [Activity.turn_of_start waiting starts, started,
      Activity.afterTurn_of_running (clock ▸ Nat.lt_trans later early)]
  have second : ({ a with status := .running stage } : Activity α σ ρ).turn p
      { s' with now := due } = (s'', { a with status := .ended s''.now (some result) }) := by
    simp only [Activity.turn, resumed, Activity.afterTurn_of_finished]
  have awaited : ({ a with status := .running stage } : Activity α σ ρ).instants p =
      a.abandonAt :: p.timers stage := by
    simp [Activity.instants, none]
  have next : nextInstant? p [{ a with status := .running stage }] s'.now = some due := by
    simp only [nextInstant?_eq_some_iff, List.mem_singleton, exists_eq_left, forall_eq, awaited,
      List.forall_mem_cons]
    exact ⟨List.mem_cons_of_mem _ timer, clock ▸ later, fun _ => Nat.le_of_lt early,
      fun t member _ => least t member⟩
  have lasts : s.now < max a.startAt a.abandonAt :=
    Nat.lt_of_lt_of_le (Nat.lt_trans later early) (Nat.le_max_right _ _)
  obtain ⟨m, time⟩ : ∃ m, max a.startAt a.abandonAt - s.now = m + 1 :=
    Nat.exists_eq_add_one.mpr (Nat.sub_pos_of_lt lasts)
  simp only [run, List.map_singleton, List.max?_singleton, Option.getD_some, time]
  calc instants p (m + 1 + 1) [a] s
      = instants p (m + 1) [{ a with status := .running stage }] { s' with now := due } :=
        instants_of_running none first live next
    _ = (s'', [{ a with status := .ended s''.now (some result) }]) :=
        instants_of_ended none second live' rfl

end Schedule

end TrialRouting
