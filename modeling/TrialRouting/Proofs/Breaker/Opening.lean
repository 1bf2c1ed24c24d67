import TrialRouting.Proofs.Breaker.Traffic

/-!
# What follows the opening of a circuit

Once a circuit has opened, it rejects every attempt until its reset time has passed,
and a probe that is admitted after that closes it by succeeding. All of this holds as
long as no attempt that was admitted before the opening succeeds after it: such a late
success closes the circuit at once, whatever its reset time.

The invariant is carried through every history without a success, however attempts
overlap in it. A failing probe only opens the circuit anew, and a late failure of an
ordinary attempt is counted without moving anything.
-/

namespace TrialRouting.Traffic

/-- A success is the settlement of an attempt that is inside. -/
theorem settles_of_success {t : Traffic} {e : CircuitEvent} {p : Passage}
    (succeeds : t.success? e = some p) :
    ∃ number, e.happening = .settlement number .succeeded ∧ t.passage? number = some p := by
  unfold success? at succeeds
  split at succeeds
  · next number happens => exact ⟨number, happens, succeeds⟩
  · exact absurd succeeds (by simp)

/-- A success closes the circuit at once, whatever its state and whoever succeeds. This is what a
late success does to a circuit that has opened since that attempt was admitted. -/
theorem closed_of_success (key : String) {t : Traffic} {e : CircuitEvent} {p : Passage}
    (succeeds : t.success? e = some p) :
    (t.after key e).circuits.state key = .closed := by
  obtain ⟨number, happens, found⟩ := settles_of_success succeeds
  have closed := t.circuits.state_succeed key p.admission
  simp [after, happens, found, Circuits.settle, Circuits.state, closed]

/-- A closed circuit rejects nobody. -/
theorem not_rejects_of_closed {key : String} {t : Traffic} (closed : t.circuits.state key = .closed)
    (now : Nat) : ¬ t.Rejects key now := by
  have isClosed : (t.circuits.breaker key).state = .closed := closed
  simp [Rejects, Circuits.admission?, Breaker.arrive, isClosed]

/-- No success has been seen since a circuit opened at an instant, when `before` attempts
had been admitted: it is open, from then or a later instant on, or a probe is due. Who
is inside was admitted before the opening or is a probe. -/
structure Shut (key : String) (opened reset before : Nat) (t : Traffic) : Prop where
  since : opened ≤ t.now
  config : t.circuits.config.reset = .ofMillis reset
  admitted : before ≤ t.admitted
  state : ((t.circuits.breaker key).state = .opened ∧
      ∃ again, opened ≤ again ∧ again ≤ t.now ∧
        (t.circuits.breaker key).openedAt = t.circuits.clock again) ∨
    ((t.circuits.breaker key).state = .halfOpen ∧ opened + reset ≤ t.now)
  inside : ∀ p ∈ t.inside, p.number < before ∨
    (before ≤ p.number ∧ p.admission = .probe ∧ opened + reset ≤ p.since ∧ p.since ≤ t.now)

namespace Shut

variable {key : String} {opened reset before : Nat} {t : Traffic}

/-- A shut circuit is not closed. -/
theorem not_closed (shut : Shut key opened reset before t) :
    t.circuits.state key ≠ .closed := by
  rcases shut.state with ⟨isOpen, -⟩ | ⟨isHalfOpen, -⟩
  · simp [Circuits.state, isOpen]
  · simp [Circuits.state, isHalfOpen]

/-- Within the reset time a shut circuit is open, and an arrival leaves its breaker as it is: the
clock has not moved on far enough for a probe, even if it has wrapped around in between. -/
theorem arrive_early (shut : Shut key opened reset before t) (fits : reset < UInt64.size)
    (now : Nat) (onwards : t.now ≤ now) (early : now < opened + reset) :
    (t.circuits.breaker key).arrive (t.circuits.clock now) t.circuits.resetMillis =
      (t.circuits.breaker key, none) := by
  rcases shut.state with ⟨isOpen, again, later, known, count⟩ | ⟨-, due⟩
  · have compared : t.circuits.clock now - (t.circuits.breaker key).openedAt
        < t.circuits.resetMillis := by
      rw [count, t.circuits.resetMillis_eq reset shut.config fits]
      exact t.circuits.clock_sub_lt again now reset (Nat.le_trans known onwards) (by omega) fits
    simp [Breaker.arrive, isOpen, compared]
  · omega

/-- Within the reset time a shut circuit rejects every attempt. -/
theorem rejects (shut : Shut key opened reset before t) (fits : reset < UInt64.size) (now : Nat)
    (onwards : t.now ≤ now) (early : now < opened + reset) : t.Rejects key now := by
  simp [Rejects, Circuits.admission?, shut.arrive_early fits now onwards early]

/-- A circuit stays shut through an event that leaves its breaker open or half-open, the
latter after the reset time only, and lets none but probes in after that time. -/
theorem moved (shut : Shut key opened reset before t) {next : Traffic} {b : Breaker}
    (circuits : next.circuits = t.circuits.put key b) (onwards : t.now ≤ next.now)
    (more : t.admitted ≤ next.admitted)
    (state : (b.state = .opened ∧ ∃ again, opened ≤ again ∧ again ≤ next.now ∧
        b.openedAt = t.circuits.clock again) ∨
      (b.state = .halfOpen ∧ opened + reset ≤ next.now))
    (inside : ∀ p ∈ next.inside, p ∈ t.inside ∨ (before ≤ p.number ∧ p.admission = .probe ∧
      opened + reset ≤ p.since ∧ p.since ≤ next.now)) :
    Shut key opened reset before next where
  since := Nat.le_trans shut.since onwards
  config := by simpa [circuits] using shut.config
  admitted := Nat.le_trans shut.admitted more
  state := by simpa [circuits, Circuits.clock] using state
  inside := by
    intro p member
    rcases inside p member with known | probe
    · rcases shut.inside p known with late | ⟨new, probe, due, past⟩
      · exact .inl late
      · exact .inr ⟨new, probe, due, Nat.le_trans past onwards⟩
    · exact .inr probe

/-- A breaker that has the state it had is still open, or still half-open. The instant of its latest
opening is as far back as it was, and more time has passed. -/
theorem state_later (shut : Shut key opened reset before t) {b : Breaker} {now : Nat}
    (sameState : b.state = (t.circuits.breaker key).state)
    (sameStart : b.openedAt = (t.circuits.breaker key).openedAt) (onwards : t.now ≤ now) :
    (b.state = .opened ∧ ∃ again, opened ≤ again ∧ again ≤ now ∧
        b.openedAt = t.circuits.clock again) ∨
      (b.state = .halfOpen ∧ opened + reset ≤ now) := by
  rw [sameState, sameStart]
  rcases shut.state with ⟨isOpen, again, later, known, count⟩ | ⟨isHalfOpen, due⟩
  · exact .inl ⟨isOpen, again, later, Nat.le_trans known onwards, count⟩
  · exact .inr ⟨isHalfOpen, Nat.le_trans due onwards⟩

/-- After the reset time an arrival at a shut circuit leaves it open or half-open, and is admitted,
if at all, as a probe. By its own clock the breaker may still keep the attempt out. -/
theorem arrive_due (shut : Shut key opened reset before t) (now : Nat) (onwards : t.now ≤ now)
    (due : opened + reset ≤ now) (clock limit : Nat) :
    let arrived := (t.circuits.breaker key).arrive clock limit
    ((arrived.1.state = .opened ∧ ∃ again, opened ≤ again ∧ again ≤ now ∧
        arrived.1.openedAt = t.circuits.clock again) ∨
      (arrived.1.state = .halfOpen ∧ opened + reset ≤ now)) ∧
      (arrived.2 = none ∨ arrived.2 = some .probe) := by
  have kept := shut.state_later (b := t.circuits.breaker key) rfl rfl onwards
  have probing (b : Breaker) (isHalfOpen : b.state = .halfOpen) :
      b.probe.1.state = .halfOpen ∧ (b.probe.2 = none ∨ b.probe.2 = some .probe) := by
    unfold Breaker.probe
    split <;> simp [isHalfOpen]
  simp only [Breaker.arrive]
  rcases shut.state with ⟨isOpen, -⟩ | ⟨isHalfOpen, -⟩
  · simp only [isOpen]
    split
    · exact ⟨kept, .inl rfl⟩
    · obtain ⟨state, admission⟩ :=
        probing { t.circuits.breaker key with state := .halfOpen } rfl
      exact ⟨.inr ⟨state, due⟩, admission⟩
  · simp only [isHalfOpen]
    obtain ⟨state, admission⟩ := probing (t.circuits.breaker key) isHalfOpen
    exact ⟨.inr ⟨state, due⟩, admission⟩

/-- An arrival leaves a shut circuit shut. -/
theorem arrival (shut : Shut key opened reset before t) (fits : reset < UInt64.size)
    {e : CircuitEvent} (arrives : e.happening = .arrival) (onwards : t.now ≤ e.instant) :
    Shut key opened reset before (t.after key e) := by
  by_cases early : e.instant < opened + reset
  · have stays := shut.arrive_early fits e.instant onwards early
    have next : t.after key e =
        { t with circuits := t.circuits.put key (t.circuits.breaker key), now := e.instant } := by
      simp [after, arrives, Circuits.admission?, Circuits.arrive, stays]
    rw [next]
    exact shut.moved rfl onwards (Nat.le_refl _) (shut.state_later rfl rfl onwards)
      (fun p member => .inl member)
  · have due : opened + reset ≤ e.instant := Nat.le_of_not_lt early
    obtain ⟨state, admission⟩ :=
      shut.arrive_due e.instant onwards due (t.circuits.clock e.instant) t.circuits.resetMillis
    have asked : t.circuits.admission? key e.instant =
        ((t.circuits.breaker key).arrive (t.circuits.clock e.instant)
          t.circuits.resetMillis).2 := rfl
    rcases admission with rejected | probe
    · have next : t.after key e =
          { t with circuits := t.circuits.arrive key e.instant, now := e.instant } := by
        simp [after, arrives, asked, rejected]
      rw [next]
      exact shut.moved rfl onwards (Nat.le_refl _) state (fun p member => .inl member)
    · have next : t.after key e =
          { circuits := t.circuits.arrive key e.instant
            inside := t.inside ++ [⟨t.admitted, .probe, e.instant⟩]
            admitted := t.admitted + 1
            now := e.instant } := by
        simp [after, arrives, asked, probe]
      rw [next]
      refine shut.moved rfl onwards (Nat.le_succ _) state ?_
      intro p member
      rcases List.mem_append.mp member with known | new
      · exact .inl known
      · rw [List.mem_singleton.mp new]
        exact .inr ⟨shut.admitted, rfl, due, Nat.le_refl _⟩

/-- A settlement other than a success leaves a shut circuit shut: the failure of a probe opens it
anew, that of an ordinary attempt is only counted, and an ignored attempt gives back the place of
the probe if it was one. None of them closes it, and nobody new gets inside. -/
theorem settlement (shut : Shut key opened reset before t) {e : CircuitEvent} {number : Nat}
    {how : Settlement} (settles : e.happening = .settlement number how)
    (unsuccessful : t.success? e = none) (onwards : t.now ≤ e.instant) :
    Shut key opened reset before (t.after key e) := by
  cases found : t.passage? number with
  | none =>
    have next : t.after key e = { t with now := e.instant } := by
      simp [after, settles, found]
    rw [next]
    exact { shut with
      since := Nat.le_trans shut.since onwards
      state := shut.state_later rfl rfl onwards
      inside := by
        intro p member
        rcases shut.inside p member with late | ⟨new, probe, due, past⟩
        · exact .inl late
        · exact .inr ⟨new, probe, due, Nat.le_trans past onwards⟩ }
  | some p =>
    have next : t.after key e =
        { t with
          circuits := t.circuits.settle key p.admission e.instant how
          inside := t.inside.filter (·.number != number)
          now := e.instant } := by
      simp [after, settles, found]
    have remaining : ∀ q ∈ t.inside.filter (·.number != number), q ∈ t.inside ∨
        (before ≤ q.number ∧ q.admission = .probe ∧ opened + reset ≤ q.since ∧
          q.since ≤ e.instant) :=
      fun q member => .inl (List.mem_filter.mp member).1
    rw [next]
    cases how with
    | succeeded => simp [success?, settles, found] at unsuccessful
    | ignored =>
      refine shut.moved (b := (t.circuits.breaker key).ignore p.admission) rfl onwards
        (Nat.le_refl _) (shut.state_later ?_ ?_ onwards) remaining
      · cases p.admission <;> rfl
      · cases p.admission <;> rfl
    | failed =>
      refine shut.moved (b := ((t.circuits.breaker key).fail p.admission
        (t.circuits.clock e.instant) t.circuits.config.threshold).1) rfl onwards
        (Nat.le_refl _) ?_ remaining
      cases p.admission with
      | probe =>
        exact .inl ⟨rfl, e.instant, Nat.le_trans shut.since onwards, Nat.le_refl _, rfl⟩
      | normal =>
        have counted : ((t.circuits.breaker key).fail .normal (t.circuits.clock e.instant)
            t.circuits.config.threshold).1 =
            { t.circuits.breaker key with
              failures := (t.circuits.breaker key).failures + 1 } := by
          have notClosed : (t.circuits.breaker key).state ≠ .closed := shut.not_closed
          simp [Breaker.fail, notClosed]
        rw [counted]
        exact shut.state_later rfl rfl onwards

/-- Every event but a success leaves a shut circuit shut. -/
theorem step (shut : Shut key opened reset before t) (fits : reset < UInt64.size) {e : CircuitEvent}
    (unsuccessful : t.success? e = none) (onwards : t.now ≤ e.instant) :
    Shut key opened reset before (t.after key e) := by
  cases happens : e.happening with
  | arrival => exact shut.arrival fits happens onwards
  | settlement number how => exact shut.settlement happens unsuccessful onwards

/-- A circuit stays shut through every history without a success. The induction follows the history,
and every event in it is an arrival or such a settlement. -/
theorem run (shut : Shut key opened reset before t) (fits : reset < UInt64.size)
    {history : List CircuitEvent} (timely : Timely t.now history)
    (unsuccessful : t.successes key history = []) :
    Shut key opened reset before (t.run key history) := by
  induction history generalizing t with
  | nil => exact shut
  | cons e rest ih =>
    obtain ⟨first, others⟩ := List.append_eq_nil_iff.mp unsuccessful
    have next : Shut key opened reset before (t.after key e) :=
      shut.step fits (Option.toList_eq_nil_iff.mp first) timely.1
    exact ih next (by simpa using timely.2) others

/-- The success that ends a shut time is that of an attempt admitted before the opening, or of a
probe admitted after the reset time, since nobody else is inside. -/
theorem success (shut : Shut key opened reset before t) {e : CircuitEvent} {p : Passage}
    (succeeds : t.success? e = some p) :
    p.number < before ∨ (before ≤ p.number ∧ p.admission = .probe ∧
      opened + reset ≤ p.since ∧ p.since ≤ t.now) :=
  let ⟨_, _, found⟩ := settles_of_success succeeds
  shut.inside p (List.mem_of_find?_eq_some found)

end Shut

/-! ### Histories from the making of a decorator -/

/-- Settling an attempt does not change when circuits open. -/
theorem config_settle (c : Circuits) (key : String) (a : Admission) (now : Nat)
    (how : Settlement) : (c.settle key a now how).config = c.config := by
  cases how <;> rfl

/-- No event changes when circuits open. -/
theorem config_after (key : String) (t : Traffic) (e : CircuitEvent) :
    (t.after key e).circuits.config = t.circuits.config := by
  unfold after
  split
  · split <;> rfl
  · split
    · rfl
    · exact config_settle _ _ _ _ _

/-- No history changes when circuits open. -/
theorem config_run (key : String) (t : Traffic) (history : List CircuitEvent) :
    (t.run key history).circuits.config = t.circuits.config := by
  induction history generalizing t with
  | nil => rfl
  | cons e rest ih => rw [run_cons, ih, config_after]

/-- Attempts that are inside have the numbers of attempts that have been admitted. -/
def Numbered (t : Traffic) : Prop :=
  ∀ p ∈ t.inside, p.number < t.admitted

theorem numbered_after (key : String) (t : Traffic) (e : CircuitEvent)
    (numbered : t.Numbered) : (t.after key e).Numbered := by
  unfold after
  split
  · split
    · exact numbered
    · intro p member
      rcases List.mem_append.mp member with known | new
      · exact Nat.lt_succ_of_lt (numbered p known)
      · rw [List.mem_singleton.mp new]
        exact Nat.lt_succ_self _
  · split
    · exact numbered
    · exact fun p member => numbered p (List.mem_filter.mp member).1

theorem numbered_run (key : String) (t : Traffic) (history : List CircuitEvent)
    (numbered : t.Numbered) : (t.run key history).Numbered := by
  induction history generalizing t with
  | nil => exact numbered
  | cons e rest ih => exact ih _ (numbered_after key t e numbered)

/-- A circuit is shut when it has just opened: it is open from that instant on, and whoever is
inside was admitted before. -/
theorem shut_of_opens (key : String) (t : Traffic) (e : CircuitEvent) (reset : Nat)
    (whole : t.circuits.config.reset = .ofMillis reset) (numbered : t.Numbered)
    (opens : t.Opens key e) :
    Shut key e.instant reset (t.after key e).admitted (t.after key e) := by
  obtain ⟨number, p, happens, found, trips⟩ := opens
  have next : t.after key e =
      { t with
        circuits := t.circuits.fail key p.admission e.instant
        inside := t.inside.filter (·.number != number)
        now := e.instant } := by
    simp [after, happens, found, Circuits.settle]
  have tripped : ((t.circuits.breaker key).fail p.admission (t.circuits.clock e.instant)
        t.circuits.config.threshold).1.state = .opened ∧
      ((t.circuits.breaker key).fail p.admission (t.circuits.clock e.instant)
        t.circuits.config.threshold).1.openedAt = t.circuits.clock e.instant := by
    simp only [Circuits.opensOnFailure] at trips
    revert trips
    cases p.admission with
    | probe => exact fun _ => ⟨rfl, rfl⟩
    | normal =>
      simp only [Breaker.fail]
      split
      · exact fun _ => ⟨rfl, rfl⟩
      · exact fun impossible => absurd impossible Bool.false_ne_true
  rw [next]
  exact {
    since := Nat.le_refl _
    config := whole
    admitted := Nat.le_refl _
    state := by
      refine .inl ⟨?_, e.instant, Nat.le_refl _, Nat.le_refl _, ?_⟩
      · simpa [Circuits.fail] using tripped.1
      · simpa [Circuits.fail, Circuits.clock] using tripped.2
    inside := fun q member => .inl (numbered q (List.mem_filter.mp member).1) }

/-- A history with a success has a first one. What comes before it is without a success, and the
circuit is shut for so long. -/
theorem first_success (key : String) (t : Traffic) (history : List CircuitEvent)
    (some' : t.successes key history ≠ []) :
    ∃ quiet e rest p, history = quiet ++ e :: rest ∧ t.successes key quiet = [] ∧
      (t.run key quiet).success? e = some p := by
  induction history generalizing t with
  | nil => exact absurd rfl some'
  | cons e rest ih =>
    cases first : t.success? e with
    | some p => exact ⟨[], e, rest, p, rfl, rfl, first⟩
    | none =>
      have later : (t.after key e).successes key rest ≠ [] := by
        simpa [successes, first] using some'
      obtain ⟨quiet, e', rest', p, split, unsuccessful, succeeds⟩ := ih _ later
      exact ⟨e :: quiet, e', rest', p, by simp [split], by simp [successes, first, unsuccessful],
        succeeds⟩

/-- A timely history ends no earlier than it starts. -/
theorem now_le_run (key : String) (t : Traffic) (history : List CircuitEvent)
    (timely : Timely t.now history) : t.now ≤ (t.run key history).now := by
  induction history generalizing t with
  | nil => exact Nat.le_refl _
  | cons e rest ih =>
    have onwards : (t.after key e).now ≤ ((t.after key e).run key rest).now :=
      ih _ (by simpa using timely.2)
    exact Nat.le_trans (by simpa using timely.1) onwards

/-- An attempt admitted before the traffic `start` succeeds in a history, before an
instant. -/
def SucceedsLate (start : Traffic) (key : String) (history : List CircuitEvent)
    (due : Nat) : Prop :=
  ∃ past e p, past ++ [e] <+: history ∧ e.instant < due ∧
    (start.run key past).success? e = some p ∧ p.number < start.admitted

/-- Before the reset time has passed, a success after the opening can only be a late one. Until the
first success the circuit is shut, and so keeps out everybody who could succeed in time. -/
theorem no_success_before_due {key : String} {start : Traffic} {opened reset : Nat}
    (shut : Shut key opened reset start.admitted start) (fits : reset < UInt64.size)
    {later history : List CircuitEvent} (timely : Timely start.now later)
    (onTime : ¬ start.SucceedsLate key later (opened + reset)) (part : history <+: later)
    (early : (start.run key history).now < opened + reset) :
    start.successes key history = [] := by
  cases succeeded : start.successes key history with
  | nil => rfl
  | cons first others =>
    exfalso
    obtain ⟨quiet, e, rest, p, split, unsuccessful, succeeds⟩ :=
      first_success key start history (by simp [succeeded])
    obtain ⟨remaining, whole⟩ := part
    have inOrder : Timely start.now (quiet ++ e :: (rest ++ remaining)) := by
      rw [← whole, split] at timely
      simpa using timely
    have still : Shut key opened reset start.admitted (start.run key quiet) :=
      shut.run fits inOrder.of_append_left unsuccessful
    have following : Timely (start.run key quiet).now (e :: (rest ++ remaining)) :=
      inOrder.of_append_right
    have before : e.instant ≤ (start.run key history).now := by
      have onwards : ((start.run key quiet).after key e).now ≤
          (((start.run key quiet).after key e).run key rest).now :=
        now_le_run key _ rest (Timely.of_append_left (by simpa using following.2))
      rw [split, run_append]
      simpa using onwards
    rcases still.success succeeds with late | ⟨-, -, due, past⟩
    · refine onTime ⟨quiet, e, p, ?_, by omega, succeeds, late⟩
      exact ⟨rest ++ remaining, by rw [← whole, split]; simp⟩
    · have reached := following.1
      omega

/-- What a circuit does after it has opened, in every history of its key.

Every attempt that arrives before the reset time has passed is rejected, exactly when no attempt
admitted before the opening succeeds in that time. The circuit is closed only by a success; the
first success after the opening closes it at once, and is that of an attempt admitted before the
opening or of a probe admitted after the reset time. A rejected attempt is answered by the decorator
alone, whatever the rest of the chain.

Proof: from the opening up to the first success the circuit is shut, which every other event keeps
it. A shut circuit rejects within the reset time. If the first success is a late one, it closes the
circuit before that time has passed, and the next attempt is admitted. -/
theorem rejects_until_reset_iff_no_late_success (config : BreakerConfig) (reset : Nat)
    (whole : config.reset = .ofMillis reset) (fits : reset < UInt64.size) (origin : Nat)
    (key : String) (earlier later : List CircuitEvent) (opening : CircuitEvent)
    (timely : Timely origin (earlier ++ opening :: later))
    (opens : ((fresh config origin).run key earlier).Opens key opening)
    (start : Traffic) (starts : start = ((fresh config origin).run key earlier).after key opening) :
    ((∀ history, history <+: later → ∀ now, (start.run key history).now ≤ now →
        now < opening.instant + reset → (start.run key history).Rejects key now) ↔
      ¬ start.SucceedsLate key later (opening.instant + reset)) ∧
    (∀ history, history <+: later → start.successes key history = [] →
      (start.run key history).circuits.state key ≠ .closed) ∧
    (∀ history e p, history ++ [e] <+: later → start.successes key history = [] →
      (start.run key history).success? e = some p →
        (start.run key (history ++ [e])).circuits.state key = .closed ∧
          (p.number < start.admitted ∨ (start.admitted ≤ p.number ∧ p.admission = .probe ∧
            opening.instant + reset ≤ p.since))) ∧
    (∀ history (inv : Invocation) span slot (rest : List Decorator) token (s : State),
      inv.context.key = key → s.circuitsAt slot = (start.run key history).circuits →
      (start.run key history).Rejects key s.now →
        inv.enter span (.circuitBreaker slot :: rest) token s =
          ((s.updateCircuits slot (·.arrive key s.now)).emit span
            ⟨.debug, "circuit open, attempt rejected", inv.serviceAndKey⟩,
            .done (.error (.routing (.circuitOpen inv.context.service key))))) := by
  have following : Timely ((fresh config origin).run key earlier).now (opening :: later) :=
    Timely.of_append_right timely
  have opened : start.now = opening.instant := by simp [starts]
  have inOrder : Timely start.now later := by simpa [opened] using following.2
  have shut : Shut key opening.instant reset start.admitted start := by
    rw [starts]
    refine shut_of_opens key _ opening reset ?_ (numbered_run key _ earlier ?_) opens
    · rw [config_run]
      exact whole
    · exact fun p member => absurd member List.not_mem_nil
  have still (history : List CircuitEvent) (part : history <+: later)
      (unsuccessful : start.successes key history = []) :
      Shut key opening.instant reset start.admitted (start.run key history) := by
    obtain ⟨remaining, split⟩ := part
    exact shut.run fits (Timely.of_append_left (split ▸ inOrder)) unsuccessful
  refine ⟨⟨?_, ?_⟩, ?_, ?_, ?_⟩
  · rintro rejecting ⟨past, e, p, part, early, succeeds, -⟩
    have reached : start.run key (past ++ [e]) = (start.run key past).after key e := by
      simp [run_append]
    have rejected : (start.run key (past ++ [e])).Rejects key e.instant :=
      rejecting _ part e.instant (by simp [reached]) early
    rw [reached] at rejected
    exact not_rejects_of_closed (closed_of_success key succeeds) _ rejected
  · intro onTime history part now onwards early
    have unsuccessful : start.successes key history = [] :=
      no_success_before_due shut fits inOrder onTime part (Nat.lt_of_le_of_lt onwards early)
    exact (still history part unsuccessful).rejects fits now onwards early
  · exact fun history part unsuccessful => (still history part unsuccessful).not_closed
  · intro history e p part unsuccessful succeeds
    have before : history <+: later := (List.prefix_append history [e]).trans part
    have closed := closed_of_success key succeeds
    refine ⟨by simpa [run_append] using closed, ?_⟩
    rcases (still history before unsuccessful).success succeeds with late | ⟨new, probe, due, -⟩
    · exact .inl late
    · exact .inr ⟨new, probe, due⟩
  · intro history inv span slot rest token s own circuits rejected
    subst own
    exact inv.enter_of_rejected span slot rest token s (by rw [circuits]; exact rejected)

/-- A circuit that opens at its first failure, and for a second. -/
def oneStrike : BreakerConfig := { threshold := 1, reset := .ofMillis 1000 }

/-- Two attempts are inside; the second one fails at once. -/
def twoInside : List CircuitEvent := [⟨0, .arrival⟩, ⟨0, .arrival⟩]

/-- The failure of the second of two attempts. -/
def secondFails : CircuitEvent := ⟨0, .settlement 1 .failed⟩

/-- The late failure of an attempt that was inside when the circuit opened, an arrival within
the reset time, and the success of a probe after it. -/
theorem one_strike_rejects_for_a_second :
    Timely 0 (twoInside ++ secondFails ::
        [⟨10, .settlement 0 .failed⟩, ⟨999, .arrival⟩, ⟨1000, .arrival⟩,
          ⟨1005, .settlement 2 .succeeded⟩]) ∧
      ((fresh oneStrike 0).run "a" twoInside).Opens "a" secondFails ∧
      ∀ history e p, history ++ [e] <+: [⟨10, .settlement 0 .failed⟩, ⟨999, .arrival⟩,
          ⟨1000, .arrival⟩, ⟨1005, .settlement 2 .succeeded⟩] →
        (((fresh oneStrike 0).run "a" twoInside).after "a" secondFails).successes "a" history
          = [] →
        ((((fresh oneStrike 0).run "a" twoInside).after "a" secondFails).run "a"
          history).success? e = some p →
          ((((fresh oneStrike 0).run "a" twoInside).after "a" secondFails).run "a"
            (history ++ [e])).circuits.state "a" = .closed ∧
            (p.number < 2 ∨ (2 ≤ p.number ∧ p.admission = .probe ∧ 1000 ≤ p.since)) := by
  have timely : Timely 0 (twoInside ++ secondFails ::
      [⟨10, .settlement 0 .failed⟩, ⟨999, .arrival⟩, ⟨1000, .arrival⟩,
        ⟨1005, .settlement 2 .succeeded⟩]) := by
    simp [twoInside, secondFails, Timely]
  have opens : ((fresh oneStrike 0).run "a" twoInside).Opens "a" secondFails :=
    ⟨1, ⟨1, .normal, 0⟩, rfl, by decide, by decide⟩
  exact ⟨timely, opens, (rejects_until_reset_iff_no_late_success oneStrike 1000 rfl (by decide)
    0 "a" twoInside _ secondFails timely opens _ rfl).2.2.1⟩

/-- When the first attempt succeeds ten milliseconds after the second one has opened the
circuit, the circuit is closed, and the next attempt is admitted long before the reset
time has passed. -/
theorem late_success_closes_open_circuit :
    ((fresh oneStrike 0).run "a" twoInside).Opens "a" secondFails ∧
      (((fresh oneStrike 0).run "a" twoInside).after "a" secondFails).Rejects "a" 10 ∧
      (((fresh oneStrike 0).run "a" twoInside).after "a" secondFails).SucceedsLate "a"
        [⟨10, .settlement 0 .succeeded⟩] 1000 ∧
      ((((fresh oneStrike 0).run "a" twoInside).after "a" secondFails).run "a"
        [⟨10, .settlement 0 .succeeded⟩]).circuits.state "a" = .closed ∧
      ¬ ((((fresh oneStrike 0).run "a" twoInside).after "a" secondFails).run "a"
        [⟨10, .settlement 0 .succeeded⟩]).Rejects "a" 20 := by
  refine ⟨⟨1, ⟨1, .normal, 0⟩, rfl, by decide, by decide⟩, by decide, ?_, by decide, by decide⟩
  exact ⟨[], ⟨10, .settlement 0 .succeeded⟩, ⟨0, .normal, 0⟩, by decide, by decide, by decide,
    by decide⟩

end TrialRouting.Traffic
