import TrialRouting.Proofs.Breaker.Textbook
import TrialRouting.Proofs.Attempt.Teardown

/-!
# Breakers that behave like the textbook

A breaker keeps its state, its count of failures, its opening and its probe in four places, and
the operations change them one by one. As long as every attempt settles before the next one
arrives, it behaves like the automaton all the same.

`Stand.Describes` says at which stand of the automaton a breaker is, and `Stand.Hosts` the same
while an attempt is inside; an arrival leads from the one to the other and a settlement back.
Carried along the visits to a key, this makes the two logs equal.
-/

namespace TrialRouting

/-! ### One breaker -/

/-- A breaker after an admitted attempt has settled. -/
def Breaker.settle (b : Breaker) (a : Admission) (now : Nat) (threshold : UInt32) :
    Settlement → Breaker
  | .succeeded => b.succeed a
  | .failed => (b.fail a now threshold).1
  | .ignored => b.ignore a

/-- What settling an attempt on a key does to the breaker of the key. The time is read off the
breaker's clock, and the threshold is the decorator's. -/
theorem Circuits.breaker_settle (c : Circuits) (key : String) (a : Admission) (now : Nat)
    (how : Settlement) : (c.settle key a now how).breaker key =
      (c.breaker key).settle a (c.clock now) c.config.threshold how := by
  cases how with
  | succeeded => exact c.breaker_put_self key _
  | failed => exact c.breaker_put_self key _
  | ignored => exact c.breaker_put_self key _

namespace Stand

/-- The stand of a breaker with a threshold while no attempt is inside. The breaker has noted
its opening by a clock. -/
inductive Describes (threshold : UInt32) (clock : Nat → Nat) : Stand → Breaker → Prop where
  | closed {b : Breaker} {failures : Nat} (state : b.state = .closed) (free : b.probing = false)
      (count : b.failures.toNat = failures) (below : failures < max 1 threshold.toNat) :
      Describes threshold clock (.closed failures) b
  | opened {b : Breaker} {since : Nat} (state : b.state = .opened) (free : b.probing = false)
      (counted : b.openedAt = clock since) : Describes threshold clock (.opened since) b
  | halfOpen {b : Breaker} (state : b.state = .halfOpen) (free : b.probing = false) :
      Describes threshold clock .halfOpen b

/-- The stand of a breaker while an attempt is inside that it has let through. -/
inductive Hosts (threshold : UInt32) : Stand → Breaker → Admission → Prop where
  | normal {b : Breaker} {failures : Nat} (state : b.state = .closed) (free : b.probing = false)
      (count : b.failures.toNat = failures) (below : failures < max 1 threshold.toNat) :
      Hosts threshold (.closed failures) b .normal
  | probe {b : Breaker} (state : b.state = .halfOpen) : Hosts threshold .halfOpen b .probe

variable {threshold : UInt32} {clock : Nat → Nat} {stand : Stand} {b : Breaker} {a : Admission}

/-- The stand shows the breaker's state. -/
theorem Describes.state_eq (describes : stand.Describes threshold clock b) :
    b.state = stand.state := by
  cases describes with
  | closed state => exact state
  | opened state => exact state
  | halfOpen state => exact state

theorem Hosts.state_eq (hosts : stand.Hosts threshold b a) : b.state = stand.state := by
  cases hosts with
  | normal state => exact state
  | probe state => exact state

/-- A probe is let through while no other is running. -/
theorem hosts_probe (threshold : UInt32) (state : b.state = .halfOpen) (free : b.probing = false) :
    b.probe.2 = some .probe ∧ Stand.halfOpen.Hosts threshold b.probe.1 .probe := by
  simp only [Breaker.probe, free, Bool.false_eq_true, if_false]
  exact ⟨trivial, .probe state⟩

/-- An arrival finds the breaker and the automaton of one mind, and leaves them so. Nobody is
inside, so that the place of the probe is free and the breaker has no more reasons to reject than
the automaton. -/
theorem Describes.arrive (describes : stand.Describes threshold clock b) (book : Textbook)
    (now : Nat) (counts : ∀ since, book.elapsed since now = clock now - clock since) :
    (b.arrive (clock now) book.reset).2 = (book.arrive now stand).2 ∧
      (∀ a, (book.arrive now stand).2 = some a →
        (book.arrive now stand).1.Hosts threshold (b.arrive (clock now) book.reset).1 a) ∧
      ((book.arrive now stand).2 = none →
        (book.arrive now stand).1.Describes threshold clock
          (b.arrive (clock now) book.reset).1) := by
  cases describes with
  | closed state free count below =>
    simp only [Breaker.arrive, state, Textbook.arrive]
    refine ⟨trivial, ?_, by simp⟩
    rintro _ ⟨⟩
    exact .normal state free count below
  | @opened _ since state free counted =>
    simp only [Breaker.arrive, state, Textbook.arrive, counts since, ← counted]
    split
    · next early => exact ⟨rfl, by simp, fun _ => .opened state free counted⟩
    · next due =>
      obtain ⟨admitted, hosts⟩ :=
        hosts_probe threshold (b := { b with state := .halfOpen }) rfl free
      refine ⟨admitted, ?_, by simp⟩
      rintro _ ⟨⟩
      exact hosts
  | halfOpen state free =>
    simp only [Breaker.arrive, state, Textbook.arrive]
    obtain ⟨admitted, hosts⟩ := hosts_probe threshold state free
    refine ⟨admitted, ?_, by simp⟩
    rintro _ ⟨⟩
    exact hosts

/-- One failure more than a closed circuit has borne does not wrap its count around: the count is
below a threshold of 32 bits. -/
theorem toNat_succ_of_below {failures : Nat} (count : b.failures.toNat = failures)
    (below : failures < max 1 threshold.toNat) : (b.failures + 1).toNat = failures + 1 := by
  have bound := threshold.toNat_lt
  have one : (1 : UInt32).toNat = 1 := rfl
  rw [UInt32.toNat_add, count, one]
  omega

/-- A settlement leads the breaker to where it leads the automaton. Each way of settling is compared
for an ordinary attempt and for a probe. -/
theorem Hosts.settle (hosts : stand.Hosts threshold b a) (book : Textbook)
    (same : book.threshold = threshold.toNat) (now : Nat) (how : Settlement) :
    (book.settle now stand how).Describes threshold clock
      (b.settle a (clock now) threshold how) := by
  have room : 0 < max 1 threshold.toNat := by omega
  cases hosts with
  | probe state =>
    cases how with
    | succeeded => exact .closed rfl rfl rfl room
    | failed => exact .opened rfl rfl rfl
    | ignored => exact .halfOpen state rfl
  | @normal _ failures state free count below =>
    cases how with
    | succeeded => exact .closed rfl free rfl room
    | ignored => exact .closed state free count below
    | failed =>
      have more : (b.failures + 1).toNat = failures + 1 := toNat_succ_of_below count below
      have reached : threshold ≤ b.failures + 1 ↔ max 1 book.threshold ≤ failures + 1 := by
        rw [UInt32.le_iff_toNat_le, more, same]
        omega
      simp only [Textbook.settle, Breaker.settle, Breaker.fail, state, and_true]
      by_cases full : threshold ≤ b.failures + 1
      · rw [if_pos full, if_pos (reached.mp full)]
        exact .opened rfl free rfl
      · rw [if_neg full, if_neg (mt reached.mpr full)]
        have short := mt reached.mpr full
        rw [same] at short
        exact .closed rfl free more (Nat.not_le.mp short)

end Stand

/-! ### Visits to one key -/

namespace Traffic

variable {key : String} {t : Traffic} {book : Textbook} {stand : Stand}

/-- Traffic with nobody inside whose circuit is at a stand of the automaton. -/
structure Stands (key : String) (book : Textbook) (stand : Stand) (t : Traffic) : Prop where
  quiet : t.inside = []
  threshold : book.threshold = t.circuits.config.threshold.toNat
  reset : book.reset = t.circuits.resetMillis
  counts : ∀ since now, book.elapsed since now = t.circuits.clock now - t.circuits.clock since
  describes : stand.Describes t.circuits.config.threshold t.circuits.clock (t.circuits.breaker key)

/-- A decorator that has just been made is at the beginning of the automaton that counts as its
clock does, whatever its reset time. -/
theorem stands_made (key : String) (config : BreakerConfig) (origin : Nat) :
    Stands key (.ofConfig config origin) (.closed 0) (fresh config origin) where
  quiet := rfl
  threshold := rfl
  reset := rfl
  counts since now := by
    rw [Circuits.clock_eq, Circuits.clock_eq]
    rfl
  describes := by
    have room : 0 < max 1 config.threshold.toNat := by omega
    exact .closed rfl rfl rfl room

/-- A reset time of whole milliseconds that fits in 64 bits is the automaton's. -/
theorem stands_fresh (key : String) (config : BreakerConfig) (origin reset : Nat)
    (whole : config.reset = .ofMillis reset) (fits : reset < UInt64.size) :
    Stands key (.onClock config.threshold reset origin) (.closed 0) (fresh config origin) := by
  have same : config.reset.millis.toNat = reset :=
    Circuits.resetMillis_eq { config } reset whole fits
  have made := stands_made key config origin
  rwa [Textbook.ofConfig, same] at made

namespace Stands

/-- The circuit shows the state of its stand. The automaton knows more than that: how many have
failed, and since when the circuit is open. -/
theorem state_eq (stands : Stands key book stand t) : t.circuits.state key = stand.state :=
  stands.describes.state_eq

/-- What the arrival of an attempt comes to. It is admitted as the automaton admits it; if it is,
the breaker waits for it to settle, and if not, the breaker is again described by the automaton's
stand. -/
theorem arrive (stands : Stands key book stand t) (now : Nat) :
    t.circuits.admission? key now = (book.arrive now stand).2 ∧
      (∀ a, (book.arrive now stand).2 = some a →
        (book.arrive now stand).1.Hosts t.circuits.config.threshold
          ((t.circuits.arrive key now).breaker key) a) ∧
      ((book.arrive now stand).2 = none →
        (book.arrive now stand).1.Describes t.circuits.config.threshold t.circuits.clock
          ((t.circuits.arrive key now).breaker key)) := by
  have described := stands.describes.arrive book now fun since => stands.counts since now
  rw [stands.reset] at described
  simpa only [Circuits.admission?, Circuits.arrive, Circuits.breaker_put_self] using described

/-- The two still stand together if nothing but the breaker of the key has changed. The clock, the
threshold and the reset time belong to the decorator and stay. -/
theorem moved (stands : Stands key book stand t) {stand' : Stand} {t' : Traffic}
    (quiet : t'.inside = []) (config : t'.circuits.config = t.circuits.config)
    (origin : t'.circuits.origin = t.circuits.origin)
    (describes : stand'.Describes t.circuits.config.threshold t.circuits.clock
      (t'.circuits.breaker key)) : Stands key book stand' t' := by
  have clock : t'.circuits.clock = t.circuits.clock := by
    funext now
    rw [Circuits.clock_eq, Circuits.clock_eq, origin]
  refine ⟨quiet, ?_, ?_, ?_, ?_⟩
  · rw [config]
    exact stands.threshold
  · rw [Circuits.resetMillis, config]
    exact stands.reset
  · rw [clock]
    exact stands.counts
  · rw [config, clock]
    exact describes

/-- A visit takes the circuit where it takes the automaton, and goes alike. It is an arrival and, if
the attempt has been let through, a settlement, with nobody inside before and after. -/
theorem visit (stands : Stands key book stand t) (v : Visit) :
    Stands key book (book.visit stand v) (t.visit key v) ∧
      t.reception key v = book.reception stand v := by
  obtain ⟨decided, hosts, describes⟩ := stands.arrive v.arrival
  have arrived : (t.after key ⟨v.arrival, .arrival⟩).circuits =
      t.circuits.arrive key v.arrival := by
    simp only [after]
    split <;> rfl
  cases admission : (book.arrive v.arrival stand).2 with
  | none =>
    rw [admission] at decided
    have described := describes admission
    have next : book.visit stand v = (book.arrive v.arrival stand).1 := by
      simp only [Textbook.visit, admission]
    have stands' : Stands key book (book.visit stand v) (t.visit key v) := by
      rw [visit_of_rejected stands.quiet v decided, next]
      exact stands.moved stands.quiet rfl rfl described
    have during : (t.circuits.arrive key v.arrival).state key =
        (book.arrive v.arrival stand).1.state := described.state_eq
    refine ⟨stands', ?_⟩
    simp only [reception, Textbook.reception, decided, admission, arrived, during, stands'.state_eq]
  | some a =>
    rw [admission] at decided
    have inside := hosts a admission
    have next : book.visit stand v =
        book.settle v.settled (book.arrive v.arrival stand).1 v.how := by
      simp only [Textbook.visit, admission]
    have stands' : Stands key book (book.visit stand v) (t.visit key v) := by
      rw [visit_of_admitted stands.quiet v decided, next]
      refine stands.moved rfl ?_ ?_ ?_
      · exact config_settle _ _ _ _ _
      · cases v.how <;> rfl
      · rw [Circuits.breaker_settle]
        exact inside.settle book stands.threshold v.settled v.how
    have during : (t.circuits.arrive key v.arrival).state key =
        (book.arrive v.arrival stand).1.state := inside.state_eq
    refine ⟨stands', ?_⟩
    simp only [reception, Textbook.reception, decided, admission, arrived, during, stands'.state_eq]

/-- So do any number of them, by induction on the visits: each begins where the one before it has
left both. -/
theorem visits (stands : Stands key book stand t) (vs : List Visit) :
    Stands key book (book.visits stand vs) (t.visits key vs) ∧
      t.log key vs = book.log stand vs := by
  induction vs generalizing t stand with
  | nil => exact ⟨stands, rfl⟩
  | cons v rest ih =>
    obtain ⟨after, alike⟩ := stands.visit v
    obtain ⟨last, logs⟩ := ih after
    exact ⟨last, congrArg₂ List.cons alike logs⟩

end Stands

end Traffic

/-! ### The decorator -/

namespace Invocation

/-- The circuits of a decorator that are in place are changed. -/
theorem circuitsAt_of_changed {s : State} {slot : Nat} {c : Circuits} (f : Circuits → Circuits)
    (here : s.circuits[slot]? = some c) : (s.updateCircuits slot f).circuitsAt slot = f c := by
  simp [State.circuitsAt, State.updateCircuits, here]

/-- An attempt leaves the circuit with its outcome, and has settled there as the outcome says: every
failure counts but that of a cancelled attempt, which is the circuit's third way of settling. -/
theorem settles_on_leaving (inv : Invocation) (span : Option Trace.Span) {slot : Nat}
    (a : Admission) (o : Outcome) {s : State} {c : Circuits}
    (here : s.circuits[slot]? = some c) :
    (inv.leave span (.circuit slot a) o s).2 = .done o ∧
      (inv.leave span (.circuit slot a) o s).1.circuitsAt slot =
        c.settle inv.context.key a s.now (.ofOutcome o) := by
  obtain ⟨entries, settled⟩ := inv.settleCircuit_eq span slot a o s
  refine ⟨rfl, ?_⟩
  simp only [leave, settled]
  exact circuitsAt_of_changed _ here

/-- An attempt that is taken down in the circuit settles there without an outcome. So the place of a
probe is not lost with a future that is dropped. -/
theorem settles_on_release (key : String) {slot : Nat} (a : Admission) {s : State} {c : Circuits}
    (here : s.circuits[slot]? = some c) :
    ((Frame.circuit slot a).release key s).circuitsAt slot = c.settle key a s.now .ignored := by
  rw [Frame.release_circuit]
  exact circuitsAt_of_changed _ here

end Invocation

namespace Traffic

/-- A key whose attempts do not overlap has a textbook breaker. What one sees of a breaker is the
log of its visits: how each was admitted, and the state of the circuit before and after. -/
structure FollowsTextbook (config : BreakerConfig) (reset origin : Nat) (key : String)
    (vs : List Visit) : Prop where
  /-- The visits have gone as with the automaton that reads the breaker's clock, -/
  log : (fresh config origin).log key vs =
    (Textbook.onClock config.threshold reset origin).log (.closed 0) vs
  /-- and, if that clock had not wrapped around, as in the textbook. -/
  onTime : (∀ v ∈ vs, v.arrival < origin + UInt64.size) →
    (fresh config origin).log key vs = (Textbook.onTime config.threshold reset).log (.closed 0) vs
  /-- A visit has opened the circuit exactly if the attempt was let through and has failed, and,
  where the circuit was closed, if it was the failure in a row that the threshold waits for. -/
  opens : ∀ before v rest, vs = before ++ v :: rest →
    ((((fresh config origin).visits key before).reception key v).Opens ↔
      (((fresh config origin).visits key before).reception key v).admission.isSome = true ∧
        v.how = .failed ∧
        ((((fresh config origin).visits key before).reception key v).during = .closed →
          failuresInARow (outcomes ((fresh config origin).log key before) before ++ [.failed]) =
            max 1 config.threshold.toNat))
  /-- The circuit shows the state of the automaton. -/
  state : ((fresh config origin).visits key vs).circuits.state key =
    ((Textbook.onClock config.threshold reset origin).visits (.closed 0) vs).state
  /-- An attempt that comes to the decorator next is rejected if the automaton does not let it
  through, -/
  rejects : ∀ (inv : Invocation) span slot rest token (s : State), inv.context.key = key →
    s.circuitsAt slot = ((fresh config origin).visits key vs).circuits →
    ((Textbook.onClock config.threshold reset origin).arrive s.now
      ((Textbook.onClock config.threshold reset origin).visits (.closed 0) vs)).2 = none →
    (inv.enter span (.circuitBreaker slot :: rest) token s).2 =
      .done (.error (.routing (.circuitOpen inv.context.service inv.context.key)))
  /-- and otherwise the rest of the chain runs inside the circuit. -/
  admits : ∀ (inv : Invocation) span slot rest token (s : State) a, inv.context.key = key →
    s.circuitsAt slot = ((fresh config origin).visits key vs).circuits →
    ((Textbook.onClock config.threshold reset origin).arrive s.now
      ((Textbook.onClock config.threshold reset origin).visits (.closed 0) vs)).2 = some a →
    inv.enter span (.circuitBreaker slot :: rest) token s =
      inv.around span (.circuit slot a)
        (inv.enter span rest token (s.updateCircuits slot (·.arrive inv.context.key s.now)))
  /-- It settles there when it leaves with an outcome, -/
  settles : ∀ (inv : Invocation) span slot a o (s : State) c, inv.context.key = key →
    s.circuits[slot]? = some c → (inv.leave span (.circuit slot a) o s).2 = .done o ∧
      (inv.leave span (.circuit slot a) o s).1.circuitsAt slot =
        c.settle key a s.now (.ofOutcome o)
  /-- and as one without an outcome when it is taken down. -/
  ignores : ∀ slot a (s : State) c, s.circuits[slot]? = some c →
    ((Frame.circuit slot a).release key s).circuitsAt slot = c.settle key a s.now .ignored

/-- Whatever the threshold and the reset time, and whatever time passes in between, a key whose
attempts settle one before the other sees the textbook breaker. While the breaker's clock has not
wrapped around this is the automaton of the books, with an open circuit that rejects for the reset
time and then lets one probe through; on the breaker's own clock it is so at all times.

Proof: between two visits nobody is inside, so that a breaker has nothing to remember but its stand.
A new one stands where the automaton begins, and a visit takes both to the same stand and into the
same reception; induction on the visits gives the log. As long as the clock has not wrapped around,
it measures the time that has passed, and the two automata go alike. When a visit opens the circuit
can be read off the stand it came to, whose count is that of the failures in a row. -/
theorem follows_textbook (config : BreakerConfig) (reset : Nat)
    (whole : config.reset = .ofMillis reset) (fits : reset < UInt64.size) (origin : Nat)
    (key : String) (vs : List Visit) (orderly : Orderly origin vs) :
    FollowsTextbook config reset origin key vs := by
  have fresh := stands_fresh key config origin reset whole fits
  obtain ⟨stands, logs⟩ := fresh.visits vs
  refine ⟨logs, ?_, ?_, stands.state_eq, ?_, ?_, ?_, ?_⟩
  · intro within
    have never : Textbook.OpenedBetween origin origin (.closed 0) := by
      intro since impossible
      cases impossible
    rw [logs]
    exact Textbook.log_onClock orderly (Nat.le_refl _) never within
  · rintro before v rest -
    obtain ⟨there, first⟩ := fresh.visits before
    have none' : (Textbook.onClock config.threshold reset origin).Counts (.closed 0) [] := by
      intro failures closed
      obtain rfl := Stand.closed.inj closed
      exact ⟨rfl, by omega⟩
    have counts := Textbook.counts_visits none' before
    rw [(there.visit v).2, first]
    exact Textbook.opens_iff counts v
  · intro inv span slot rest token s same circuits rejected
    have decided := (stands.arrive s.now).1.trans rejected
    rw [← circuits, ← same] at decided
    rw [inv.enter_of_rejected span slot rest token s decided]
  · intro inv span slot rest token s a same circuits admitted
    have decided := (stands.arrive s.now).1.trans admitted
    rw [← circuits, ← same] at decided
    exact inv.enter_of_admitted span slot rest token s a decided
  · rintro inv span slot a o s c rfl here
    exact inv.settles_on_leaving span a o here
  · exact fun slot a s c here => Invocation.settles_on_release key a here

/-- A failure, a rejected attempt, a probe that is cancelled, one that fails, and one that
succeeds. -/
def busyMorning : List Visit :=
  [⟨0, 5, .failed⟩, ⟨1004, 1004, .succeeded⟩, ⟨1005, 1010, .ignored⟩, ⟨1011, 1012, .failed⟩,
    ⟨2011, 2011, .succeeded⟩, ⟨2012, 2020, .succeeded⟩]

/-- The breaker goes through all stands of the textbook. -/
theorem busy_morning_follows_textbook :
    oneStrike.reset = .ofMillis 1000 ∧ 1000 < UInt64.size ∧ Orderly 0 busyMorning ∧
      FollowsTextbook oneStrike 1000 0 "a" busyMorning ∧
      (fresh oneStrike 0).log "a" busyMorning =
        [⟨some .normal, .closed, .opened⟩, ⟨none, .opened, .opened⟩,
          ⟨some .probe, .halfOpen, .halfOpen⟩, ⟨some .probe, .halfOpen, .opened⟩,
          ⟨none, .opened, .opened⟩, ⟨some .probe, .halfOpen, .closed⟩] := by
  have orderly : Orderly 0 busyMorning := by simp [busyMorning, Orderly]
  have follows : FollowsTextbook oneStrike 1000 0 "a" busyMorning :=
    follows_textbook oneStrike 1000 rfl (by decide) 0 "a" busyMorning orderly
  refine ⟨rfl, by decide, orderly, follows, ?_⟩
  rw [follows.log]
  decide

/-- When the breaker's clock has just wrapped around, it rejects an attempt that the textbook lets
through as a probe. The circuit opened at zero and the clock reads zero again, so that by its own
account no time has passed. -/
theorem wrapped_clock_leaves_textbook :
    oneStrike.reset = .ofMillis 1000 ∧ 1000 < UInt64.size ∧
      Orderly 0 [⟨0, 0, .failed⟩, ⟨UInt64.size, UInt64.size, .succeeded⟩] ∧
      (fresh oneStrike 0).log "a" [⟨0, 0, .failed⟩, ⟨UInt64.size, UInt64.size, .succeeded⟩] =
        [⟨some .normal, .closed, .opened⟩, ⟨none, .opened, .opened⟩] ∧
      (Textbook.onTime oneStrike.threshold 1000).log (.closed 0)
          [⟨0, 0, .failed⟩, ⟨UInt64.size, UInt64.size, .succeeded⟩] ≠
        (fresh oneStrike 0).log "a" [⟨0, 0, .failed⟩, ⟨UInt64.size, UInt64.size, .succeeded⟩] := by
  refine ⟨rfl, by decide, by simp [Orderly], by decide, by decide⟩

end Traffic

end TrialRouting
