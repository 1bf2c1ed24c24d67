import TrialRouting.Proofs.Breaker.Visits

/-!
# The textbook breaker

A textbook draws a circuit breaker as an automaton of three states: closed, with the failures
in a row so far; open, with the time of its opening; and half-open. It says nothing of attempts
that overlap.

A breaker whose clock counts milliseconds in 64 bits cannot count time for ever, so the
automaton is told how time is counted. On such a clock it is the textbook's own for the first
2^64 milliseconds, and whatever the clock, a closed circuit is opened by nothing but the
failure in a row that its threshold waits for.
-/

namespace TrialRouting

/-- A stand of the textbook breaker. -/
inductive Stand where
  /-- Closed, after so many failures in a row. -/
  | closed (failures : Nat)
  | opened (since : Nat)
  | halfOpen
  deriving DecidableEq, Repr

/-- The state that a stand shows. -/
def Stand.state : Stand → CircuitState
  | closed _ => .closed
  | opened _ => .opened
  | halfOpen => .halfOpen

/-- The rules of a textbook breaker. -/
structure Textbook where
  threshold : Nat
  reset : Nat
  /-- How much time it counts from one instant to another. -/
  elapsed : Nat → Nat → Nat

namespace Textbook

/-- The textbook breaker as it is in the textbook: it counts the time that passes. -/
def onTime (threshold : UInt32) (reset : Nat) : Textbook :=
  { threshold := threshold.toNat, reset, elapsed := fun since now => now - since }

/-- The textbook breaker with a clock that counts the milliseconds from an origin in 64 bits. -/
def onClock (threshold : UInt32) (reset origin : Nat) : Textbook where
  threshold := threshold.toNat
  reset := reset
  elapsed since now := (now - origin) % UInt64.size - (since - origin) % UInt64.size

/-- The textbook breaker that counts as a breaker does which is made at an origin: its reset time
is cut to whole milliseconds and to 64 bits. -/
def ofConfig (config : BreakerConfig) (origin : Nat) : Textbook :=
  onClock config.threshold config.reset.millis.toNat origin

/-- An attempt arrives: the stand it meets, and as what it is let through, if it is. -/
def arrive (book : Textbook) (now : Nat) : Stand → Stand × Option Admission
  | .closed failures => (.closed failures, some .normal)
  | .opened since =>
      if book.elapsed since now < book.reset then (.opened since, none)
      else (.halfOpen, some .probe)
  | .halfOpen => (.halfOpen, some .probe)

/-- An attempt that was let through settles. -/
def settle (book : Textbook) (now : Nat) : Stand → Settlement → Stand
  | .closed _, .succeeded => .closed 0
  | .closed failures, .failed =>
      if max 1 book.threshold ≤ failures + 1 then .opened now else .closed (failures + 1)
  | .closed failures, .ignored => .closed failures
  | .opened since, _ => .opened since
  | .halfOpen, .succeeded => .closed 0
  | .halfOpen, .failed => .opened now
  | .halfOpen, .ignored => .halfOpen

/-- The stand after a visit. -/
def visit (book : Textbook) (stand : Stand) (v : Visit) : Stand :=
  let met := book.arrive v.arrival stand
  match met.2 with
  | none => met.1
  | some _ => book.settle v.settled met.1 v.how

/-- The stand after some visits. -/
def visits (book : Textbook) (stand : Stand) (vs : List Visit) : Stand :=
  vs.foldl book.visit stand

/-- How a visit goes. -/
def reception (book : Textbook) (stand : Stand) (v : Visit) : Reception where
  admission := (book.arrive v.arrival stand).2
  during := (book.arrive v.arrival stand).1.state
  afterwards := (book.visit stand v).state

/-- How some visits go. -/
def log (book : Textbook) : Stand → List Visit → List Reception
  | _, [] => []
  | stand, v :: rest => book.reception stand v :: log book (book.visit stand v) rest

/-! ### The clock and the time -/

variable {threshold : UInt32} {reset origin : Nat} {stand : Stand}

/-- The clock of a breaker counts the time between two instants, as long as it has not wrapped
around. Both readings are the milliseconds since the origin then. -/
theorem elapsed_onClock {since now : Nat} (started : origin ≤ since) (later : since ≤ now)
    (within : now < origin + UInt64.size) :
    (onClock threshold reset origin).elapsed since now = now - since := by
  have nowCounted : (now - origin) % UInt64.size = now - origin := Nat.mod_eq_of_lt (by omega)
  have sinceCounted : (since - origin) % UInt64.size = since - origin :=
    Nat.mod_eq_of_lt (by omega)
  simp only [onClock, nowCounted, sinceCounted]
  omega

/-- Where a stand is open, it has been so since an instant between two others. -/
def OpenedBetween (origin now : Nat) (stand : Stand) : Prop :=
  ∀ since, stand = .opened since → origin ≤ since ∧ since ≤ now

/-- What arrives is met in the same way by both clocks. Only an open stand looks at the time, and it
has been open since an instant that both clocks have counted. -/
theorem arrive_onClock (threshold : UInt32) (reset : Nat) {now : Nat}
    (past : OpenedBetween origin now stand)
    (within : now < origin + UInt64.size) :
    (onClock threshold reset origin).arrive now stand =
      (onTime threshold reset).arrive now stand := by
  cases stand with
  | closed failures => rfl
  | halfOpen => rfl
  | opened since =>
    obtain ⟨started, later⟩ := past since rfl
    simp only [arrive, elapsed_onClock started later within]
    rfl

/-- An arrival opens nothing. -/
theorem opened_of_arrive {book : Textbook} {now since : Nat}
    (opened : (book.arrive now stand).1 = .opened since) : stand = .opened since := by
  cases stand with
  | closed failures => exact opened
  | halfOpen => exact opened
  | opened before =>
    simp only [arrive] at opened
    split at opened
    · exact opened
    · cases opened

/-- A circuit that is open after a settlement has been so before, or has opened with it. So an
automaton's openings are all in its past. -/
theorem opened_of_settle {book : Textbook} {now since : Nat} {how : Settlement}
    (opened : book.settle now stand how = .opened since) : since = now ∨ stand = .opened since := by
  cases stand with
  | opened before => exact .inr opened
  | halfOpen =>
    cases how with
    | failed => exact .inl (Stand.opened.inj opened).symm
    | succeeded => cases opened
    | ignored => cases opened
  | closed failures =>
    cases how with
    | failed =>
      simp only [settle] at opened
      split at opened
      · exact .inl (Stand.opened.inj opened).symm
      · cases opened
    | succeeded => cases opened
    | ignored => cases opened

/-- A visit does not open a circuit later than it ends. -/
theorem openedBetween_visit {start : Nat} (book : Textbook) {v : Visit}
    (past : OpenedBetween origin start stand) (begun : origin ≤ start)
    (onwards : start ≤ v.arrival) (settles : v.arrival ≤ v.settled) :
    OpenedBetween origin v.settled (book.visit stand v) := by
  have before (since : Nat) (opened : (book.arrive v.arrival stand).1 = .opened since) :
      origin ≤ since ∧ since ≤ v.settled := by
    obtain ⟨started, later⟩ := past since (opened_of_arrive opened)
    exact ⟨started, by omega⟩
  intro since opened
  simp only [visit] at opened
  split at opened
  · exact before since opened
  · rcases opened_of_settle opened with rfl | met
    · exact ⟨by omega, Nat.le_refl _⟩
    · exact before since met

/-- As long as the clock has not wrapped around, the visits go as in the textbook. The induction
follows the visits; each of them is met alike by both clocks, and leaves the automaton open, if at
all, since an instant that has passed. -/
theorem log_onClock {start : Nat} {vs : List Visit} (orderly : Orderly start vs)
    (begun : origin ≤ start) (past : OpenedBetween origin start stand)
    (within : ∀ v ∈ vs, v.arrival < origin + UInt64.size) :
    (onClock threshold reset origin).log stand vs = (onTime threshold reset).log stand vs := by
  induction vs generalizing start stand with
  | nil => rfl
  | cons v rest ih =>
    obtain ⟨onwards, settles, others⟩ := orderly
    have arrives := arrive_onClock threshold reset
      (fun since opened => ⟨(past since opened).1, Nat.le_trans (past since opened).2 onwards⟩)
      (within v List.mem_cons_self)
    have visited : (onClock threshold reset origin).visit stand v =
        (onTime threshold reset).visit stand v := by
      simp only [visit, arrives]
      rfl
    have received : (onClock threshold reset origin).reception stand v =
        (onTime threshold reset).reception stand v := by
      simp only [reception, arrives, visited]
    have next := openedBetween_visit (onTime threshold reset) past begun onwards settles
    have later := ih others (by omega) next fun w member => within w (List.mem_cons_of_mem _ member)
    simp only [log, received, visited, later]

/-! ### When it opens -/

variable {book : Textbook}

/-- A closed circuit counts the failures in a row, and fewer than would open it. -/
def Counts (book : Textbook) (stand : Stand) (ends : List Settlement) : Prop :=
  ∀ failures, stand = .closed failures →
    failures = failuresInARow ends ∧ failures < max 1 book.threshold

/-- The end of a visit, if the attempt was let through. -/
def end? (book : Textbook) (stand : Stand) (v : Visit) : Option Settlement :=
  (book.arrive v.arrival stand).2.map fun _ => v.how

/-- A visit keeps the count. A circuit that was closed counts the failure or starts again with the
success; one that was not closed is closed by nothing but a success, with which the count starts
too. -/
theorem counts_visit {ends : List Settlement} (counts : book.Counts stand ends) (v : Visit) :
    book.Counts (book.visit stand v) (ends ++ (book.end? stand v).toList) := by
  have room : 0 < max 1 book.threshold := by omega
  have probed (how : Settlement) :
      book.Counts (book.settle v.settled .halfOpen how) (ends ++ [how]) := by
    intro failures closed
    cases how with
    | succeeded =>
      obtain rfl := Stand.closed.inj closed
      exact ⟨(failuresInARow_succeeded ends).symm, room⟩
    | failed => cases closed
    | ignored => cases closed
  cases stand with
  | halfOpen => exact probed v.how
  | opened since =>
    simp only [visit, end?, arrive]
    by_cases early : book.elapsed since v.arrival < book.reset
    · simp only [if_pos early]
      intro failures closed
      cases closed
    · simp only [if_neg early]
      exact probed v.how
  | closed failures =>
    obtain ⟨count, below⟩ := counts failures rfl
    intro more closed
    simp only [visit, end?, arrive, Option.map_some, Option.toList_some] at closed ⊢
    cases how : v.how with
    | succeeded =>
      rw [how] at closed
      obtain rfl := Stand.closed.inj closed
      exact ⟨(failuresInARow_succeeded ends).symm, room⟩
    | ignored =>
      rw [how] at closed
      obtain rfl := Stand.closed.inj closed
      exact ⟨(failuresInARow_ignored ends).symm ▸ count, below⟩
    | failed =>
      simp only [how, settle] at closed
      split at closed
      · cases closed
      · next short =>
        obtain rfl := Stand.closed.inj closed
        rw [failuresInARow_failed, ← count]
        exact ⟨rfl, Nat.not_le.mp short⟩

/-- Any number of visits keep the count. -/
theorem counts_visits {ends : List Settlement} (counts : book.Counts stand ends) (vs : List Visit) :
    book.Counts (book.visits stand vs) (ends ++ outcomes (book.log stand vs) vs) := by
  induction vs generalizing stand ends with
  | nil => simpa [outcomes, visits] using counts
  | cons v rest ih =>
    have next := ih (counts_visit counts v)
    rw [List.append_assoc] at next
    exact next

/-- A visit opens the circuit if the attempt fails that was let through, and, unless it was a probe,
if its failure is the one in a row that the threshold waits for. The count of a closed stand is that
of the failures in a row, so that the automaton needs no history of its own. -/
theorem opens_iff {ends : List Settlement} (counts : book.Counts stand ends) (v : Visit) :
    (book.reception stand v).Opens ↔
      (book.reception stand v).admission.isSome = true ∧ v.how = .failed ∧
        ((book.reception stand v).during = .closed →
          failuresInARow (ends ++ [.failed]) = max 1 book.threshold) := by
  have probed (how : Settlement) :
      (Stand.halfOpen.state ≠ .opened ∧ (book.settle v.settled .halfOpen how).state = .opened) ↔
        how = .failed := by
    cases how <;> simp [Stand.state, settle]
  cases stand with
  | halfOpen =>
    simp only [Reception.Opens, reception, visit, arrive, probed]
    simp [Stand.state]
  | opened since =>
    simp only [Reception.Opens, reception, visit, arrive]
    split
    · simp [Stand.state]
    · simp only [probed]
      simp [Stand.state]
  | closed failures =>
    obtain ⟨count, below⟩ := counts failures rfl
    simp only [Reception.Opens, reception, visit, arrive, failuresInARow_failed, ← count]
    cases v.how with
    | succeeded => simp [settle, Stand.state]
    | ignored => simp [settle, Stand.state]
    | failed =>
      simp only [settle]
      split
      · next reached =>
        simp [Stand.state]
        omega
      · next short =>
        simp [Stand.state]
        omega

end Textbook

end TrialRouting
