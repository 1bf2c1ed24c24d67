import Mathlib.Data.List.Nodup
import TrialRouting.Proofs.Breaker.Opening

/-!
# The books of a circuit

A breaker keeps four things: the state of the circuit, a count of failures, when it last
opened, and whether a probe is running. The attempts on its key arrive and settle in any
overlap, and each operation changes some of the four and leaves the others. What they say
can be read off the history all the same: the probe's place is taken by the one probe that
has not settled, the count of a closed circuit is that of the ordinary failures since the
last success, and an open circuit has opened when the history says it last did.

`Breaker.Tallies` is that correspondence for one breaker, with one lemma for each
operation; `Traffic.Balanced` carries it through a history. The breaker's clock counts
milliseconds in 64 bits, so what it takes for the time since the opening is that time for
as long as the clock has not wrapped around.
-/

namespace TrialRouting

/-! ### One breaker -/

namespace Admission

/-- How many probes' places an admitted attempt takes. -/
def places : Admission → Nat
  | .normal => 0
  | .probe => 1

/-- How many ordinary failures the failure of an admitted attempt is. -/
def ordinaryFailures : Admission → Nat
  | .normal => 1
  | .probe => 0

end Admission

namespace Breaker

/-- The books of a breaker with a threshold agree with what has happened: how many probes
are running, how many ordinary failures have settled since the last success, and when, by
the breaker's clock, the circuit has last opened. -/
structure Tallies (b : Breaker) (threshold : UInt32) (probes failures : Nat)
    (opened : Option Nat) : Prop where
  probing : probes = if b.probing then 1 else 0
  counted : b.state = .closed → b.failures.toNat = failures ∧ failures < max 1 threshold.toNat
  since : b.state = .opened → opened = some b.openedAt

variable {b : Breaker} {threshold : UInt32} {probes failures : Nat} {opened : Option Nat}

/-- A breaker that has just been made: it is closed, nobody has failed, no probe is running, and it
has not opened yet. -/
theorem tallies_new (threshold : UInt32) : Tallies {} threshold 0 0 none where
  probing := rfl
  counted := by
    intro _
    refine ⟨rfl, ?_⟩
    omega
  since := by simp

namespace Tallies

/-- The place of a probe is free or taken by the only one that is running: the breaker keeps one
flag for it, and the flag counts at most one. -/
theorem probes_le_one (tallies : b.Tallies threshold probes failures opened) : probes ≤ 1 := by
  rw [tallies.probing]
  split <;> omega

/-- A half-open circuit admits an attempt as its probe if the place is free. -/
theorem after_probe (tallies : b.Tallies threshold probes failures opened)
    (halfOpen : b.state = .halfOpen) :
    b.probe.1.Tallies threshold (probes + (b.probe.2.map Admission.places).getD 0) failures
      opened := by
  have books := tallies.probing
  cases running : b.probing with
  | true => simpa [probe, running] using tallies
  | false =>
    refine ⟨?_, ?_, ?_⟩
    · simp [probe, running, Admission.places, books]
    · simp [probe, running, halfOpen]
    · simp [probe, running, halfOpen]

/-- An arrival only takes the place of the probe, if it is admitted as one. An open circuit may turn
half-open with it, and neither the count nor the opening is touched. -/
theorem after_arrive (tallies : b.Tallies threshold probes failures opened) (now reset : Nat) :
    (b.arrive now reset).1.Tallies threshold
      (probes + ((b.arrive now reset).2.map Admission.places).getD 0) failures opened := by
  cases state : b.state with
  | closed => simpa [arrive, state, Admission.places] using tallies
  | halfOpen => simpa [arrive, state] using tallies.after_probe state
  | opened =>
    simp only [arrive, state]
    split
    · simpa using tallies
    · refine after_probe (b := { b with state := .halfOpen }) ⟨tallies.probing, ?_, ?_⟩ rfl
      · simp
      · simp

/-- A success closes the circuit and starts the count again. The success of a probe gives its place
back; that of any other attempt leaves the place as it is. -/
theorem after_succeed (tallies : b.Tallies threshold probes failures opened) (a : Admission)
    (inside : a.places ≤ probes) :
    (b.succeed a).Tallies threshold (probes - a.places) 0 opened := by
  have books := tallies.probing
  have room : 0 < max 1 threshold.toNat := by omega
  cases a with
  | normal => exact ⟨books, fun _ => ⟨rfl, room⟩, by simp [succeed, release]⟩
  | probe =>
    have one := tallies.probes_le_one
    refine ⟨?_, fun _ => ⟨rfl, room⟩, by simp [succeed, release]⟩
    simp only [Admission.places, succeed, release, Bool.false_eq_true, if_false]
    omega

/-- An ordinary failure of a closed circuit is counted; the count is that of a number below
the threshold, so one more does not wrap around. -/
theorem toNat_succ_failures (tallies : b.Tallies threshold probes failures opened)
    (closed : b.state = .closed) : (b.failures + 1).toNat = failures + 1 := by
  obtain ⟨count, below⟩ := tallies.counted closed
  have bound := threshold.toNat_lt
  have one : (1 : UInt32).toNat = 1 := rfl
  rw [UInt32.toNat_add, count, one]
  omega

/-- A failure is counted, opens the circuit, or both: the probe's failure always opens it, and an
ordinary one does when a closed circuit has come to its threshold. A circuit that is open already
only counts, and its opening stays where it was. -/
theorem after_fail (tallies : b.Tallies threshold probes failures opened) (a : Admission)
    (now : Nat) (inside : a.places ≤ probes) :
    (b.fail a now threshold).1.Tallies threshold (probes - a.places)
      (failures + a.ordinaryFailures)
      (if (b.fail a now threshold).2 then some now else opened) := by
  have books := tallies.probing
  cases a with
  | probe =>
    have one := tallies.probes_le_one
    refine ⟨?_, by simp [fail, trip, release], by simp [fail, trip, release]⟩
    simp only [Admission.places, fail, trip, release, Bool.false_eq_true, if_false]
    omega
  | normal =>
    simp only [Admission.places, Nat.sub_zero, Admission.ordinaryFailures, fail]
    split
    · exact ⟨books, by simp [trip], by simp [trip]⟩
    · next below =>
      refine ⟨books, ?_, tallies.since⟩
      intro closed
      have count : (b.failures + 1).toNat = failures + 1 := tallies.toNat_succ_failures closed
      have short : ¬ threshold ≤ b.failures + 1 := fun reached => below ⟨reached, closed⟩
      rw [UInt32.le_iff_toNat_le, count] at short
      exact ⟨count, by omega⟩

/-- An attempt that is cancelled or taken down gives its place back, if it is the probe. -/
theorem after_ignore (tallies : b.Tallies threshold probes failures opened) (a : Admission)
    (inside : a.places ≤ probes) :
    (b.ignore a).Tallies threshold (probes - a.places) failures opened := by
  have books := tallies.probing
  cases a with
  | normal => exact tallies
  | probe =>
    have one := tallies.probes_le_one
    refine ⟨?_, tallies.counted, tallies.since⟩
    simp only [Admission.places, ignore, release, Bool.false_eq_true, if_false]
    omega

end Tallies

/-- A circuit that is not closed admits nobody but a probe, and that when the place is free and the
circuit is half-open or has been open for long enough by its own clock. -/
theorem admission_of_not_closed (b : Breaker) (notClosed : b.state ≠ .closed) (now reset : Nat) :
    (b.arrive now reset).2 ≠ some .normal ∧
      ((b.arrive now reset).2 = some .probe ↔
        b.probing = false ∧ (b.state = .halfOpen ∨ reset ≤ now - b.openedAt)) := by
  have probed (halfOpen : Breaker) : halfOpen.probe.2 ≠ some .normal ∧
      (halfOpen.probe.2 = some .probe ↔ halfOpen.probing = false) := by
    unfold Breaker.probe
    split <;> simp_all
  cases state : b.state with
  | closed => exact absurd state notClosed
  | halfOpen => simpa [arrive, state] using probed b
  | opened =>
    have admitted := probed { b with state := .halfOpen }
    simp only [arrive, state]
    split
    · next early => simp; omega
    · next due =>
      refine ⟨admitted.1, admitted.2.trans ?_⟩
      simp only [reduceCtorEq, false_or, iff_self_and]
      omega

/-- An arrival that is rejected leaves the breaker as it is, but for an open circuit that is now
half-open. That happens if the reset time is over while a probe is still running. -/
theorem arrive_of_rejected (b : Breaker) (now reset : Nat)
    (rejected : (b.arrive now reset).2 = none) :
    (b.arrive now reset).1 = b ∨
      (b.state = .opened ∧ (b.arrive now reset).1 = { b with state := .halfOpen }) := by
  have probed (halfOpen : Breaker) (full : halfOpen.probe.2 = none) :
      halfOpen.probe.1 = halfOpen := by
    unfold Breaker.probe at full ⊢
    split <;> simp_all
  cases state : b.state with
  | closed => exact .inl (by simp [arrive, state])
  | halfOpen =>
    simp only [arrive, state] at rejected ⊢
    exact .inl (probed b rejected)
  | opened =>
    simp only [arrive, state] at rejected ⊢
    split
    · exact .inl rfl
    · next due =>
      rw [if_neg due] at rejected
      exact .inr ⟨trivial, probed _ rejected⟩

end Breaker

/-! ### What a history says -/

/-- The ordinary failures that have settled since the last success, or from the beginning. -/
def ordinaryFailures (settled : List (Admission × Settlement)) : Nat :=
  (settled.reverse.takeWhile (·.2 != .succeeded)).countP (· == (.normal, .failed))

/-- A success starts the count again. -/
theorem ordinaryFailures_succeeded (settled : List (Admission × Settlement)) (a : Admission) :
    ordinaryFailures (settled ++ [(a, .succeeded)]) = 0 := by
  simp [ordinaryFailures]

/-- A failure counts if it is an ordinary one. That of a probe opens the circuit instead, without
being counted. -/
theorem ordinaryFailures_failed (settled : List (Admission × Settlement)) (a : Admission) :
    ordinaryFailures (settled ++ [(a, .failed)]) =
      ordinaryFailures settled + a.ordinaryFailures := by
  cases a <;> simp [ordinaryFailures, Admission.ordinaryFailures]

/-- An attempt without an outcome does not count. -/
theorem ordinaryFailures_ignored (settled : List (Admission × Settlement)) (a : Admission) :
    ordinaryFailures (settled ++ [(a, .ignored)]) = ordinaryFailures settled := by
  simp [ordinaryFailures]

namespace Traffic

/-- The settlement an event is: how the attempt was admitted and how it ended. -/
def settlement? (t : Traffic) (e : CircuitEvent) : Option (Admission × Settlement) :=
  match e.happening with
  | .arrival => none
  | .settlement number how => (t.passage? number).map fun p => (p.admission, how)

/-- When an event opens the circuit of the key, if it does. -/
def opening? (key : String) (t : Traffic) (e : CircuitEvent) : Option Nat :=
  match t.settlement? e with
  | some (a, .failed) =>
      if t.circuits.opensOnFailure key a e.instant then some e.instant else none
  | _ => none

/-- The settlements of a history, in order. -/
def settlements (key : String) : Traffic → List CircuitEvent → List (Admission × Settlement)
  | _, [] => []
  | t, e :: rest => (t.settlement? e).toList ++ settlements key (t.after key e) rest

/-- When the circuit of the key opened in a history, in order. -/
def openings (key : String) : Traffic → List CircuitEvent → List Nat
  | _, [] => []
  | t, e :: rest => (t.opening? key e).toList ++ openings key (t.after key e) rest

/-- How many probes have been admitted and have not settled. -/
def probesInside (t : Traffic) : Nat :=
  t.inside.countP (·.admission == .probe)

/-! ### The books of a circuit along a history -/

/-- The attempts inside have numbers of their own. -/
def Distinct (t : Traffic) : Prop :=
  (t.inside.map (·.number)).Nodup

/-- The attempt that settles is the only one that leaves. No other attempt inside has its number, so
that those left are counted as before, less that one if it was a probe. -/
theorem probesInside_filter {inside : List Passage} {number : Nat} {p : Passage}
    (distinct : (inside.map (·.number)).Nodup)
    (found : inside.find? (·.number == number) = some p) :
    (inside.filter (·.number != number)).countP (·.admission == .probe) + p.admission.places =
      inside.countP (·.admission == .probe) := by
  induction inside with
  | nil => simp at found
  | cons q rest ih =>
    obtain ⟨fresh, others⟩ := List.nodup_cons.mp distinct
    by_cases same : q.number = number
    · have isFirst : q = p := by simpa [same] using found
      have untouched : rest.filter (·.number != number) = rest := by
        refine List.filter_eq_self.mpr ?_
        intro r member
        have apart : r.number ≠ q.number := fun equal =>
          fresh (List.mem_map.mpr ⟨r, member, equal⟩)
        simpa [← same] using apart
      subst isFirst
      cases admission : q.admission <;> simp [same, untouched, admission, Admission.places]
    · have later : rest.find? (·.number == number) = some p := by simpa [same] using found
      have counted := ih others later
      simp only [List.filter_cons, same, bne_iff_ne, ne_eq, not_false_eq_true, if_true,
        List.countP_cons]
      omega

/-- The books of the circuit of a key agree with the settlements and the openings there
have been, and with the probes that are inside. -/
structure Balanced (key : String) (t : Traffic) (settled : List (Admission × Settlement))
    (opened : List Nat) : Prop where
  tallies : (t.circuits.breaker key).Tallies t.circuits.config.threshold t.probesInside
    (ordinaryFailures settled) (opened.getLast?.map t.circuits.clock)
  distinct : t.Distinct
  numbered : t.Numbered
  past : ∀ since ∈ opened, t.circuits.origin ≤ since ∧ since ≤ t.now
  started : t.circuits.origin ≤ t.now

/-- The books of a decorator that has just been made. -/
theorem balanced_fresh (key : String) (config : BreakerConfig) (origin : Nat) :
    Balanced key (fresh config origin) [] [] where
  tallies := Breaker.tallies_new config.threshold
  distinct := List.nodup_nil
  numbered := by
    intro p member
    exact absurd member List.not_mem_nil
  past := by
    intro since member
    exact absurd member List.not_mem_nil
  started := Nat.le_refl origin

namespace Balanced

variable {key : String} {t : Traffic} {settled : List (Admission × Settlement)}
  {opened : List Nat}

/-- The books balance after an event that leaves the key with a breaker whose books do. The breakers
of other keys, the clock and the threshold are not part of it; so only that one breaker has to be
looked at. -/
theorem moved (balanced : Balanced key t settled opened) {next : Traffic} {b : Breaker}
    {settled' : List (Admission × Settlement)} {opened' : List Nat}
    (circuits : next.circuits = t.circuits.put key b)
    (tallies : b.Tallies t.circuits.config.threshold next.probesInside
      (ordinaryFailures settled') (opened'.getLast?.map t.circuits.clock))
    (distinct : next.Distinct) (numbered : next.Numbered) (onwards : t.now ≤ next.now)
    (past : ∀ since ∈ opened', since ∈ opened ∨ since = next.now) :
    Balanced key next settled' opened' where
  tallies := by simpa [circuits] using tallies
  distinct := distinct
  numbered := numbered
  past := by
    intro since member
    rw [circuits, Circuits.origin_put]
    rcases past since member with known | rfl
    · exact ⟨(balanced.past since known).1, Nat.le_trans (balanced.past since known).2 onwards⟩
    · exact ⟨Nat.le_trans balanced.started onwards, Nat.le_refl _⟩
  started := by
    rw [circuits, Circuits.origin_put]
    exact Nat.le_trans balanced.started onwards

/-- The books balance after an arrival: only the place of the probe may have been taken, and then
there is one probe more inside. -/
theorem arrival (balanced : Balanced key t settled opened) {e : CircuitEvent}
    (arrives : e.happening = .arrival) (onwards : t.now ≤ e.instant) :
    Balanced key (t.after key e) settled opened := by
  have booked := balanced.tallies.after_arrive (t.circuits.clock e.instant) t.circuits.resetMillis
  have asked : t.circuits.admission? key e.instant =
      ((t.circuits.breaker key).arrive (t.circuits.clock e.instant)
        t.circuits.resetMillis).2 := rfl
  have numbered : (t.after key e).Numbered := numbered_after key t e balanced.numbered
  cases admission : t.circuits.admission? key e.instant with
  | none =>
    have next : t.after key e =
        { t with circuits := t.circuits.arrive key e.instant, now := e.instant } := by
      simp [after, arrives, admission]
    rw [← asked, admission] at booked
    rw [next] at numbered ⊢
    exact balanced.moved rfl booked balanced.distinct numbered onwards (fun _ => .inl)
  | some a =>
    have next : t.after key e =
        { circuits := t.circuits.arrive key e.instant
          inside := t.inside ++ [⟨t.admitted, a, e.instant⟩]
          admitted := t.admitted + 1
          now := e.instant } := by
      simp [after, arrives, admission]
    rw [← asked, admission] at booked
    rw [next] at numbered ⊢
    refine balanced.moved rfl ?_ ?_ numbered onwards (fun _ => .inl)
    · have more : (t.inside ++ [(⟨t.admitted, a, e.instant⟩ : Passage)]).countP
          (·.admission == .probe) =
          t.probesInside + a.places := by
        cases a <;> simp [probesInside, Admission.places]
      simpa [probesInside, more] using booked
    · have unused : t.admitted ∉ t.inside.map (·.number) := by
        intro used
        obtain ⟨p, member, same⟩ := List.mem_map.mp used
        exact absurd (balanced.numbered p member) (by omega)
      have appended : ((t.inside.map (·.number)) ++ [t.admitted]).Nodup :=
        List.nodup_append.mpr ⟨balanced.distinct, List.nodup_singleton _, by
          rintro n member m new rfl
          exact unused (List.mem_singleton.mp new ▸ member)⟩
      simpa [Distinct] using appended

/-- The books balance after the settlement of an attempt that is inside. The three ways of settling
are three operations on the breaker, and each of them enters the settlement as the history has
it. -/
theorem settlement (balanced : Balanced key t settled opened) {e : CircuitEvent} {number : Nat}
    {how : Settlement} {p : Passage} (settles : e.happening = .settlement number how)
    (found : t.passage? number = some p) (onwards : t.now ≤ e.instant) :
    Balanced key (t.after key e) (settled ++ [(p.admission, how)])
      (opened ++ (t.opening? key e).toList) := by
  have counted := probesInside_filter balanced.distinct found
  have inside : p.admission.places ≤ t.probesInside :=
    Nat.le.intro ((Nat.add_comm _ _).trans counted)
  have left : (t.inside.filter (·.number != number)).countP (·.admission == .probe) =
      t.probesInside - p.admission.places := Nat.eq_sub_of_add_eq counted
  have next : t.after key e =
      { t with
        circuits := t.circuits.settle key p.admission e.instant how
        inside := t.inside.filter (·.number != number)
        now := e.instant } := by
    simp [after, settles, found]
  have settledAs : t.settlement? e = some (p.admission, how) := by
    simp [settlement?, settles, found]
  have numbered : (t.after key e).Numbered := numbered_after key t e balanced.numbered
  have distinct : ((t.inside.filter (·.number != number)).map (·.number)).Nodup :=
    balanced.distinct.sublist (List.filter_sublist.map _)
  rw [next] at numbered ⊢
  cases how with
  | succeeded =>
    have quiet : t.opening? key e = none := by simp [opening?, settledAs]
    have booked := balanced.tallies.after_succeed p.admission inside
    rw [quiet, Option.toList_none, List.append_nil]
    refine balanced.moved rfl ?_ distinct numbered onwards (fun _ => .inl)
    simpa only [probesInside, left, ordinaryFailures_succeeded] using booked
  | ignored =>
    have quiet : t.opening? key e = none := by simp [opening?, settledAs]
    have booked := balanced.tallies.after_ignore p.admission inside
    rw [quiet, Option.toList_none, List.append_nil]
    refine balanced.moved rfl ?_ distinct numbered onwards (fun _ => .inl)
    simpa only [probesInside, left, ordinaryFailures_ignored] using booked
  | failed =>
    have opening : t.opening? key e =
        if t.circuits.opensOnFailure key p.admission e.instant then some e.instant else none := by
      simp [opening?, settledAs]
    have booked := balanced.tallies.after_fail p.admission (t.circuits.clock e.instant) inside
    refine balanced.moved rfl ?_ distinct numbered onwards ?_
    · rw [ordinaryFailures_failed]
      have asked : t.circuits.opensOnFailure key p.admission e.instant =
          ((t.circuits.breaker key).fail p.admission (t.circuits.clock e.instant)
            t.circuits.config.threshold).2 := rfl
      rw [← asked] at booked
      cases trips : t.circuits.opensOnFailure key p.admission e.instant with
      | true => simpa [probesInside, left, opening, trips] using booked
      | false => simpa [probesInside, left, opening, trips] using booked
    · intro since member
      rcases List.mem_append.mp member with known | new
      · exact .inl known
      · refine .inr ?_
        rw [opening, Option.mem_toList] at new
        split at new
        · exact (Option.some.inj new).symm
        · cases new

/-- The books balance after every event. -/
theorem step (balanced : Balanced key t settled opened) {e : CircuitEvent}
    (onwards : t.now ≤ e.instant) :
    Balanced key (t.after key e) (settled ++ (t.settlement? e).toList)
      (opened ++ (t.opening? key e).toList) := by
  cases happens : e.happening with
  | arrival =>
    have none' : t.settlement? e = none := by simp [settlement?, happens]
    simpa [opening?, none'] using balanced.arrival happens onwards
  | settlement number how =>
    cases found : t.passage? number with
    | some p =>
      have settledAs : t.settlement? e = some (p.admission, how) := by
        simp [settlement?, happens, found]
      simpa [settledAs] using balanced.settlement happens found onwards
    | none =>
      have none' : t.settlement? e = none := by simp [settlement?, happens, found]
      have next : t.after key e = { t with now := e.instant } := by simp [after, happens, found]
      simp only [opening?, none', Option.toList_none, List.append_nil, next]
      exact { balanced with
        past := fun since known =>
          ⟨(balanced.past since known).1, Nat.le_trans (balanced.past since known).2 onwards⟩
        started := Nat.le_trans balanced.started onwards }

/-- The books balance after every history. The induction follows the history; what happened before
its first event and what happens after it come together in the end. -/
theorem run (balanced : Balanced key t settled opened) {history : List CircuitEvent}
    (timely : Timely t.now history) :
    Balanced key (t.run key history) (settled ++ t.settlements key history)
      (opened ++ t.openings key history) := by
  induction history generalizing t settled opened with
  | nil => simpa [settlements, openings] using balanced
  | cons e rest ih =>
    have onwards : Timely (t.after key e).now rest := by simpa using timely.2
    have next := ih (balanced.step timely.1) onwards
    simpa [settlements, openings] using next

end Balanced

/-! ### What a circuit does -/

/-- As long as the breaker's clock has not wrapped around, what it counts between two instants is
the time between them. After that it may count less, and never more. -/
theorem clock_sub (c : Circuits) {since now : Nat} (started : c.origin ≤ since)
    (later : since ≤ now) (within : now < c.origin + UInt64.size) :
    c.clock now - c.clock since = now - since := by
  obtain ⟨origin, counted⟩ : ∃ origin : Nat, c.origin = origin := ⟨c.origin, rfl⟩
  rw [Circuits.clock_eq, Circuits.clock_eq, counted]
  have begun : origin ≤ since := counted ▸ started
  have inTime : now < origin + UInt64.size := counted ▸ within
  have nowCounted : (now - origin) % UInt64.size = now - origin := Nat.mod_eq_of_lt (by omega)
  have sinceCounted : (since - origin) % UInt64.size = since - origin :=
    Nat.mod_eq_of_lt (by omega)
  rw [nowCounted, sinceCounted]
  omega

/-- No event sets the clock. -/
theorem origin_after (key : String) (t : Traffic) (e : CircuitEvent) :
    (t.after key e).circuits.origin = t.circuits.origin := by
  unfold after
  split
  · split <;> rfl
  · next number how _ =>
    split
    · rfl
    · cases how <;> rfl

/-- No history sets the clock. -/
theorem origin_run (key : String) (t : Traffic) (history : List CircuitEvent) :
    (t.run key history).circuits.origin = t.circuits.origin := by
  induction history generalizing t with
  | nil => rfl
  | cons e rest ih => rw [run_cons, ih, origin_after]

/-- A rejected arrival leaves the attempts inside and the other keys alone, and the breaker of the
key but for an open circuit that is now half-open. -/
theorem after_of_rejected (key : String) (t : Traffic) (now : Nat) (rejected : t.Rejects key now) :
    let next := t.after key ⟨now, .arrival⟩
    next.inside = t.inside ∧ next.admitted = t.admitted ∧
      (∀ other, other ≠ key → next.circuits.breaker other = t.circuits.breaker other) ∧
      (next.circuits.breaker key = t.circuits.breaker key ∨
        ((t.circuits.breaker key).state = .opened ∧ next.circuits.breaker key =
          { t.circuits.breaker key with state := .halfOpen })) := by
  have next : t.after key ⟨now, .arrival⟩ =
      { t with circuits := t.circuits.arrive key now, now := now } := by
    simp only [Rejects] at rejected
    simp [after, rejected]
  rw [next]
  refine ⟨rfl, rfl, fun other distinct => t.circuits.breaker_put_of_ne _ distinct, ?_⟩
  simpa [Circuits.arrive] using Breaker.arrive_of_rejected _ _ _ rejected

/-- What a breaker keeps agrees with the history of its key, however the attempts on it overlap.

The place of the probe is taken exactly while one admitted probe has not settled, so there are never
two, and however a probe settles its place is free. A closed circuit counts the ordinary failures
since the last success, which are fewer than its threshold, so the count does not wrap around. A
circuit that is not closed admits nobody but a probe, and that exactly when none is running and it
is half-open or the reset time has passed since it last opened: passed on the breaker's clock, which
is never ahead of the time that has passed, and agrees with it until it wraps around. A rejection
changes nothing but an open circuit to a half-open one.

Proof: each operation of a breaker keeps its books in agreement with what has happened to it, and
every event on the key is one of them or none. So the books balance after every history, and all
that is said here can be read off them. -/
theorem books_agree_with_history (config : BreakerConfig) (reset : Nat)
    (whole : config.reset = .ofMillis reset) (fits : reset < UInt64.size) (origin : Nat)
    (key : String) (history : List CircuitEvent) (timely : Timely origin history)
    (t : Traffic) (reached : t = (fresh config origin).run key history) (b : Breaker)
    (books : b = t.circuits.breaker key) :
    ((b.probing ↔ t.probesInside = 1) ∧ t.probesInside ≤ 1 ∧
      (∀ number p how now, t.passage? number = some p → p.admission = .probe →
        ((t.after key ⟨now, .settlement number how⟩).circuits.breaker key).probing = false)) ∧
    (b.state = .closed →
      b.failures.toNat = ordinaryFailures ((fresh config origin).settlements key history) ∧
        b.failures.toNat < max 1 config.threshold.toNat ∧
        (b.failures + 1).toNat = b.failures.toNat + 1) ∧
    (b.state ≠ .closed → ∀ now, t.now ≤ now →
      t.circuits.admission? key now ≠ some .normal ∧
      (t.circuits.admission? key now = some .probe ↔ t.probesInside = 0 ∧
        (b.state = .halfOpen ∨ ∃ since, ((fresh config origin).openings key history).getLast? =
          some since ∧ reset ≤ t.circuits.clock now - t.circuits.clock since))) ∧
    (∀ since ∈ (fresh config origin).openings key history, ∀ now, t.now ≤ now →
      (reset ≤ t.circuits.clock now - t.circuits.clock since → since + reset ≤ now) ∧
      (now < origin + UInt64.size →
        (reset ≤ t.circuits.clock now - t.circuits.clock since ↔ since + reset ≤ now))) ∧
    (∀ now, t.now ≤ now → t.Rejects key now →
      let next := t.after key ⟨now, .arrival⟩
      next.inside = t.inside ∧ next.admitted = t.admitted ∧
        (∀ other, other ≠ key → next.circuits.breaker other = t.circuits.breaker other) ∧
        (next.circuits.breaker key = b ∨
          (b.state = .opened ∧ next.circuits.breaker key = { b with state := .halfOpen }))) := by
  have balanced : Balanced key t ((fresh config origin).settlements key history)
      ((fresh config origin).openings key history) := by
    rw [reached]
    simpa using (balanced_fresh key config origin).run timely
  have configured : t.circuits.config = config := by rw [reached, config_run]; rfl
  have started : t.circuits.origin = origin := by rw [reached, origin_run]; rfl
  have limit : t.circuits.resetMillis = reset :=
    t.circuits.resetMillis_eq reset (by rw [configured]; exact whole) fits
  have tallies := balanced.tallies
  rw [configured, ← books] at tallies
  refine ⟨⟨?_, tallies.probes_le_one, ?_⟩, ?_, ?_, ?_, ?_⟩
  · -- The place of the probe is taken exactly while a probe is inside.
    have probing := tallies.probing
    cases running : b.probing with
    | true => simpa [running] using probing
    | false => simp_all
  · -- However a probe settles, it gives up the place.
    intro number p how now found admission
    have next : (t.after key ⟨now, .settlement number how⟩).circuits.breaker key =
        (t.circuits.settle key .probe now how).breaker key := by
      simp [after, found, admission]
    rw [next]
    cases how <;> simp [Circuits.settle, Circuits.succeed, Circuits.fail, Circuits.ignore,
      Breaker.succeed, Breaker.fail, Breaker.ignore, Breaker.release]
  · intro closed
    obtain ⟨count, below⟩ := tallies.counted closed
    have more := tallies.toNat_succ_failures closed
    exact ⟨count, count ▸ below, by rw [more, count]⟩
  · -- Whether a probe is admitted is up to the place and to the time since the last opening.
    intro notClosed now onwards
    obtain ⟨noOrdinary, probe⟩ :=
      b.admission_of_not_closed notClosed (t.circuits.clock now) reset
    have asked : t.circuits.admission? key now = (b.arrive (t.circuits.clock now) reset).2 := by
      rw [books, ← limit]
      rfl
    have place : b.probing = false ↔ t.probesInside = 0 := by
      have probing := tallies.probing
      cases running : b.probing with
      | true => simp_all
      | false => simpa [running] using probing
    rw [asked]
    refine ⟨noOrdinary, probe.trans ?_⟩
    rw [place]
    refine and_congr_right fun _ => ?_
    cases state : b.state with
    | closed => exact absurd state notClosed
    | halfOpen => simp
    | opened =>
      have last := tallies.since state
      obtain ⟨since, isLast, counted⟩ := Option.map_eq_some_iff.mp last
      simp [isLast, counted]
  · -- The clock is cut to 64 bits, so it may count less than has passed, but never more.
    intro since member now onwards
    obtain ⟨begun, past⟩ := balanced.past since member
    have later : since ≤ now := Nat.le_trans past onwards
    constructor
    · intro counted
      by_contra early
      exact absurd (t.circuits.clock_sub_lt since now reset later (by omega) fits) (by omega)
    · intro within
      rw [clock_sub t.circuits begun later (started ▸ within)]
      omega
  · intro now onwards rejected
    rw [books]
    exact after_of_rejected key t now rejected

/-- The only attempt fails at once, which opens the circuit. -/
def soleFailure : List CircuitEvent := [⟨0, .arrival⟩, ⟨0, .settlement 0 .failed⟩]

/-- A probe comes in after a second, and is the only one to do so until it settles. -/
theorem one_strike_admits_one_probe :
    Timely 0 (soleFailure ++ [⟨1000, .arrival⟩]) ∧
      ((fresh oneStrike 0).run "a" (soleFailure ++ [⟨1000, .arrival⟩])).probesInside = 1 ∧
      ∀ now, 1000 ≤ now → ((fresh oneStrike 0).run "a"
        (soleFailure ++ [⟨1000, .arrival⟩])).Rejects "a" now := by
  have timely : Timely 0 (soleFailure ++ [⟨1000, .arrival⟩]) := by simp [soleFailure, Timely]
  have running : ((fresh oneStrike 0).run "a" (soleFailure ++ [⟨1000, .arrival⟩])).probesInside
      = 1 := by decide
  obtain ⟨-, -, admits, -⟩ := books_agree_with_history oneStrike 1000 rfl (by decide) 0 "a" _
    timely _ rfl _ rfl
  refine ⟨timely, running, fun now later => ?_⟩
  obtain ⟨noOrdinary, probe⟩ := admits (by decide) now later
  cases admission : ((fresh oneStrike 0).run "a"
      (soleFailure ++ [⟨1000, .arrival⟩])).circuits.admission? "a" now with
  | none => exact admission
  | some a =>
    cases a with
    | normal => exact absurd admission noOrdinary
    | probe =>
      have free := (probe.mp admission).1
      rw [running] at free
      cases free

/-- When the breaker's clock has just wrapped around, an open circuit without a probe rejects the
next attempt, though its reset time has long passed. The clock reads zero again, as it did at the
opening, and no time seems to have passed since. -/
theorem wrapped_clock_rejects_after_reset :
    Timely 0 soleFailure ∧
      ((fresh oneStrike 0).run "a" soleFailure).circuits.state "a" = .opened ∧
      ((fresh oneStrike 0).run "a" soleFailure).probesInside = 0 ∧
      (fresh oneStrike 0).openings "a" soleFailure = [0] ∧
      oneStrike.reset = .ofMillis 1000 ∧ 0 + 1000 ≤ UInt64.size ∧
      ((fresh oneStrike 0).run "a" soleFailure).Rejects "a" UInt64.size := by
  refine ⟨by simp [soleFailure, Timely], by decide, by decide, by decide, rfl, by decide,
    by decide⟩

end Traffic

end TrialRouting
