import TrialRouting.Proofs.Breaker.Simulation

/-!
# The reset time of a circuit

A reset time may be any duration, but a breaker counts whole milliseconds in 64 bits: the reset
time, the instant at which the circuit opened and the present are each cut before they are
compared. So an open circuit waits for what is left of its reset time, and a reset time that
loses something on the way is not waited for.

On instants that are whole milliseconds nothing is lost exactly if the reset time is a whole
number of milliseconds that fits in 64 bits. On a finer clock up to a millisecond more is lost
at the opening. Of two reset times that fit, the longer one never lets a probe through earlier.
-/

namespace TrialRouting

/-- A duration is cut to its whole milliseconds, modulo 64 bits. -/
theorem Duration.toNat_millis (d : Duration) :
    d.millis.toNat = d.nanoseconds / 1000000 % UInt64.size := by
  simp [millis, UInt64.toNat_ofNat']

/-! ### Openings of the textbook breaker -/

namespace Textbook

variable {book : Textbook} {stand : Stand}

/-- A circuit that a visit has opened has been open since the visit settled. It is not the arrival
that counts: an attempt may take long to fail. -/
theorem visit_of_opens {v : Visit} (opens : (book.reception stand v).Opens) :
    book.visit stand v = .opened v.settled := by
  obtain ⟨notBefore, afterwards⟩ := opens
  have met : book.visit stand v = (book.arrive v.arrival stand).1 ∨
      book.visit stand v = book.settle v.settled (book.arrive v.arrival stand).1 v.how := by
    simp only [visit]
    split
    · exact .inl rfl
    · exact .inr rfl
  cases reached : book.visit stand v with
  | closed failures =>
    simp only [reception, reached] at afterwards
    cases afterwards
  | halfOpen =>
    simp only [reception, reached] at afterwards
    cases afterwards
  | opened since =>
    have open' (already : (book.arrive v.arrival stand).1 = .opened since) : False := by
      apply notBefore
      simp only [reception, already]
      rfl
    rcases met with same | settled
    · exact (open' (same.symm.trans reached)).elim
    · rcases opened_of_settle (settled.symm.trans reached) with rfl | already
      · rfl
      · exact (open' already).elim

/-- Before the reset time has been counted an open circuit stays open and lets nobody through, so
that an arrival leaves no mark on it. -/
theorem arrive_of_early {since now : Nat} (early : book.elapsed since now < book.reset) :
    book.arrive now (.opened since) = (.opened since, none) := by
  simp only [arrive, if_pos early]

/-- After that it lets a probe through and is half-open for as long as the probe runs. -/
theorem arrive_of_due {since now : Nat} (due : book.reset ≤ book.elapsed since now) :
    book.arrive now (.opened since) = (.halfOpen, some .probe) := by
  simp only [arrive, if_neg (Nat.not_lt.mpr due)]

/-- Visits that come before the reset time has been counted leave the circuit open. None of them is
let through, and so none settles. -/
theorem visits_of_early {since : Nat} {vs : List Visit}
    (early : ∀ v ∈ vs, book.elapsed since v.arrival < book.reset) :
    book.visits (.opened since) vs = .opened since := by
  induction vs with
  | nil => rfl
  | cons v rest ih =>
    have first : book.visit (.opened since) v = .opened since := by
      simp only [visit, arrive_of_early (early v List.mem_cons_self)]
    rw [visits, List.foldl_cons, first]
    exact ih fun w member => early w (List.mem_cons_of_mem v member)

/-- Failures below the threshold are counted. A threshold of zero is one of one here, as in the
breaker. -/
theorem visits_of_failures (instant : Nat) {failures : Nat}
    (below : failures < max 1 book.threshold) :
    book.visits (.closed 0) (List.replicate failures ⟨instant, instant, .failed⟩) =
      .closed failures := by
  induction failures with
  | zero => rfl
  | succ failures ih =>
    have short : ¬ max 1 book.threshold ≤ failures + 1 := by omega
    have counted := ih (by omega)
    rw [List.replicate_succ', visits, List.foldl_concat]
    rw [visits] at counted
    rw [counted]
    simp only [visit, arrive, settle, if_neg short]

/-- The failure that the threshold waits for opens the circuit. -/
theorem opens_of_failures (instant : Nat) {failures : Nat}
    (last : failures + 1 = max 1 book.threshold) :
    (book.reception (.closed failures) ⟨instant, instant, .failed⟩).Opens := by
  have reached : max 1 book.threshold ≤ failures + 1 := by omega
  simp [Reception.Opens, reception, visit, arrive, settle, Stand.state, reached]

/-- What has not passed has not been counted either, also on a clock that has wrapped around: the
difference of two readings is never more than that of the instants. -/
theorem elapsed_lt (threshold : UInt32) {origin since now reset : Nat} (later : since ≤ now)
    (early : now < since + reset) (fits : reset < UInt64.size) :
    (onClock threshold reset origin).elapsed since now < reset := by
  have counted := Circuits.clock_sub_lt { config := {}, origin } since now reset later early fits
  rwa [Circuits.clock_eq, Circuits.clock_eq] at counted

end Textbook

/-- The visit of that number is let through as a probe. Between an opening and the first of these
the circuit rejects everybody. -/
def Probes (log : List Reception) (n : Nat) : Prop :=
  ∃ r, log[n]? = some r ∧ r.admission = some .probe

namespace Textbook

/-- Until the first probe the automaton with the longer reset time goes through the same stands, so
that its first probe is no earlier. If a visit goes alike with both and is no probe, the search goes
on among the others; if not, it is a probe with the shorter reset time. -/
theorem probes_of_longer {short long : Textbook} (threshold : long.threshold = short.threshold)
    (elapsed : long.elapsed = short.elapsed) (longer : short.reset ≤ long.reset) {stand : Stand}
    (unprobed : stand ≠ .halfOpen) {vs : List Visit} {n : Nat}
    (probes : Probes (long.log stand vs) n) : ∃ m ≤ n, Probes (short.log stand vs) m := by
  induction vs generalizing stand n with
  | nil =>
    obtain ⟨r, impossible, -⟩ := probes
    cases impossible
  | cons v rest ih =>
    have later (same : long.visit stand v = short.visit stand v)
        (unprobed : short.visit stand v ≠ .halfOpen)
        (noProbe : (long.reception stand v).admission ≠ some .probe) :
        ∃ m ≤ n, Probes (short.log stand (v :: rest)) m := by
      cases n with
      | zero =>
        obtain ⟨r, first, probe⟩ := probes
        simp only [log, List.getElem?_cons_zero, Option.some.injEq] at first
        exact absurd probe (first ▸ noProbe)
      | succ n =>
        obtain ⟨r, found, probe⟩ := probes
        simp only [log, List.getElem?_cons_succ] at found
        rw [same] at found
        obtain ⟨m, early, others⟩ := ih unprobed ⟨r, found, probe⟩
        exact ⟨m + 1, by omega, others⟩
    cases stand with
    | halfOpen => exact absurd rfl unprobed
    | closed failures =>
      refine later ?_ ?_ ?_
      · cases how : v.how with
        | succeeded => simp only [visit, arrive, how, settle]
        | failed => simp only [visit, arrive, how, settle, threshold]
        | ignored => simp only [visit, arrive, how, settle]
      · cases how : v.how with
        | succeeded => simp [visit, arrive, how, settle]
        | failed =>
          simp only [visit, arrive, how, settle]
          split <;> simp
        | ignored => simp [visit, arrive, how, settle]
      · simp [reception, arrive]
    | opened since =>
      by_cases early : short.elapsed since v.arrival < short.reset
      · have earlyToo : long.elapsed since v.arrival < long.reset := by
          rw [elapsed]
          exact Nat.lt_of_lt_of_le early longer
        refine later ?_ ?_ ?_
        · simp only [visit, arrive_of_early early, arrive_of_early earlyToo]
        · simp [visit, arrive_of_early early]
        · simp [reception, arrive_of_early earlyToo]
      · refine ⟨0, Nat.zero_le n, _, rfl, ?_⟩
        simp only [reception, arrive_of_due (Nat.not_lt.mp early)]

end Textbook

/-! ### Openings of a circuit -/

/-- A visit whose instants are nanoseconds, on the clock of a breaker. -/
def Visit.inMillis (v : Visit) : Visit :=
  ⟨v.arrival / 1000000, v.settled / 1000000, v.how⟩

/-- Instants in order stay in order on the clock of a breaker. -/
theorem Orderly.inMillis {vs : List Visit} {start : Nat} (orderly : Orderly start vs) :
    Orderly (start / 1000000) (vs.map Visit.inMillis) := by
  induction vs generalizing start with
  | nil => trivial
  | cons v rest ih =>
    obtain ⟨onwards, settles, others⟩ := orderly
    exact ⟨Nat.div_le_div_right onwards, Nat.div_le_div_right settles, ih others⟩

/-- Visits in order are followed by instants that are no earlier. So all that come after an opening
come after the instant at which the circuit opened. -/
theorem Orderly.settled_le {before between : List Visit} {opening last : Visit} {start : Nat}
    (orderly : Orderly start (before ++ opening :: (between ++ [last]))) :
    ∀ v ∈ between ++ [last], opening.settled ≤ v.arrival ∧ v.arrival ≤ last.arrival := by
  have upTo (start : Nat) (vs : List Visit) (inOrder : Orderly start (vs ++ [last])) :
      start ≤ last.arrival ∧ ∀ v ∈ vs ++ [last], start ≤ v.arrival ∧ v.arrival ≤ last.arrival := by
    induction vs generalizing start with
    | nil =>
      refine ⟨inOrder.1, ?_⟩
      intro v member
      obtain rfl := List.mem_singleton.mp member
      exact ⟨inOrder.1, Nat.le_refl _⟩
    | cons w rest ih =>
      obtain ⟨onwards, settles, others⟩ := inOrder
      obtain ⟨before, each⟩ := ih w.settled others
      refine ⟨by omega, ?_⟩
      intro v member
      rcases List.mem_cons.mp member with rfl | later
      · exact ⟨onwards, by omega⟩
      · obtain ⟨after, upTo⟩ := each v later
        exact ⟨by omega, upTo⟩
  induction before generalizing start with
  | nil => exact (upTo opening.settled between orderly.2.2).2
  | cons w rest ih => exact ih orderly.2.2

/-- Failures at one instant, and somebody who comes later. -/
theorem orderly_of_failures {instant now : Nat} (later : instant ≤ now) (failures : Nat)
    {start : Nat}
    (onwards : start ≤ instant) :
    Orderly start (List.replicate failures ⟨instant, instant, .failed⟩ ++
      ⟨instant, instant, .failed⟩ :: ([] ++ [⟨now, now, .ignored⟩])) := by
  induction failures generalizing start with
  | zero => exact ⟨onwards, Nat.le_refl _, later, Nat.le_refl _, trivial⟩
  | succ failures ih => exact ⟨onwards, Nat.le_refl _, ih (Nat.le_refl _)⟩

namespace Traffic

/-- In a run of visits to a key one of them opens the circuit, and some time later, perhaps after
others, another one comes. Whether that one is rejected is the question that a reset time
answers. -/
structure ComesAfterOpening (config : BreakerConfig) (origin : Nat) (key : String)
    (before : List Visit) (opening : Visit) (between : List Visit) (last : Visit) : Prop where
  orderly : Orderly origin (before ++ opening :: (between ++ [last]))
  opens : (((fresh config origin).visits key before).reception key opening).Opens

/-- Whoever comes before the reset time has passed since the circuit opened is rejected. Instants
are milliseconds, and the reset time is compared to the nanosecond. -/
def HonoursReset (config : BreakerConfig) : Prop :=
  ∀ origin key before opening between last,
    ComesAfterOpening config origin key before opening between last →
    (Duration.ofMillis (last.arrival - opening.settled)).nanoseconds < config.reset.nanoseconds →
    ((fresh config origin).visits key (before ++ opening :: between)).Rejects key last.arrival

/-- The same of instants that are nanoseconds since the decorator was made. The visits go as the
breaker's clock tells them, and what is asked for is the time that has really passed. -/
def HonoursResetFinely (config : BreakerConfig) : Prop :=
  ∀ key before opening between last,
    Orderly 0 (before ++ opening :: (between ++ [last])) →
    (((fresh config 0).visits key (before.map Visit.inMillis)).reception key
      opening.inMillis).Opens →
    last.arrival - opening.settled < config.reset.nanoseconds →
    ((fresh config 0).visits key ((before ++ opening :: between).map Visit.inMillis)).Rejects key
      last.inMillis.arrival

variable {config : BreakerConfig} {origin : Nat} {key : String} {before between : List Visit}
  {opening last : Visit}

/-- Visits after visits. -/
theorem visits_append (key : String) (t : Traffic) (first rest : List Visit) :
    t.visits key (first ++ rest) = (t.visits key first).visits key rest := by
  simp [visits, List.foldl_append]

/-- Where a visit has opened the circuit, the automaton has been open since the visit settled. This
is where the simulation by the automaton is used, and the only fact about the breaker that is
needed. -/
theorem ComesAfterOpening.stands
    (comes : ComesAfterOpening config origin key before opening between last) :
    Stands key (.ofConfig config origin) (.opened opening.settled)
      ((fresh config origin).visits key (before ++ [opening])) := by
  obtain ⟨there, -⟩ := (stands_made key config origin).visits before
  obtain ⟨visited, alike⟩ := there.visit opening
  have opens := comes.opens
  rw [alike] at opens
  rw [Textbook.visit_of_opens opens] at visited
  rw [visits_append]
  exact visited

/-- If all that come after the opening come before the breaker has counted its reset time, the last
of them is rejected like the others: none of those between has been let through to change
anything. -/
theorem ComesAfterOpening.rejects
    (comes : ComesAfterOpening config origin key before opening between last)
    (early : ∀ v ∈ between ++ [last],
      (Textbook.ofConfig config origin).elapsed opening.settled v.arrival <
        (Textbook.ofConfig config origin).reset) :
    ((fresh config origin).visits key (before ++ opening :: between)).Rejects key last.arrival := by
  obtain ⟨there, -⟩ := comes.stands.visits between
  rw [Textbook.visits_of_early fun v member => early v (List.mem_append_left _ member),
    ← visits_append, List.append_assoc, List.singleton_append] at there
  have decided := (there.arrive last.arrival).1
  rwa [Textbook.arrive_of_early (early last (List.mem_append_right _ List.mem_cons_self))]
    at decided

/-- A reset time that fits is waited for as far as the breaker counts it. The instants between are
no later than the last, so they are early as well. -/
theorem ComesAfterOpening.rejects_of_counted
    (comes : ComesAfterOpening config origin key before opening between last)
    (early : last.arrival < opening.settled + config.reset.millis.toNat) :
    ((fresh config origin).visits key (before ++ opening :: between)).Rejects key last.arrival := by
  apply comes.rejects
  intro v member
  obtain ⟨onwards, upTo⟩ := comes.orderly.settled_le v member
  exact Textbook.elapsed_lt config.threshold onwards (by omega) config.reset.millis.toNat_lt

/-- Failures at one instant open the circuit, and somebody comes later. -/
theorem comesAfterOpening_of_failures (config : BreakerConfig) (key : String)
    {instant now : Nat} (later : instant ≤ now) :
    ComesAfterOpening config 0 key
      (List.replicate (max 1 config.threshold.toNat - 1) ⟨instant, instant, .failed⟩)
      ⟨instant, instant, .failed⟩ [] ⟨now, now, .ignored⟩ := by
  constructor
  · exact orderly_of_failures later _ (Nat.zero_le _)
  · have room : max 1 config.threshold.toNat - 1 < max 1 config.threshold.toNat := by omega
    obtain ⟨there, -⟩ := (stands_made key config 0).visits
      (List.replicate (max 1 config.threshold.toNat - 1) ⟨instant, instant, .failed⟩)
    rw [Textbook.visits_of_failures instant room] at there
    rw [(there.visit _).2]
    apply Textbook.opens_of_failures
    show max 1 config.threshold.toNat - 1 + 1 = max 1 config.threshold.toNat
    omega

/-- When the breaker has counted its reset time since they failed, it lets a probe through. So a
reset time that loses something when it is counted is not waited for. -/
theorem not_rejects_of_due (config : BreakerConfig) (key : String) {instant now : Nat}
    (later : instant ≤ now)
    (due : config.reset.millis.toNat ≤ now % UInt64.size - instant % UInt64.size) :
    ¬ ((fresh config 0).visits key
      (List.replicate (max 1 config.threshold.toNat - 1) ⟨instant, instant, .failed⟩ ++
        [⟨instant, instant, .failed⟩])).Rejects key now := by
  have decided := ((comesAfterOpening_of_failures config key later).stands.arrive now).1
  have counted : (Textbook.ofConfig config 0).reset ≤
      (Textbook.ofConfig config 0).elapsed instant now := due
  rw [Textbook.arrive_of_due counted] at decided
  intro rejected
  cases rejected.symm.trans decided

/-! ### What is waited for -/

/-- On whole milliseconds a reset time is waited for exactly if it is a whole number of milliseconds
that fits in 64 bits. Of any other the breaker counts less than it is: a circuit opens at once,
somebody comes when that much has been counted, and is let through too early. -/
theorem honoursReset_iff (config : BreakerConfig) :
    HonoursReset config ↔ ∃ millis < UInt64.size, config.reset = .ofMillis millis := by
  constructor
  · intro honours
    have comes := comesAfterOpening_of_failures config "a" (Nat.zero_le config.reset.millis.toNat)
    have fits := config.reset.millis.toNat_lt
    refine ⟨config.reset.millis.toNat, fits, ?_⟩
    by_contra lost
    have counted : config.reset.millis.toNat ≤ config.reset.nanoseconds / 1000000 := by
      rw [Duration.toNat_millis]
      exact Nat.mod_le _ _
    have short : config.reset.millis.toNat * 1000000 ≠ config.reset.nanoseconds := by
      intro same
      exact lost (congrArg Duration.mk same.symm)
    have early : (Duration.ofMillis (config.reset.millis.toNat - 0)).nanoseconds <
        config.reset.nanoseconds := by
      simp only [Duration.ofMillis]
      omega
    have rejected := honours 0 "a" _ _ [] _ comes early
    refine not_rejects_of_due config "a" (Nat.zero_le _) ?_ rejected
    rw [Nat.mod_eq_of_lt fits]
    exact Nat.le_refl _
  · rintro ⟨millis, fits, whole⟩ origin key before opening between last comes early
    have counted : config.reset.millis.toNat = millis :=
      Circuits.resetMillis_eq { config } millis whole fits
    apply comes.rejects_of_counted
    have onwards := (comes.orderly.settled_le last (List.mem_append_right _ List.mem_cons_self)).1
    rw [whole] at early
    simp only [Duration.ofMillis] at early
    omega

/-- On a finer clock what comes after an opening comes after it on the clock of the breaker, since
cutting the instants keeps their order. -/
theorem comesAfterOpening_inMillis (orderly : Orderly 0 (before ++ opening :: (between ++ [last])))
    (opens : (((fresh config 0).visits key (before.map Visit.inMillis)).reception key
      opening.inMillis).Opens) :
    ComesAfterOpening config 0 key (before.map Visit.inMillis) opening.inMillis
      (between.map Visit.inMillis) last.inMillis := by
  refine ⟨?_, opens⟩
  have inOrder := orderly.inMillis
  simpa using inOrder

/-- On a finer clock a reset time is waited for until a millisecond is left of what the breaker
counts of it. That millisecond may be lost when the instant of the opening is cut. -/
theorem rejects_finely (orderly : Orderly 0 (before ++ opening :: (between ++ [last])))
    (opens : (((fresh config 0).visits key (before.map Visit.inMillis)).reception key
      opening.inMillis).Opens)
    (early : last.arrival + 1000000 ≤ opening.settled + config.reset.millis.toNat * 1000000) :
    ((fresh config 0).visits key ((before ++ opening :: between).map Visit.inMillis)).Rejects key
      last.inMillis.arrival := by
  have comes := comesAfterOpening_inMillis orderly opens
  rw [List.map_append, List.map_cons]
  apply comes.rejects_of_counted
  simp only [Visit.inMillis]
  omega

/-- On nanoseconds no reset time is waited for to its end but the one of no length. A circuit that
opens at the end of a millisecond counts the next millisecond as passed when it has just begun, and
whoever comes then is let through. -/
theorem honoursResetFinely_iff (config : BreakerConfig) :
    HonoursResetFinely config ↔ config.reset.nanoseconds = 0 := by
  constructor
  · intro honours
    by_contra some'
    obtain ⟨counted, same⟩ : ∃ counted, config.reset.millis.toNat = counted := ⟨_, rfl⟩
    have fits : counted < UInt64.size := same ▸ config.reset.millis.toNat_lt
    have within : counted * 1000000 ≤ config.reset.nanoseconds := by
      have cut : counted ≤ config.reset.nanoseconds / 1000000 := by
        rw [← same, Duration.toNat_millis]
        exact Nat.mod_le _ _
      omega
    obtain ⟨now, later, early, shown⟩ : ∃ now, 999999 ≤ now ∧
        now - 999999 < config.reset.nanoseconds ∧ now / 1000000 = counted :=
      ⟨max 999999 (counted * 1000000), by omega, by omega, by omega⟩
    have comes := comesAfterOpening_of_failures config "a" (Nat.zero_le counted)
    have rejected := honours "a"
      (List.replicate (max 1 config.threshold.toNat - 1) ⟨999999, 999999, .failed⟩)
      ⟨999999, 999999, .failed⟩ [] ⟨now, now, .ignored⟩
      (orderly_of_failures later _ (Nat.zero_le _))
      (by simpa [Visit.inMillis] using comes.opens) early
    simp only [List.map_append, List.map_replicate, List.map_cons, List.map_nil, Visit.inMillis,
      shown] at rejected
    refine not_rejects_of_due config "a" (Nat.zero_le counted) ?_ rejected
    rw [Nat.mod_eq_of_lt fits, same]
    exact Nat.le_refl _
  · intro none' key before opening between last _ _ early
    omega

/-- Of two reset times that fit, the longer one is not counted as the shorter. Without the bound it
may be: what wraps around can come out as nothing. -/
theorem millis_le_of_fits {short long : Duration} (longer : short.nanoseconds ≤ long.nanoseconds)
    (fits : long.nanoseconds < UInt64.size * 1000000) : short.millis.toNat ≤ long.millis.toNat := by
  rw [Duration.toNat_millis, Duration.toNat_millis, Nat.mod_eq_of_lt, Nat.mod_eq_of_lt]
  · exact Nat.div_le_div_right longer
  · exact Nat.div_lt_of_lt_mul (by omega)
  · exact Nat.div_lt_of_lt_mul (by omega)

/-- With a longer reset time, as long as it fits, the first probe of a run comes no earlier. Up to
it the two circuits have seen the same. -/
theorem probes_of_longer_reset {short long : BreakerConfig}
    (threshold : long.threshold = short.threshold)
    (longer : short.reset.nanoseconds ≤ long.reset.nanoseconds)
    (fits : long.reset.nanoseconds < UInt64.size * 1000000) {vs : List Visit} {n : Nat}
    (probes : Probes ((fresh long origin).log key vs) n) :
    ∃ m ≤ n, Probes ((fresh short origin).log key vs) m := by
  obtain ⟨-, logged⟩ := (stands_made key short origin).visits vs
  obtain ⟨-, loggedLong⟩ := (stands_made key long origin).visits vs
  rw [loggedLong] at probes
  rw [logged]
  have counted : (Textbook.ofConfig long origin).threshold =
      (Textbook.ofConfig short origin).threshold :=
    congrArg UInt32.toNat threshold
  exact Textbook.probes_of_longer counted rfl (millis_le_of_fits longer fits) (by simp) probes

/-- How far a reset time is waited for, whatever it is and whatever the threshold.

On whole milliseconds whoever comes before it has passed since the circuit opened is rejected, in
all runs of attempts that do not overlap, exactly if it is a whole number of milliseconds that fits
in 64 bits. On a finer clock this is so of no reset time at all, but one is waited for until a
millisecond is left of its whole milliseconds, modulo 64 bits. A longer reset time that fits never
lets the first probe of a run through earlier. Who is rejected is answered by the decorator alone,
whatever the rest of the chain.

Proof: after an opening the automaton is open since the instant of the opening, and rejects until
what it counts has come to what it counts of the reset time. What is counted is never more than what
has passed, so a reset time that is counted in full is waited for. One that is not has a run that
comes between the two, made of as many failures as the threshold asks for and one visit more. -/
theorem honours_reset_iff_whole (config : BreakerConfig) :
    (HonoursReset config ↔ ∃ millis < UInt64.size, config.reset = .ofMillis millis) ∧
    (HonoursResetFinely config ↔ config.reset.nanoseconds = 0) ∧
    (∀ key before opening between last, Orderly 0 (before ++ opening :: (between ++ [last])) →
      (((fresh config 0).visits key (before.map Visit.inMillis)).reception key
        opening.inMillis).Opens →
      last.arrival + 1000000 ≤ opening.settled +
        config.reset.nanoseconds / 1000000 % UInt64.size * 1000000 →
      ((fresh config 0).visits key ((before ++ opening :: between).map Visit.inMillis)).Rejects key
        last.inMillis.arrival) ∧
    (∀ long : BreakerConfig, long.threshold = config.threshold →
      config.reset.nanoseconds ≤ long.reset.nanoseconds →
      long.reset.nanoseconds < UInt64.size * 1000000 → ∀ origin key vs n,
      Probes ((fresh long origin).log key vs) n →
        ∃ m ≤ n, Probes ((fresh config origin).log key vs) m) ∧
    (∀ origin key vs (inv : Invocation) span slot rest token (s : State), inv.context.key = key →
      s.circuitsAt slot = ((fresh config origin).visits key vs).circuits →
      ((fresh config origin).visits key vs).Rejects key s.now →
        inv.enter span (.circuitBreaker slot :: rest) token s =
          ((s.updateCircuits slot (·.arrive key s.now)).emit span
            ⟨.debug, "circuit open, attempt rejected", inv.serviceAndKey⟩,
            .done (.error (.routing (.circuitOpen inv.context.service key))))) := by
  refine ⟨honoursReset_iff config, honoursResetFinely_iff config, ?_, ?_, ?_⟩
  · intro key before opening between last orderly opens early
    rw [← Duration.toNat_millis] at early
    exact rejects_finely orderly opens early
  · intro long threshold longer fits origin key vs n probes
    exact probes_of_longer_reset threshold longer fits probes
  · rintro origin key vs inv span slot rest token s rfl circuits rejected
    exact inv.enter_of_rejected span slot rest token s (by rw [circuits]; exact rejected)

/-- A circuit that opens for a second still rejects in its last millisecond. -/
theorem one_strike_waits_for_a_second :
    ComesAfterOpening oneStrike 0 "a" [] ⟨0, 0, .failed⟩ [] ⟨999, 999, .succeeded⟩ ∧
      ((fresh oneStrike 0).visits "a" [⟨0, 0, .failed⟩]).Rejects "a" 999 := by
  have comes : ComesAfterOpening oneStrike 0 "a" [] ⟨0, 0, .failed⟩ [] ⟨999, 999, .succeeded⟩ :=
    ⟨by simp [Orderly], by simp only [Reception.Opens]; decide⟩
  have honours := (honours_reset_iff_whole oneStrike).1.mpr ⟨1000, by decide, rfl⟩
  refine ⟨comes, honours 0 "a" [] ⟨0, 0, .failed⟩ [] ⟨999, 999, .succeeded⟩ comes ?_⟩
  simp [oneStrike, Duration.ofMillis]

/-- A millisecond and a half is over after one millisecond. A reset time that is raised from a
second to 2^64 milliseconds is over at once, and what was rejected is let through. In both cases an
attempt reaches the service that the configuration holds back. -/
theorem lost_reset_time_admits_early :
    ComesAfterOpening { threshold := 1, reset := ⟨1500000⟩ } 0 "a" [] ⟨0, 0, .failed⟩ []
        ⟨1, 1, .succeeded⟩ ∧
      (Duration.ofMillis (1 - 0)).nanoseconds < 1500000 ∧
      ¬ ((fresh { threshold := 1, reset := ⟨1500000⟩ } 0).visits "a"
        [⟨0, 0, .failed⟩]).Rejects "a" 1 ∧
      ¬ HonoursReset { threshold := 1, reset := ⟨1500000⟩ } ∧
      ((fresh oneStrike 0).visits "a" [⟨0, 0, .failed⟩]).Rejects "a" 1 ∧
      ¬ ((fresh { threshold := 1, reset := .ofMillis UInt64.size } 0).visits "a"
        [⟨0, 0, .failed⟩]).Rejects "a" 1 := by
  have comes : ComesAfterOpening { threshold := 1, reset := ⟨1500000⟩ } 0 "a" [] ⟨0, 0, .failed⟩ []
      ⟨1, 1, .succeeded⟩ := ⟨by simp [Orderly], by simp only [Reception.Opens]; decide⟩
  have admitted : ¬ ((fresh { threshold := 1, reset := ⟨1500000⟩ } 0).visits "a"
      [⟨0, 0, .failed⟩]).Rejects "a" 1 := by decide
  have early : (Duration.ofMillis (1 - 0)).nanoseconds < 1500000 := by simp [Duration.ofMillis]
  refine ⟨comes, early, admitted, ?_, by decide, by decide⟩
  intro honours
  apply admitted
  apply honours 0 "a" [] ⟨0, 0, .failed⟩ [] ⟨1, 1, .succeeded⟩ comes
  simp [Duration.ofMillis]

end Traffic

end TrialRouting
