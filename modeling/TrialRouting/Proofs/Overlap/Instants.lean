import TrialRouting.Proofs.Overlap.Rounds

/-!
# From instant to instant

The clock of a crowd jumps to whatever is due next for any of its calls, that of a call's own run
only to what is due for that call. So the crowd is looked at more often: at an instant that is
none of its own the call is idle, and its own run just waits. At its own instants both clocks
agree.
-/

namespace TrialRouting

/-- Unless a call has ended, something is due for it before long: its start, or the end of its
caller's patience at the latest. -/
theorem Activity.exists_instant_le {router : Router} {a : Activity Call Stage Outcome}
    (goesOn : a.instants router.conduct ≠ []) :
    ∃ t ∈ a.instants router.conduct, t ≤ max a.startAt a.abandonAt := by
  obtain ⟨request, token, start, cancel, abandon, status⟩ := a
  cases status with
  | waiting => exact ⟨start, List.mem_cons_self, Nat.le_max_left ..⟩
  | running stage => exact ⟨abandon, List.mem_cons_self, Nat.le_max_right ..⟩
  | ended instant result => exact absurd rfl goesOn

namespace Schedule

/-! ### What is due next -/

section Next

variable {α σ ρ : Type} {p : Conduct α σ ρ} {as : List (Activity α σ ρ)} {now due : Instant}

theorem nextInstant?_eq_some_iff : nextInstant? p as now = some due ↔
    (∃ a ∈ as, due ∈ a.instants p) ∧ now < due ∧
      ∀ a ∈ as, ∀ t ∈ a.instants p, now < t → due ≤ t := by
  simp only [nextInstant?, List.min?_eq_some_iff, List.mem_filter, List.mem_flatMap,
    decide_eq_true_eq, and_imp, forall_exists_index, and_assoc]
  exact and_congr_right fun _ => and_congr_right fun _ =>
    ⟨fun least a member t there later => least t a member there later,
      fun least t a member there later => least a member t there later⟩

theorem nextInstant?_eq_none_iff : nextInstant? p as now = none ↔
    ∀ a ∈ as, ∀ t ∈ a.instants p, t ≤ now := by
  simp only [nextInstant?, List.min?_eq_none_iff, List.filter_eq_nil_iff, List.mem_flatMap,
    decide_eq_true_eq, Nat.not_lt, forall_exists_index, and_imp]
  exact ⟨fun none' a member t there => none' t a member there,
    fun none' t a member there => none' a member t there⟩

/-- How a run goes on after the rounds of an instant. -/
def onwards (p : Conduct α σ ρ) (more : Nat) (as : List (Activity α σ ρ)) (s : State) :
    State × List (Activity α σ ρ) :=
  match nextInstant? p as s.now with
  | none => (s, as)
  | some due => instants p more as { s with now := due }

/-- What the `n`-th activity writes then. -/
def writtenOnwards (p : Conduct α σ ρ) (n more : Nat) (as : List (Activity α σ ρ)) (s : State) :
    Chronicle :=
  match nextInstant? p as s.now with
  | none => {}
  | some due => writtenInInstants p n more as { s with now := due }

/-- When the clock has moved on, the time left takes fewer instants, since each is a millisecond
later at least. -/
theorem enough_after {last now due more : Nat} (enough : last ≤ now + (more + 1))
    (later : now < due) : last ≤ due + more := by
  omega

/-- There are instants left to move the clock on while there is time. So a run does not stop
early. -/
theorem exists_more {last now due more : Nat} (enough : last ≤ now + more) (later : now < due)
    (inTime : due ≤ last) : ∃ m, more = m + 1 :=
  Nat.exists_eq_add_one_of_ne_zero (by omega)

/-- A run lasts until each of its activities is to be abandoned, and so until each has ended. -/
theorem le_last {a : Activity α σ ρ} (member : a ∈ as) {now now' : Instant} (same : now' = now) :
    max a.startAt a.abandonAt ≤
      now' + ((as.map fun a => max a.startAt a.abandonAt).max?.getD now - now) := by
  subst same
  have listed : max a.startAt a.abandonAt ∈ as.map fun a => max a.startAt a.abandonAt :=
    List.mem_map_of_mem (f := fun a => max a.startAt a.abandonAt) member
  exact Nat.le_trans (List.le_max?_getD_of_mem listed)
    (Nat.sub_le_iff_le_add'.mp (Nat.le_refl _))

end Next

variable {router : Router} {n : Nat} {as : List (Activity Call Stage Outcome)}
  {a a' b b' : Activity Call Stage Outcome} {s s' t t' : State}

/-- The clock moves on in both runs. What a call is matched by does not depend on it. -/
theorem Amid.wait (amid : Amid router n as a b s t) (now now' : Instant) :
    Amid router n as a b { s with now } { t with now := now' } := by
  obtain ⟨before, after, R, owner, crowd, place, steady, first, last, agree⟩ := amid
  exact ⟨before, after, R, owner, crowd, place, ⟨steady.tokens, steady.recipes, steady.mode⟩,
    ⟨first.isAt, first.other⟩, ⟨last.isAt, last.other⟩, { agree with }⟩

/-- A crowd and the run of one of its calls have come to `x` and `y`, where the call is the same,
and so is what has been written of it. -/
def Agree (router : Router) (n : Nat) (x y : State × List (Activity Call Stage Outcome))
    (c d : Chronicle) : Prop :=
  ∃ a b, Amid router n x.2 a b x.1 y.1 ∧ y.2 = [b] ∧ c.anonymous = d.anonymous

/-- At the same instant the rounds of both runs lead to where the call is idle. The crowd may have
more rounds than the call's own run. -/
theorem instants_step (plain : ∀ d ∈ router.pipeline, d.IsPlain)
    (amid : Amid router n as a b s t) (clock : s.now = t.now) :
    ∃ as' a' b' s' t' c d, Amid router n as' a' b' s' t' ∧ a'.IsIdle router s' ∧ a.Continues a' ∧
      s'.now = s.now ∧ t'.now = t.now ∧ c.anonymous = d.anonymous ∧
      (∀ more, instants router.conduct (more + 1) as s = onwards router.conduct more as' s' ∧
        writtenInInstants router.conduct n (more + 1) as s =
          c ++ writtenOnwards router.conduct n more as' s') ∧
      ∀ few, instants router.conduct (few + 1) [b] t = onwards router.conduct few [b'] t' ∧
        writtenInInstants router.conduct 0 (few + 1) [b] t =
          d ++ writtenOnwards router.conduct 0 few [b'] t' := by
  obtain ⟨a', b', pace, idle⟩ := rounds_amid plain amid clock
    (Nat.lt_add_right _ (Nat.lt_succ_self as.length))
  refine ⟨_, a', b', _, _, _, _, pace.amid, idle, pace.continues, pace.goesOn.now, pace.clock,
    pace.written, fun more => ⟨rfl, rfl⟩, fun few => ?_⟩
  rw [← pace.alone]
  exact ⟨rfl, rfl⟩

/-- Nothing is due any more for a call that has ended, so its own run is over, and a crowd that
stops as well agrees with it. -/
theorem Amid.agree_of_ended (amid : Amid router n as a b s t)
    (ended : a.instants router.conduct = []) (few : Nat) :
    Agree router n (s, as) (onwards router.conduct few [b] t) {}
      (writtenOnwards router.conduct 0 few [b] t) := by
  obtain ⟨R, alike⟩ := amid.alike
  have done : nextInstant? router.conduct [b] t.now = none := by
    refine nextInstant?_eq_none_iff.mpr fun b' member due there => ?_
    rw [List.mem_singleton.mp member, ← alike.instants_eq router, ended] at there
    exact absurd there List.not_mem_nil
  simp only [onwards, writtenOnwards, done]
  exact ⟨a, b, amid, rfl, rfl⟩

/-- The clock of a call's own run jumps to what is due next for the call, past all that is due for
others only. -/
theorem nextInstant?_of_least {due now : Instant} (due_mem : due ∈ b.instants router.conduct)
    (later : now < due) (least : ∀ t ∈ b.instants router.conduct, due ≤ t) :
    nextInstant? router.conduct [b] now = some due := by
  refine nextInstant?_eq_some_iff.mpr
    ⟨⟨b, List.mem_singleton_self b, due_mem⟩, later, fun a member t there _ => ?_⟩
  rw [List.mem_singleton.mp member] at there
  exact least t there

/-- With so many instants left until the last one, a call in a crowd that is idle comes to the same
end, and writes the same until then, as in its own run, which waits meanwhile. -/
def KeepsUp (router : Router) (n last more : Nat) : Prop :=
  ∀ {as : List (Activity Call Stage Outcome)} {a b : Activity Call Stage Outcome} {s t : State}
    {few : Nat}, Amid router n as a b s t → a.IsIdle router s → t.now ≤ s.now →
      max a.startAt a.abandonAt ≤ last → last ≤ s.now + more → last ≤ t.now + few →
        Agree router n (onwards router.conduct more as s) (onwards router.conduct few [b] t)
          (writtenOnwards router.conduct n more as s) (writtenOnwards router.conduct 0 few [b] t)

variable {last more few : Nat} {due : Instant}

/-- With no instants left a call that is idle has ended, since its caller's patience is over. -/
theorem keepsUp_zero (router : Router) (n last : Nat) : KeepsUp router n last 0 := by
  intro as a b s t few amid idle earlier bound enough enoughToo
  have ended : a.instants router.conduct = [] := by
    by_contra goesOn
    obtain ⟨due, there, soon⟩ := Activity.exists_instant_le goesOn
    have later : s.now < due := idle.ahead due there
    exact absurd (Nat.le_trans soon (Nat.le_trans bound enough)) (Nat.not_le.mpr later)
  cases next : nextInstant? router.conduct as s.now with
  | none =>
    simp only [onwards, writtenOnwards, next]
    exact amid.agree_of_ended ended few
  | some due =>
    simp only [onwards, writtenOnwards, next]
    exact (amid.wait due t.now).agree_of_ended ended few

/-- At an instant of its own a call has its turn in both runs. Both clocks show the same time
then. -/
theorem KeepsUp.own (keepsUp : KeepsUp router n last more)
    (plain : ∀ d ∈ router.pipeline, d.IsPlain) (amid : Amid router n as a b s t)
    (earlier : t.now ≤ s.now) (bound : max a.startAt a.abandonAt ≤ last)
    (enough : last ≤ s.now + (more + 1)) (enoughToo : last ≤ t.now + few) (later : s.now < due)
    (own : due ∈ a.instants router.conduct) (least : ∀ x ∈ a.instants router.conduct, due ≤ x) :
    Agree router n (instants router.conduct (more + 1) as { s with now := due })
      (onwards router.conduct few [b] t)
      (writtenInInstants router.conduct n (more + 1) as { s with now := due })
      (writtenOnwards router.conduct 0 few [b] t) := by
  obtain ⟨R, alike⟩ := amid.alike
  have same := alike.instants_eq router
  obtain ⟨x, there, soon⟩ := Activity.exists_instant_le (List.ne_nil_of_mem own)
  have inTime : due ≤ last := Nat.le_trans (least x there) (Nat.le_trans soon bound)
  have laterToo : t.now < due := Nat.lt_of_le_of_lt earlier later
  have alone : nextInstant? router.conduct [b] t.now = some due :=
    nextInstant?_of_least (same ▸ own) laterToo (same ▸ least)
  obtain ⟨few, rfl⟩ := exists_more enoughToo laterToo inTime
  obtain ⟨as', a', b', s', t', c, d, amid', idle', continues, clock, clock', written, crowd,
    ownRun⟩ := instants_step plain (amid.wait due due) rfl
  have now : s'.now = due := clock
  have now' : t'.now = due := clock'
  simp only [onwards, writtenOnwards, alone]
  rw [(crowd more).1, (crowd more).2, (ownRun few).1, (ownRun few).2]
  obtain ⟨a'', b'', amid'', single, writtenToo⟩ := keepsUp amid' idle'
    (Nat.le_of_eq (now'.trans now.symm)) (by rwa [continues.startAt, continues.abandonAt])
    (now ▸ enough_after enough later) (now' ▸ enough_after enoughToo laterToo)
  refine ⟨a'', b'', amid'', single, ?_⟩
  rw [Chronicle.anonymous_append, Chronicle.anonymous_append, written, writtenToo]

/-- At an instant that is none of its own a call is idle while others have their turns. Its own run
does not move. -/
theorem KeepsUp.other (keepsUp : KeepsUp router n last more)
    (plain : ∀ d ∈ router.pipeline, d.IsPlain) (amid : Amid router n as a b s t)
    (idle : a.IsIdle router s) (earlier : t.now ≤ s.now)
    (bound : max a.startAt a.abandonAt ≤ last) (enough : last ≤ s.now + (more + 1))
    (enoughToo : last ≤ t.now + few) (later : s.now < due)
    (ahead : ∀ x ∈ a.instants router.conduct, due < x) :
    Agree router n (instants router.conduct (more + 1) as { s with now := due })
      (onwards router.conduct few [b] t)
      (writtenInInstants router.conduct n (more + 1) as { s with now := due })
      (writtenOnwards router.conduct 0 few [b] t) := by
  obtain ⟨amid', idle', goesOn, nothing⟩ := rounds_idle plain (as.length + 1)
    (amid.wait due t.now) ⟨ahead, idle.free⟩
  have now : (rounds router.conduct (as.length + 1) as { s with now := due }).1.now = due :=
    goesOn.now
  obtain ⟨a', b', amid'', single, written⟩ := keepsUp amid' idle'
    (by rw [now]; exact Nat.le_trans earlier (Nat.le_of_lt later)) bound
    (by rw [now]; exact enough_after enough later) enoughToo
  refine ⟨a', b', amid'', single, ?_⟩
  simp only [writtenInInstants, nothing, Chronicle.empty_append]
  exact written

/-- A call in a crowd keeps up with its own run, by induction on the instants that are left to the
crowd. -/
theorem keepsUp (plain : ∀ d ∈ router.pipeline, d.IsPlain) (n last more : Nat) :
    KeepsUp router n last more := by
  induction more with
  | zero => exact keepsUp_zero router n last
  | succ more ih =>
    intro as a b s t few amid idle earlier bound enough enoughToo
    cases next : nextInstant? router.conduct as s.now with
    | none =>
      have ended : a.instants router.conduct = [] := by
        refine List.eq_nil_iff_forall_not_mem.mpr fun due there => ?_
        have none' := nextInstant?_eq_none_iff.mp next a amid.mem due there
        exact absurd (idle.ahead due there) (Nat.not_lt.mpr none')
      simp only [onwards, writtenOnwards, next]
      exact amid.agree_of_ended ended few
    | some due =>
      obtain ⟨-, later, least⟩ := nextInstant?_eq_some_iff.mp next
      have first (x : Instant) (there : x ∈ a.instants router.conduct) : due ≤ x :=
        least a amid.mem x there (idle.ahead x there)
      by_cases own : due ∈ a.instants router.conduct
      · have agree := ih.own plain amid earlier bound enough enoughToo later own first
        simpa only [onwards, writtenOnwards, next] using agree
      · have ahead (x : Instant) (there : x ∈ a.instants router.conduct) : due < x := by
          refine Nat.lt_of_le_of_ne (first x there) ?_
          rintro rfl
          exact own there
        have agree := ih.other plain amid idle earlier bound enough enoughToo later ahead
        simpa only [onwards, writtenOnwards, next] using agree

/-- In a crowd a call comes to the same end, and writes the same until then, as in a run of its own.
Both runs begin at the same instant, and neither stops before the call has ended. -/
theorem run_amid (plain : ∀ d ∈ router.pipeline, d.IsPlain) (amid : Amid router n as a b s t)
    (clock : s.now = t.now) :
    Agree router n (run router.conduct as s) (run router.conduct [b] t)
      (written router.conduct n as s) (written router.conduct 0 [b] t) := by
  obtain ⟨R, alike⟩ := amid.alike
  obtain ⟨as', a', b', s', t', c, d, amid', idle, continues, now, now', written, crowd, ownRun⟩ :=
    instants_step plain amid clock
  have enough := le_last amid.mem now
  have enoughToo := le_last (List.mem_singleton_self b) now'
  rw [← alike.startAt, ← alike.abandonAt] at enoughToo
  unfold run Schedule.written
  rw [(crowd _).1, (crowd _).2, (ownRun _).1, (ownRun _).2]
  obtain ⟨a'', b'', amid'', single, writtenToo⟩ := keepsUp plain n _ _ amid' idle
    (Nat.le_of_eq (now'.trans (clock.symm.trans now.symm)))
    (Nat.le_of_eq (by rw [continues.startAt, continues.abandonAt]))
    enough enoughToo
  refine ⟨a'', b'', amid'', single, ?_⟩
  rw [Chronicle.anonymous_append, Chronicle.anonymous_append, written, writtenToo]

end Schedule

end TrialRouting
