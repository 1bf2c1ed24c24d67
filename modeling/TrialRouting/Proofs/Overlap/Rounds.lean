import TrialRouting.Proofs.Overlap.Crowds

/-!
# Rounds of a crowd

At an instant there are rounds until no more tokens get cancelled. A crowd may need more of them
than one of its calls does in a run of its own, but the ones it has in excess are rounds in which
that call is idle: after a round in which its caller's token has not been cancelled it waits for
what lies ahead.
-/

namespace TrialRouting

namespace Schedule

variable {router : Router} {n : Nat} {as as' : List (Activity Call Stage Outcome)}
  {a a' a'' b b' : Activity Call Stage Outcome} {s s' t t' : State}

/-! ### How many have been cancelled -/

theorem cancelledCount_eq (as : List (Activity Call Stage Outcome)) (s : State) :
    cancelledCount as s = ((as.map (·.token)).filter s.isCancelled).length := by
  rw [List.filter_map, List.length_map]
  rfl

theorem cancelledCount_le (as : List (Activity Call Stage Outcome)) (s : State) :
    cancelledCount as s ≤ as.length :=
  List.length_filter_le ..

/-- If no more tokens are cancelled than before, then none is that was not, since none is ever set
free. -/
theorem isCancelled_of_count (tokens : as'.map (·.token) = as.map (·.token)) (goesOn : s.GoesOn s')
    (still : ¬ cancelledCount as s < cancelledCount as' s') (member : a ∈ as)
    (cancelled : s'.isCancelled a.token = true) : s.isCancelled a.token = true := by
  rw [cancelledCount_eq, cancelledCount_eq, tokens, Nat.not_lt] at still
  have fewer : ((as.map (·.token)).filter s.isCancelled).Sublist
      ((as.map (·.token)).filter s'.isCancelled) :=
    List.monotone_filter_right _ fun _ before => goesOn.isCancelled before
  have same := fewer.eq_of_length_le still
  have now : a.token ∈ (as.map (·.token)).filter s'.isCancelled :=
    List.mem_filter.mpr ⟨List.mem_map_of_mem member, cancelled⟩
  exact (List.mem_filter.mp (same ▸ now)).2

theorem cancelledCount_lt_iff_of_singleton :
    cancelledCount [b] t < cancelledCount [b'] t' ↔
      t.isCancelled b.token = false ∧ t'.isCancelled b'.token = true := by
  rw [cancelledCount_eq, cancelledCount_eq]
  cases before : t.isCancelled b.token <;> cases after : t'.isCancelled b'.token <;>
    simp [before, after]

/-! ### What lasts while others are at work -/

/-- A call that has settled, and is not to be cancelled from outside for the time being. -/
structure IsThrough (s₀ : State) (a : Activity Call Stage Outcome) (s : State) : Prop where
  settled : a.HasSettled s₀ s
  later : ∀ stage, a.status = .running stage → ∀ t, a.cancelAt = some t → s.now < t

theorem lasts_true : Lasts fun _ _ => True :=
  fun _ _ _ _ => trivial

theorem lasts_hasSettled (s₀ : State) : Lasts fun a s => a.HasSettled s₀ s :=
  fun agree settled goesOn spares => agree.settled_of_spared settled goesOn spares

theorem lasts_isThrough (s₀ : State) : Lasts (IsThrough s₀) :=
  fun agree through goesOn spares => ⟨agree.settled_of_spared through.settled goesOn spares,
    fun stage running t cancels => goesOn.now ▸ through.later stage running t cancels⟩

/-! ### One round -/

/-- From the states `s` and `t` a crowd and the run of one of its calls have come to `x` and `y`,
where the call is `a'` and `b'`, and what has been written of it is `c` and `d`. -/
structure KeepsPace (router : Router) (n : Nat) (a : Activity Call Stage Outcome) (s t : State)
    (x y : State × List (Activity Call Stage Outcome)) (c d : Chronicle)
    (a' b' : Activity Call Stage Outcome) : Prop where
  amid : Amid router n x.2 a' b' x.1 y.1
  alone : y.2 = [b']
  continues : a.Continues a'
  goesOn : s.GoesOn x.1
  clock : y.1.now = t.now
  written : c.anonymous = d.anonymous

theorem KeepsPace.trans {x y x' y' : State × List (Activity Call Stage Outcome)}
    {c d c' d' : Chronicle} (first : KeepsPace router n a s t x y c d a' b)
    (second : KeepsPace router n a' x.1 y.1 x' y' c' d' a'' b') :
    KeepsPace router n a s t x' y' (c ++ c') (d ++ d') a'' b' where
  amid := second.amid
  alone := second.alone
  continues := {
    request := second.continues.request.trans first.continues.request
    token := second.continues.token.trans first.continues.token
    startAt := second.continues.startAt.trans first.continues.startAt
    abandonAt := second.continues.abandonAt.trans first.continues.abandonAt }
  goesOn := first.goesOn.trans second.goesOn
  clock := second.clock.trans first.clock
  written := by
    rw [Chronicle.anonymous_append, Chronicle.anonymous_append, first.written, second.written]

/-- A round keeps the calls' tokens, and the calls in their places. -/
theorem round_tokens (plain : ∀ d ∈ router.pipeline, d.IsPlain)
    (as : List (Activity Call Stage Outcome)) (s : State) :
    (round router.conduct as s).2.map (·.token) = as.map (·.token) :=
  (each_tokens router.does_applyCancel _ _).trans (each_tokens (Router.does_turn plain) as s)

/-- A round is the same for a call in a crowd as in its own run, and gets it through. First come the
turns of all, and then the cancellations. -/
theorem round_amid (plain : ∀ d ∈ router.pipeline, d.IsPlain)
    (amid : Amid router n as a b s t) (clock : s.now = t.now) :
    ∃ a' b', KeepsPace router n a s t (round router.conduct as s) (round router.conduct [b] t)
        (writtenInRound router.conduct n as s) (writtenInRound router.conduct 0 [b] t) a' b' ∧
      IsThrough s a' (round router.conduct as s).1 := by
  obtain ⟨a₁, amid₁, continues₁, settled, goesOn₁, clock₁, written₁⟩ :=
    each_amid (Router.does_turn plain) amid clock lasts_true (lasts_hasSettled s) trivial
      fun goesOn _ agree =>
        Activity.HasSettled.since (Activity.settled_of_turn plain agree.alike fun pair =>
          (agree.tokens.issued pair).1) goesOn.kept
  obtain ⟨a₂, amid₂, continues₂, through, goesOn₂, clock₂, written₂⟩ :=
    each_amid router.does_applyCancel amid₁ (goesOn₁.now.trans (clock.trans clock₁.symm))
      (lasts_hasSettled s) (lasts_isThrough s) settled fun goesOn settled agree =>
        have through := settled.applyCancel (goesOn₁.trans goesOn).kept agree.caller
        ⟨through.1, through.2⟩
  have turned : KeepsPace router n a s t (each (fun a s => a.turn router.conduct s) as s)
      (each (fun a s => a.turn router.conduct s) [b] t) _ _ a₁ _ :=
    ⟨amid₁, rfl, continues₁, goesOn₁, clock₁, written₁⟩
  exact ⟨a₂, _, turned.trans ⟨amid₂, rfl, continues₂, goesOn₂, clock₂, written₂⟩, through⟩

/-- A call is idle after a round that has not cancelled its token. Whatever it waits for lies ahead,
and its attempt is free. -/
theorem KeepsPace.isIdle {x y : State × List (Activity Call Stage Outcome)} {c d : Chronicle}
    (pace : KeepsPace router n a s t x y c d a' b') (amid : Amid router n as a b s t)
    (through : IsThrough s a' x.1)
    (still : x.1.isCancelled a'.token = true → s.isCancelled a.token = true) :
    a'.IsIdle router x.1 := by
  refine through.settled.isIdle through.later fun after => ?_
  rw [pace.continues.request]
  exact (amid.isCancelled_iff s).mp (still ((pace.amid.isCancelled_iff x.1).mpr after))

/-- A round does nothing for an idle call, whatever it does for others. -/
theorem round_idle (plain : ∀ d ∈ router.pipeline, d.IsPlain) (amid : Amid router n as a b s t)
    (idle : a.IsIdle router s) :
    Amid router n (round router.conduct as s).2 a b (round router.conduct as s).1 t ∧
      a.IsIdle router (round router.conduct as s).1 ∧ s.GoesOn (round router.conduct as s).1 ∧
      writtenInRound router.conduct n as s = {} := by
  obtain ⟨R, alike⟩ := amid.alike
  obtain ⟨amid₁, idle₁, goesOn₁, written₁⟩ :=
    each_idle (Router.does_turn plain) amid idle fun y idle => Activity.turn_of_idle alike idle
  obtain ⟨amid₂, idle₂, goesOn₂, written₂⟩ :=
    each_idle router.does_applyCancel amid₁ idle₁ fun y idle => Activity.applyCancel_of_idle idle
  refine ⟨amid₂, idle₂, goesOn₁.trans goesOn₂, ?_⟩
  rw [writtenInRound, written₁, written₂]
  rfl

/-! ### The rounds of an instant -/

/-- Rounds do nothing for an idle call, by induction on their number. -/
theorem rounds_idle (plain : ∀ d ∈ router.pipeline, d.IsPlain) (more : Nat)
    (amid : Amid router n as a b s t) (idle : a.IsIdle router s) :
    Amid router n (rounds router.conduct more as s).2 a b (rounds router.conduct more as s).1 t ∧
      a.IsIdle router (rounds router.conduct more as s).1 ∧
      s.GoesOn (rounds router.conduct more as s).1 ∧
      writtenInRounds router.conduct n more as s = {} := by
  induction more generalizing as s with
  | zero => exact ⟨amid, idle, .refl amid.steady.tokens, rfl⟩
  | succ more ih =>
    obtain ⟨amid₁, idle₁, goesOn₁, written₁⟩ := round_idle plain amid idle
    simp only [rounds, writtenInRounds, written₁, Chronicle.empty_append]
    split
    · obtain ⟨amid₂, idle₂, goesOn₂, written₂⟩ := ih amid₁ idle₁
      exact ⟨amid₂, idle₂, goesOn₁.trans goesOn₂, written₂⟩
    · exact ⟨amid₁, idle₁, goesOn₁, rfl⟩

/-- If a round does not cancel the token of a call, its own run needs no more rounds, and in a crowd
it is idle in those that follow. -/
theorem rounds_of_still (plain : ∀ d ∈ router.pipeline, d.IsPlain)
    (amid : Amid router n as a b s t)
    (pace : KeepsPace router n a s t (round router.conduct as s) (round router.conduct [b] t)
      (writtenInRound router.conduct n as s) (writtenInRound router.conduct 0 [b] t) a' b')
    (through : IsThrough s a' (round router.conduct as s).1)
    (still : (round router.conduct as s).1.isCancelled a'.token = true →
      s.isCancelled a.token = true) (more few : Nat) :
    KeepsPace router n a s t (rounds router.conduct (more + 1) as s)
        (rounds router.conduct (few + 1) [b] t) (writtenInRounds router.conduct n (more + 1) as s)
        (writtenInRounds router.conduct 0 (few + 1) [b] t) a' b' ∧
      a'.IsIdle router (rounds router.conduct (more + 1) as s).1 := by
  have idle := pace.isIdle amid through still
  have enough : ¬ cancelledCount [b] t <
      cancelledCount (round router.conduct [b] t).2 (round router.conduct [b] t).1 := by
    rw [pace.alone, cancelledCount_lt_iff_of_singleton, ← amid.isCancelled_eq,
      ← pace.amid.isCancelled_eq]
    rintro ⟨before, after⟩
    rw [still after] at before
    cases before
  simp only [rounds, writtenInRounds, if_neg enough, Chronicle.append_empty]
  split
  · obtain ⟨amid', idle', goesOn, written⟩ := rounds_idle plain more pace.amid idle
    rw [written, Chronicle.append_empty]
    exact ⟨{ pace with amid := amid', goesOn := pace.goesOn.trans goesOn }, idle'⟩
  · rw [Chronicle.append_empty]
    exact ⟨pace, idle⟩

/-- The rounds of an instant are the same for a call in a crowd as in its own run, and leave it
idle. Each but the last cancels the token of another call, so there are enough of them. -/
theorem rounds_amid (plain : ∀ d ∈ router.pipeline, d.IsPlain) {more : Nat}
    (amid : Amid router n as a b s t) (clock : s.now = t.now)
    (enough : as.length < more + cancelledCount as s) :
    ∃ a' b', KeepsPace router n a s t (rounds router.conduct more as s)
        (rounds router.conduct 2 [b] t) (writtenInRounds router.conduct n more as s)
        (writtenInRounds router.conduct 0 2 [b] t) a' b' ∧
      a'.IsIdle router (rounds router.conduct more as s).1 := by
  have count := cancelledCount_le as s
  obtain ⟨more, rfl⟩ := Nat.exists_eq_add_one_of_ne_zero (show more ≠ 0 by omega)
  obtain ⟨a₁, b₁, pace₁, through₁⟩ := round_amid plain amid clock
  by_cases still : (round router.conduct as s).1.isCancelled a₁.token = true →
      s.isCancelled a.token = true
  · exact ⟨a₁, b₁, rounds_of_still plain amid pace₁ through₁ still more 1⟩
  · -- Its token has been cancelled, so both runs go on with another round.
    obtain ⟨after, before⟩ := Classical.not_imp.mp still
    have length : (round router.conduct as s).2.length = as.length := by
      rw [round, length_each, length_each]
    have count₁ := cancelledCount_le (round router.conduct as s).2 (round router.conduct as s).1
    have crowd : cancelledCount as s <
        cancelledCount (round router.conduct as s).2 (round router.conduct as s).1 := by
      by_contra none'
      rw [pace₁.continues.token] at after
      exact before
        (isCancelled_of_count (round_tokens plain as s) pace₁.goesOn none' amid.mem after)
    have alone : cancelledCount [b] t <
        cancelledCount (round router.conduct [b] t).2 (round router.conduct [b] t).1 := by
      rw [pace₁.alone, cancelledCount_lt_iff_of_singleton, ← amid.isCancelled_eq,
        ← pace₁.amid.isCancelled_eq]
      exact ⟨Bool.eq_false_iff.mpr before, after⟩
    obtain ⟨more, rfl⟩ := Nat.exists_eq_add_one_of_ne_zero (show more ≠ 0 by omega)
    obtain ⟨a₂, b₂, pace₂, through₂⟩ := round_amid plain pace₁.amid
      (pace₁.goesOn.now.trans (clock.trans pace₁.clock.symm))
    obtain ⟨pace, idle⟩ := rounds_of_still plain pace₁.amid pace₂ through₂ (fun _ => after) more 0
    rw [← pace₁.alone] at pace
    simp only [rounds, writtenInRounds, if_pos crowd, if_pos alone] at pace idle ⊢
    exact ⟨a₂, b₂, pace₁.trans pace, idle⟩

end Schedule

end TrialRouting
