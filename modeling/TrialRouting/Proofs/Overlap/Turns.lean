import TrialRouting.Proofs.Overlap.Calls
import TrialRouting.Proofs.Overlap.Chronicle

/-!
# Turns of two runs

In two runs that meet at the same time a scheduled call has the same turn, and the same is
written. What a turn leaves behind waits for what lies ahead; unless something has come, or the
turn itself has cancelled the call, a further turn does nothing.
-/

namespace TrialRouting

/-- Statuses of the same call. -/
inductive Status.Alike (R : Pairing) : Status Stage Outcome → Status Stage Outcome → Prop where
  | waiting : Alike R .waiting .waiting
  | running {stage stage' : Stage} (stages : stage.Alike R stage') :
      Alike R (.running stage) (.running stage')
  | ended (instant : Instant) (result : Option Outcome) :
      Alike R (.ended instant result) (.ended instant result)

/-- The same scheduled call in two runs. -/
structure Activity.Alike (R : Pairing) (a a' : Activity Call Stage Outcome) : Prop where
  request : a.request.Alike R a'.request
  token : a.token.Alike R a'.token
  startAt : a.startAt = a'.startAt
  cancelAt : a.cancelAt = a'.cancelAt
  abandonAt : a.abandonAt = a'.abandonAt
  status : a.status.Alike R a'.status

theorem Status.Alike.mono {R R' : Pairing} {status status' : Status Stage Outcome}
    (alike : status.Alike R status') (wider : ∀ {i j}, R i j → R' i j) :
    status.Alike R' status' := by
  cases alike with
  | waiting => exact .waiting
  | running stages => exact .running (stages.mono wider)
  | ended instant result => exact .ended instant result

theorem Status.Alike.of_running {R : Pairing} {stage : Stage} {status : Status Stage Outcome}
    (alike : Status.Alike R (.running stage) status) :
    ∃ stage', status = .running stage' ∧ stage.Alike R stage' := by
  cases alike with
  | running stages => exact ⟨_, rfl, stages⟩

namespace Activity.Alike

variable {R R' : Pairing} {a a' : Activity Call Stage Outcome}

theorem mono (alike : a.Alike R a') (wider : ∀ {i j}, R i j → R' i j) : a.Alike R' a' :=
  { alike with
    request := alike.request.mono wider
    token := alike.token.mono wider
    status := alike.status.mono wider }

/-- Calls that are alike have come to the same ending, if any, and at the same instant. -/
theorem ending_eq (alike : a.Alike R a') : a.ending = a'.ending := by
  obtain ⟨request, token, start, cancel, abandon, status⟩ := a
  obtain ⟨request', token', start', cancel', abandon', status'⟩ := a'
  have same : start = start' := alike.startAt
  have statuses : status.Alike R status' := alike.status
  subst same
  cases statuses <;> rfl

/-- Calls that are alike have to be looked at at the same instants: their start, what they wait for,
and what their callers have arranged. -/
theorem instants_eq (alike : a.Alike R a') (router : Router) :
    a.instants router.conduct = a'.instants router.conduct := by
  obtain ⟨request, token, start, cancel, abandon, status⟩ := a
  obtain ⟨request', token', start', cancel', abandon', status'⟩ := a'
  have starts : start = start' := alike.startAt
  have cancels : cancel = cancel' := alike.cancelAt
  have abandons : abandon = abandon' := alike.abandonAt
  have statuses : status.Alike R status' := alike.status
  subst starts cancels abandons
  cases statuses with
  | waiting => rfl
  | running stages =>
    exact congrArg (fun timers => abandon :: (cancel.toList ++ timers)) stages.timers_eq
  | ended instant result => rfl

/-- The tokens that its attempt looks at stand for others, and so do those above them. So they are
cancelled in both runs or in neither. -/
theorem pair_of_watched (alike : a.Alike R a') {c : Course} {x : Attempt}
    (status : a.status = .running (.attempting c x)) {u : Token} (watched : u ∈ x.watched) {i : Nat}
    (member : i ∈ u.id :: u.above) : ∃ j, R i j := by
  have statuses := alike.status
  rw [status] at statuses
  obtain ⟨stage', -, stages⟩ := statuses.of_running
  obtain ⟨u', tokens⟩ : ∃ u', u.Alike R u' := by
    cases stages with
    | attempting courses attempts =>
      rcases List.mem_cons.mp watched with rfl | worker
      · exact ⟨_, attempts.token⟩
      · exact attempts.flight.worker (Option.mem_toList.mp worker)
  exact tokens.exists_of_mem member

end Activity.Alike

namespace Meeting

variable {m : Meeting} {router : Router} {a a' : Activity Call Stage Outcome} {s t : State}

/-- What is known is held by a scheduled call. -/
theorem Twin.alike_of_known (twin : m.Twin s t) (alike : a.Alike m.known a') :
    a.Alike (m.held s t) a' :=
  alike.mono twin.held_of_known

/-- Turns that have come to the same leave a call where it is in both runs, and abandon it in both
if that is due. -/
theorem Agrees.afterTurn {x y : State × Step Stage Outcome} (turns : m.Agrees Step.Alike x y)
    (alike : a.Alike m.known a') :
    m.Agrees Activity.Alike (a.afterTurn router.conduct x) (a'.afterTurn router.conduct y) := by
  obtain ⟨s, step⟩ := x
  obtain ⟨t, step'⟩ := y
  have twin : m.Twin s t := turns.states
  cases turns.results with
  | finished o =>
    simp only [Activity.afterTurn, twin.clock]
    exact ⟨twin, { twin.alike_of_known alike with status := .ended _ _ }⟩
  | @running stage stage' stages =>
    simp only [Activity.afterTurn, alike.abandonAt, twin.clock]
    split
    · have down : m.Twin (router.abandon stage s) (router.abandon stage' t) :=
        twin.abandonCall stages
      exact ⟨down, { down.alike_of_known alike with
        abandonAt := rfl
        status := .ended _ _ }⟩
    · exact ⟨twin, { twin.alike_of_known alike with
        abandonAt := rfl
        status := .running stages }⟩

/-- The same call has the same turn in both runs, whether it is to start, to be resumed, or has
ended. -/
theorem Twin.turn (twin : m.Twin s t) (plain : ∀ d ∈ router.pipeline, d.IsPlain)
    (fixed : m.here.backdrop.selector.IsFixed router.registration) (alike : a.Alike m.known a') :
    m.Agrees Activity.Alike (a.turn router.conduct s) (a'.turn router.conduct t) := by
  have unchanged : m.Agrees Activity.Alike (s, a) (t, a') := ⟨twin, twin.alike_of_known alike⟩
  obtain ⟨request, token, start, cancel, abandon, status⟩ := a
  obtain ⟨request', token', start', cancel', abandon', status'⟩ := a'
  have starts : start = start' := alike.startAt
  have statuses : status.Alike m.known status' := alike.status
  cases statuses with
  | waiting =>
    simp only [Activity.turn, starts, twin.clock]
    split
    · exact (twin.start plain fixed alike.request).afterTurn (starts ▸ alike)
    · exact starts ▸ unchanged
  | running stages => exact (twin.resumeCall plain alike.request stages).afterTurn alike
  | ended instant result => exact unchanged

/-- The same call is cancelled from outside in both runs, if that is due and it has not ended. -/
theorem Twin.applyCancel (twin : m.Twin s t) (alike : a.Alike m.known a') :
    m.Agrees Activity.Alike (a.applyCancel s) (a'.applyCancel t) := by
  have unchanged : m.Agrees Activity.Alike (s, a) (t, a') := ⟨twin, twin.alike_of_known alike⟩
  have cancelled : m.Twin (s.cancel a.token) (t.cancel a'.token) :=
    twin.cancel (alike.token.mono twin.held_of_known)
  obtain ⟨request, token, start, cancel, abandon, status⟩ := a
  obtain ⟨request', token', start', cancel', abandon', status'⟩ := a'
  have cancels : cancel = cancel' := alike.cancelAt
  have statuses : status.Alike m.known status' := alike.status
  subst cancels
  cases statuses with
  | waiting => exact unchanged
  | running stages =>
    cases cancel with
    | none => exact unchanged
    | some due =>
      simp only [Activity.applyCancel, twin.clock]
      split
      · exact ⟨cancelled, { cancelled.alike_of_known alike with cancelAt := rfl }⟩
      · exact unchanged
  | ended instant result => exact unchanged

/-- What a call has written since the runs met is the same but for its numbers, and at the same time
after its start. -/
theorem Twin.between_eq (twin : m.Twin s t) (start : Instant) :
    (Chronicle.between start m.here s).anonymous =
      (Chronicle.between start m.there t).anonymous := by
  obtain ⟨lines, lines', grown, grownThere, journal⟩ := twin.journal
  obtain ⟨entries, entries', traced, tracedThere, trace⟩ := twin.trace
  obtain ⟨samples, samples', sampled, sampledThere, sample⟩ := twin.samples
  have stamped {α : Type} (f : α → α) {l l' : List α} (same : l.map f = l'.map f) (n : Nat) :
      (l.map (n, ·)).map (Prod.map id f) = (l'.map (n, ·)).map (Prod.map id f) := by
    have stamp (l : List α) : (l.map (n, ·)).map (Prod.map id f) = (l.map f).map (n, ·) := by
      rw [List.map_map, List.map_map]
      rfl
    rw [stamp, stamp, same]
  rw [List.map_id, List.map_id] at sample
  simp only [Chronicle.between, Chronicle.anonymous, grown, grownThere, traced, tracedThere,
    sampled, sampledThere, List.drop_left, twin.fair.now, Chronicle.mk.injEq]
  exact ⟨stamped _ journal _, stamped _ trace _, by rw [sample]⟩

end Meeting

/-! ### Turns in which nothing happens -/

namespace Activity

variable {router : Router} {a a' : Activity Call Stage Outcome} {s s' y : State} {R : Pairing}

/-- Nothing that a scheduled call waits for has come, and none of the tokens that its attempt looks
at is cancelled. -/
structure IsIdle (router : Router) (a : Activity Call Stage Outcome) (s : State) : Prop where
  ahead : ∀ t ∈ a.instants router.conduct, s.now < t
  free : ∀ c x, a.status = .running (.attempting c x) → x.IsFree s

/-- A turn of a call that is idle does nothing. So it does not matter how many of them it gets. -/
theorem turn_of_idle (alike : a.Alike R a') (idle : a.IsIdle router s) :
    a.turn router.conduct s = (s, a) := by
  obtain ⟨request, token, start, cancel, abandon, status⟩ := a
  have statuses : status.Alike R a'.status := alike.status
  cases status with
  | waiting =>
    have notYet : ¬ start ≤ s.now := Nat.not_le_of_gt (idle.ahead start List.mem_cons_self)
    simp only [turn, notYet, if_false]
  | running stage =>
    obtain ⟨stage', -, stages⟩ := statuses.of_running
    have notYet : ¬ abandon ≤ s.now := Nat.not_le_of_gt (idle.ahead abandon List.mem_cons_self)
    have waits : router.conduct.resume request stage s = (s, .running stage) :=
      Router.resume_of_waiting stages
        (fun t timer => idle.ahead t (List.mem_cons_of_mem _ (List.mem_append_right _ timer)))
        (fun c x same => idle.free c x (congrArg Status.running same))
    simp only [turn, waits, afterTurn, notYet, if_false]
  | ended instant result => rfl

/-- Nor is it cancelled from outside. -/
theorem applyCancel_of_idle (idle : a.IsIdle router s) : a.applyCancel s = (s, a) := by
  obtain ⟨request, token, start, cancel, abandon, status⟩ := a
  cases status with
  | waiting => rfl
  | running stage =>
    cases cancel with
    | none => rfl
    | some due =>
      have notYet : ¬ due ≤ s.now := Nat.not_le_of_gt (idle.ahead due
        (List.mem_cons_of_mem _ (List.mem_append_left _ (Option.mem_toList.mpr rfl))))
      simp only [applyCancel, notYet, if_false]
  | ended instant result => rfl

/-- Since a turn that began in an earlier state a call has begun if it was due, whatever it waits
for lies ahead, and its attempt is free unless the caller's token has been cancelled. -/
structure HasSettled (a : Activity Call Stage Outcome) (s s' : State) : Prop where
  start : a.status = .waiting → s'.now < a.startAt
  ahead : ∀ stage, a.status = .running stage →
    s'.now < a.abandonAt ∧ ∀ t ∈ Router.timers stage, s'.now < t
  free : ∀ c x, a.status = .running (.attempting c x) → x.IsFreeBut a.request.caller s s'

/-- A call that has settled since a state has settled since an earlier one, if what was cancelled
then still is. -/
theorem HasSettled.since {s₀ : State} (settled : a.HasSettled s s')
    (kept : ∀ i ∈ s₀.tokens.cancelled, i ∈ s.tokens.cancelled) : a.HasSettled s₀ s' :=
  ⟨settled.start, settled.ahead, fun c x status => (settled.free c x status).since kept⟩

/-- What is left by a step of the call is settled, if what it waits for lies ahead. -/
theorem settled_of_afterTurn {x : State × Step Stage Outcome}
    (ahead : ∀ s' stage, x = (s', .running stage) → ∀ t ∈ Router.timers stage, s'.now < t)
    (free : ∀ s' c x', x = (s', .running (.attempting c x')) →
      x'.IsFreeBut a.request.caller s s') :
    (a.afterTurn router.conduct x).2.HasSettled s (a.afterTurn router.conduct x).1 := by
  obtain ⟨s', step⟩ := x
  cases step with
  | finished o => exact ⟨fun h => (nomatch h), fun _ h => (nomatch h), fun _ _ h => (nomatch h)⟩
  | running stage =>
    simp only [afterTurn]
    split
    · exact ⟨fun h => (nomatch h), fun _ h => (nomatch h), fun _ _ h => (nomatch h)⟩
    · next notYet =>
      refine ⟨fun h => (nomatch h), ?_, ?_⟩
      · rintro _ ⟨⟩
        exact ⟨Nat.lt_of_not_le notYet, ahead s' stage rfl⟩
      · rintro c x' ⟨⟩
        exact free s' c x' rfl

/-- A turn leaves a call settled: what was due has been done, and only the turn itself can have
cancelled it. -/
theorem settled_of_turn (plain : ∀ d ∈ router.pipeline, d.IsPlain) (alike : a.Alike R a')
    (issued : ∀ {i j}, R i j → i < s.tokens.issued) :
    (a.turn router.conduct s).2.HasSettled s (a.turn router.conduct s).1 := by
  have known : a.request.caller.id < s.tokens.issued := issued alike.request.caller.id
  have statuses := alike.status
  unfold turn
  cases status : a.status with
  | waiting =>
    dsimp only
    split
    · exact settled_of_afterTurn (fun s' stage started => Router.isAfter_of_start started)
        fun s' c x started => Router.isFree_of_start plain known started
    · next notYet =>
      refine ⟨fun _ => Nat.lt_of_not_le notYet, fun stage running => ?_, fun c x running => ?_⟩
      · cases status.symm.trans running
      · cases status.symm.trans running
  | running stage =>
    rw [status] at statuses
    obtain ⟨stage', -, there⟩ := statuses.of_running
    exact settled_of_afterTurn (fun s' rest resumed => Router.isAfter_of_turn resumed)
      fun s' c x resumed => Router.isFree_of_turn plain known there issued resumed
  | ended instant result =>
    refine ⟨fun waiting => ?_, fun stage running => ?_, fun c x running => ?_⟩
    · cases status.symm.trans waiting
    · cases status.symm.trans running
    · cases status.symm.trans running

/-- A call that is settled is cancelled from outside if that is due, and stays settled. Its token is
the caller's, so what is cancelled is what may be. -/
theorem HasSettled.applyCancel (settled : a.HasSettled s s')
    (kept : ∀ i ∈ s.tokens.cancelled, i ∈ s'.tokens.cancelled)
    (own : a.token = a.request.caller) :
    (a.applyCancel s').2.HasSettled s (a.applyCancel s').1 ∧
      ∀ stage, (a.applyCancel s').2.status = .running stage →
        ∀ t, (a.applyCancel s').2.cancelAt = some t → (a.applyCancel s').1.now < t := by
  unfold Activity.applyCancel
  split
  · next stage due running cancels =>
    split
    · refine ⟨⟨settled.start, settled.ahead, fun c x status u watched i member after => ?_⟩,
        fun _ _ t impossible => nomatch impossible⟩
      rcases List.mem_cons.mp after with rfl | before
      · refine ⟨congrArg Token.id own, fun earlier => ?_⟩
        exact (settled.free c x status u watched _ member (kept _ earlier)).2 earlier
      · exact settled.free c x status u watched i member before
    · next notYet =>
      refine ⟨settled, fun _ _ t same => ?_⟩
      cases cancels.symm.trans same
      exact Nat.lt_of_not_le notYet
  · next none' =>
    exact ⟨settled, fun stage running t cancels => absurd cancels (none' stage t running)⟩

/-- A call that is settled is idle if its caller's token has not been cancelled since, and no
cancellation from outside is due. -/
theorem HasSettled.isIdle (settled : a.HasSettled s s')
    (later : ∀ stage, a.status = .running stage → ∀ t, a.cancelAt = some t → s'.now < t)
    (still : a.request.caller.id ∈ s'.tokens.cancelled →
      a.request.caller.id ∈ s.tokens.cancelled) : a.IsIdle router s' where
  ahead t member := by
    unfold instants at member
    split at member
    · next waiting =>
      rw [List.mem_singleton.mp member]
      exact settled.start waiting
    · next stage running =>
      obtain ⟨abandoned, timers⟩ := settled.ahead stage running
      rcases List.mem_cons.mp member with rfl | member
      · exact abandoned
      · rcases List.mem_append.mp member with cancelled | timer
        · exact later stage running t (Option.mem_toList.mp cancelled)
        · exact timers t timer
    · exact absurd member List.not_mem_nil
  free c x status u watched := by
    refine TokenForest.isCancelled_eq_false_iff.mpr fun i member after => ?_
    obtain ⟨rfl, before⟩ := settled.free c x status u watched i member after
    exact before (still after)

end Activity

end TrialRouting
