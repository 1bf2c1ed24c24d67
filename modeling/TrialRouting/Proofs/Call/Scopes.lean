import TrialRouting.Proofs.Scopes
import TrialRouting.Proofs.Call.Route

/-!
# The scopes of calls that overlap

Each attempt that starts opens one scope, and that scope is disposed once: when the attempt
has ended, in whatever way, or when its call is taken down, and in any case before the call
starts another attempt. Of all that an attempt does in between nothing touches the ledger of
scopes, so the open scopes are at any moment those of the attempts in flight.
-/

namespace TrialRouting

/-- Nothing an attempt does between its scope's opening and its disposal is about scopes. -/
theorem Invocation.Effect.ledger_eq {inv : Invocation} {s s' : State}
    (effect : inv.Effect s s') : s'.ledger = s.ledger := by
  cases effect with
  | noted ns own =>
    refine State.ledger_eq rfl rfl ns rfl ?_
    intro n member
    rcases own n member with rfl | rfl | ⟨text, rfl⟩
    · cases inv.work <;> rfl
    · cases inv.work <;> rfl
    · rfl
  | _ => rfl

theorem Invocation.Reaches.ledger_eq {inv : Invocation} {s s' : State}
    (reaches : inv.Reaches s s') : s'.ledger = s.ledger :=
  reaches.along (R := fun a b => b.ledger = a.ledger) (fun _ => rfl)
    (fun first second => second.trans first) (fun _ _ effect => effect.ledger_eq)

/-- Nothing a call does besides its attempts is about scopes. -/
theorem State.Aside.ledger_eq {s s' : State} (aside : s.Aside s') : s'.ledger = s.ledger := by
  obtain ⟨lines, written, others⟩ := aside.journal
  refine State.ledger_eq (by rw [aside.catalog]) (by rw [aside.catalog]) lines written ?_
  intro n member
  have own := others n member
  cases n <;> first | rfl | exact absurd own id

/-- Nothing that happens outside the calls is about scopes. -/
theorem State.Outside.ledger_eq {s s' : State} (change : s.Outside s') :
    s'.ledger = s.ledger := by
  cases change <;> rfl

/-- A launched attempt has opened the next scope, and asking it for the implementation opens and
disposes nothing. Whether the implementation can be had makes no difference. -/
theorem Router.ledger_opened (course : Course) (trial : Trial) (s : State) :
    (Router.opened course trial s).ledger = s.ledger.opened := by
  obtain ⟨flags, count⟩ := Catalog.scopes_resolve
    (s.issueToken.openScope.note (.resolving s.catalog.nextScope course.progress.current
      trial.implementation)).catalog s.catalog.nextScope trial.implementation
  have asked : (Router.opened course trial s).ledger = (s.issueToken.openScope.note
      (.resolving s.catalog.nextScope course.progress.current trial.implementation)).ledger := by
    refine State.ledger_eq flags count _ rfl ?_
    intro n member
    obtain ⟨⟨name, number⟩, -, rfl⟩ := List.mem_map.mp member
    rfl
  have noted : (s.issueToken.openScope.note (.resolving s.catalog.nextScope
      course.progress.current trial.implementation)).ledger = s.issueToken.openScope.ledger :=
    State.ledger_eq rfl rfl [_] rfl (fun n member => by rw [List.mem_singleton.mp member]; rfl)
  rw [asked, noted, State.ledger_openScope]
  rfl

namespace Journey

/-- The scopes of a call: those of the attempts behind it, and that of the one in flight. -/
def holding (j : Journey) : Holding :=
  ⟨j.finished.flatMap (·.scope.toList), j.underway.flatMap (·.scope.toList)⟩

variable {router : Router} {s s' : State} {j j' : Journey}

/-- A call that is not in an attempt holds no scope. All it has opened has been disposed. -/
theorem holding_of_idle (idle : j.underway = []) :
    j.holding = ⟨j.finished.flatMap (·.scope.toList), []⟩ := by
  rw [holding, idle, List.flatMap_nil]

/-- A call in an attempt holds the attempt's scope. -/
theorem holding_of_attempting {course : Course} {attempt : Attempt}
    (phase : j.phase = .attempting course attempt) :
    j.holding = ⟨j.finished.flatMap (·.scope.toList), [attempt.scope]⟩ := by
  simp [holding, underway, phase, Attempt.leg]

/-- Steps between attempts leave a call's scopes alone, and so the ledger as well. -/
theorem turns_of_same (ledger : s'.ledger = s.ledger) (holding : j'.holding = j.holding) :
    Ledger.Turns (s.ledger, j.holding) (s'.ledger, j'.holding) := by
  rw [ledger, holding]

/-- An attempt in flight that ends, or is taken down, disposes its scope. That scope was open, so
the disposal is not the second one. -/
theorem turns_of_left {course : Course} {attempt : Attempt} {last : State}
    {ending : Option Ending} (attempting : j.phase = .attempting course attempt)
    (held : ∀ n ∈ j.holding.held, s.ledger.flags[n]? = some false)
    (same : last.ledger = s.ledger) (finished : j'.finished = j.finished ++ [attempt.leg ending])
    (after : j'.underway = []) :
    Ledger.Turns (s.ledger, j.holding)
      ((last.dropGuard (.holding attempt.scope)).ledger, j'.holding) := by
  rw [holding_of_attempting attempting] at held ⊢
  have isOpen : s.ledger.flags[attempt.scope]? = some false := held _ List.mem_cons_self
  rw [State.ledger_dropGuard (same ▸ isOpen), same, holding_of_idle after, finished,
    List.flatMap_append]
  exact .single (.disposes _ _ _ isOpen)

/-- An attempt that ends without waiting opens the next scope and disposes it, both in one step. -/
theorem turns_of_sped {course : Course} {trial : Trial} {last : State} {leg : Leg}
    (found : router.registration.trial? course.progress.current = some trial)
    (own : leg.scope = router.scopeFor course.progress.current s) (idle : j.underway = [])
    (opened : last.ledger = s.ledger.opened) (finished : j'.finished = j.finished ++ [leg])
    (after : j'.underway = []) :
    Ledger.Turns (s.ledger, j.holding)
      ((last.dropGuard (.holding s.catalog.nextScope)).ledger, j'.holding) := by
  have isOpen : s.ledger.opened.flags[s.ledger.flags.length]? = some false :=
    List.getElem?_concat_length
  have number : s.catalog.nextScope = s.ledger.flags.length := s.catalog.length_flags.symm
  have scope : leg.scope = some s.ledger.flags.length := by
    rw [own, Router.scopeFor, found, Option.map_some, number]
  have disposed : (last.dropGuard (.holding s.ledger.flags.length)).ledger =
      s.ledger.opened.disposed s.ledger.flags.length := by
    rw [State.ledger_dropGuard (opened ▸ isOpen), opened]
  rw [holding_of_idle idle, holding_of_idle after, finished, List.flatMap_append,
    List.flatMap_singleton, scope, number, disposed]
  exact .tail (.single (.opens _ _)) (.disposes _ _ _ isOpen)

/-- A step of a call opens scopes and disposes them one at a time. There is one case for each kind
of step, and only those into and out of an attempt do anything. -/
theorem Step.turns (step : Step router s j s' j') (sound : j.Sound s)
    (held : ∀ n ∈ j.holding.held, s.ledger.flags[n]? = some false)
    (listed : ∀ c, j.phase = .launching c → j.call.isStopped s = false →
      ∃ trial, router.registration.trial? c.progress.current = some trial) :
    Ledger.Turns (s.ledger, j.holding) (s'.ledger, j'.holding) := by
  have idle {j' : Journey} (before : j.underway = []) (after : j'.underway = [])
      (finished : j'.finished = j.finished) : j'.holding = j.holding := by
    rw [holding_of_idle before, holding_of_idle after, finished]
  cases step with
  | refused phase answer =>
    exact turns_of_same (router.aside_receive answer).ledger_eq
      (idle (by simp [underway, phase]) rfl rfl)
  | chosen phase answer =>
    exact turns_of_same (router.aside_receive answer).ledger_eq
      (idle (by simp [underway, phase]) rfl rfl)
  | asked phase answer =>
    exact turns_of_same (router.aside_receive answer).ledger_eq
      (idle (by simp [underway, phase]) rfl rfl)
  | answered phase isDue =>
    exact turns_of_same (State.aside_settle s _ _).ledger_eq
      (idle (by simp [underway, phase]) rfl rfl)
  | embarked phase =>
    exact turns_of_same (router.aside_embark _ _ s).ledger_eq
      (idle (by simp [underway, phase]) rfl rfl)
  | withheld phase stopped launched =>
    rw [Router.launch_of_stopped _ stopped, Prod.mk.injEq] at launched
    rw [← launched.1]
    exact turns_of_same rfl (idle (by simp [underway, phase]) rfl rfl)
  | @sped _ _ c e phase free launched =>
    obtain ⟨trial, found⟩ := listed c phase free
    obtain ⟨inv, -, last, reaches, rfl⟩ := Router.ended_of_launch free found launched
    have opened : last.ledger = s.ledger.opened := by
      rw [reaches.ledger_eq, Router.ledger_opened]
    exact turns_of_sped found rfl (by simp [underway, phase]) opened rfl rfl
  | launched phase launched =>
    obtain ⟨-, trial, made, flight, -, rfl, reaches, -⟩ := Router.waits_of_launch launched
    rw [holding_of_idle (j := j) (by simp [underway, phase]), reaches.ledger_eq,
      Router.ledger_opened, holding_of_attempting rfl, ← s.catalog.length_flags]
    exact .single (.opens _ _)
  | waited phase resumed =>
    obtain ⟨-, -, issued, -⟩ := sound.attempt _ _ phase
    obtain ⟨flight, rfl, reaches, -⟩ := Router.waits_of_resume issued resumed
    refine turns_of_same reaches.ledger_eq ?_
    rw [holding_of_attempting phase, holding_of_attempting rfl]
  | left phase resumed =>
    obtain ⟨-, known, issued, -⟩ := sound.attempt _ _ phase
    obtain ⟨last, reaches, rfl⟩ := Router.ended_of_resume issued known resumed
    exact turns_of_left phase held reaches.ledger_eq rfl rfl
  | concluded phase answer =>
    exact turns_of_same (router.aside_conclude answer).ledger_eq
      (idle (by simp [underway, phase]) rfl rfl)
  | fellBack phase answer =>
    exact turns_of_same (router.aside_conclude answer).ledger_eq
      (idle (by simp [underway, phase]) rfl rfl)
  | dropped phase => exact turns_of_same rfl (idle (by simp [underway, phase]) rfl rfl)
  | @droppedInFlight _ course attempt phase =>
    have told : (router.abandon (.attempting course attempt) s).ledger =
        ((attempt.invocation.abandon attempt.flight s).dropGuard (.holding attempt.scope)).ledger :=
      (router.aside_report course .disposed _).ledger_eq
    rw [told]
    exact turns_of_left phase held (Invocation.abandon_reaches _ s).ledger_eq rfl rfl

/-- A started attempt whose key has a trial has a scope, from its launch on. -/
theorem Step.scope_isSome (step : Step router s j s' j')
    (listed : ∀ c, j.phase = .launching c → j.call.isStopped s = false →
      ∃ trial, router.registration.trial? c.progress.current = some trial)
    (provided : ∀ leg ∈ j.legs, leg.scope.isSome = true) :
    ∀ leg ∈ j'.legs, leg.scope.isSome = true := by
  have before : ∀ leg ∈ j.finished, leg.scope.isSome = true :=
    fun leg member => provided leg (List.mem_append_left _ member)
  have joined {leg : Leg} (own : leg.scope.isSome = true) :
      ∀ l ∈ j.finished ++ [leg], l.scope.isSome = true := by
    intro l member
    rcases List.mem_append.mp member with old | new
    · exact before l old
    · exact List.mem_singleton.mp new ▸ own
  have still {j' : Journey} (finished : j'.finished = j.finished) (idle : j'.underway = []) :
      ∀ leg ∈ j'.legs, leg.scope.isSome = true := by
    rw [legs, idle, List.append_nil, finished]
    exact before
  cases step with
  | launched phase launched => exact joined rfl
  | waited phase resumed => exact joined rfl
  | left phase resumed =>
    rw [legs, show underway _ = [] from rfl, List.append_nil]
    exact joined rfl
  | droppedInFlight phase =>
    rw [legs, show underway _ = [] from rfl, List.append_nil]
    exact joined rfl
  | sped phase free launched =>
    obtain ⟨trial, found⟩ := listed _ phase free
    rw [legs, show underway _ = [] from rfl, List.append_nil]
    exact joined (by rw [Router.scopeFor, found]; rfl)
  | _ => exact still rfl rfl

end Journey

namespace World

variable {d : Draft} {router : Router} {s : State} {w : World} {n : Nat} {j : Journey}

/-- Every attempt that starts finds its trial: a call that is not stopped has not been
cancelled, so it keeps to its route, and the route has only trial keys. -/
theorem Becomes.listed (valid : router.registration.Valid) (tokens : s.tokens.Sound)
    (becomes : Becomes router ⟨s, []⟩ w) (here : w.journeys[n]? = some j) (c : Course)
    (phase : j.phase = .launching c) (free : j.call.isStopped w.state = false) :
    ∃ trial, router.registration.trial? c.progress.current = some trial := by
  have sound : w.Sound := Becomes.sound becomes (sound_of_empty tokens)
  rw [j.call.isStopped_eq sound.tokens] at free
  have keeps : j.KeepsRoute router.registration :=
    Becomes.keepsRoute valid tokens becomes here free
  simp only [Journey.KeepsRoute, phase] at keeps
  obtain ⟨selection, -, known, course⟩ := keeps
  have current : c.progress.current ∈ c.progress.attempted := by
    rw [course.attempted]
    exact List.mem_append_right _ List.mem_cons_self
  exact router.registration.exists_trial
    (valid.mem_keys_of_route known (course.attempted_prefix.subset current))

/-- Putting a call in the place of another leaves those before and after it where they are. -/
theorem exists_middle {α : Type} {calls : List α} {call : α} (here : calls[n]? = some call) :
    ∃ before after, calls = before ++ call :: after ∧
      ∀ call', calls.set n call' = before ++ call' :: after := by
  obtain ⟨known, same⟩ := List.getElem?_eq_some_iff.mp here
  refine ⟨calls.take n, calls.drop (n + 1), ?_, ?_⟩
  · rw [← same, ← List.drop_eq_getElem_cons known, List.take_append_drop]
  · intro call'
    rw [List.set_eq_take_append_cons_drop, if_pos known]

/-- The ledger of scopes stays in order, and every started attempt has a scope. The induction
follows the history; a step turns the holding of its own call and leaves the others. -/
theorem Becomes.inOrder (valid : router.registration.Valid) (tokens : s.tokens.Sound)
    (start : Ledger.InOrder s.ledger s.ledger []) (becomes : Becomes router ⟨s, []⟩ w) :
    Ledger.InOrder s.ledger w.state.ledger (w.journeys.map (·.holding)) ∧
      ∀ j ∈ w.journeys, ∀ leg ∈ j.legs, leg.scope.isSome = true := by
  induction becomes with
  | refl => exact ⟨start, fun _ impossible => absurd impossible List.not_mem_nil⟩
  | @tail w₁ w₂ before moves ih =>
    obtain ⟨order, provided⟩ := ih
    have sound : w₁.Sound := Becomes.sound before (sound_of_empty tokens)
    cases moves with
    | joined caller =>
      refine ⟨?_, ?_⟩
      · rw [List.map_append]
        exact order.joins
      · intro j member
        rcases List.mem_append.mp member with old | new
        · exact provided j old
        · rw [List.mem_singleton.mp new]
          exact fun _ impossible => absurd impossible List.not_mem_nil
    | @stepped n j j' s' here step =>
      have member : j ∈ w₁.journeys := List.mem_of_getElem? here
      have listed := Becomes.listed valid tokens before here
      refine ⟨?_, ?_⟩
      · obtain ⟨others, rest, split, replaced⟩ := exists_middle here
        have held := order.held j.holding (List.mem_map_of_mem member)
        have turns := step.turns (sound.journeys j member) held listed
        simp only [replaced, List.map_append, List.map_cons]
        rw [split, List.map_append, List.map_cons] at order
        exact turns.inOrder order
      · intro other now
        rcases List.mem_or_eq_of_mem_set now with old | rfl
        · exact provided other old
        · exact step.scope_isSome listed (provided j member)
    | outside change =>
      refine ⟨?_, provided⟩
      rw [change.ledger_eq]
      exact order

/-- What holds of the scopes of a world that began with a given state. -/
structure KeepsScopes (s : State) (w : World) : Prop where
  /-- The number of open scopes is that of the scopes opened and not yet disposed. -/
  counted : w.state.catalog.openScopes = w.state.catalog.undisposed
  /-- Besides those open from the start, one is open for each attempt in flight. -/
  inFlight : w.state.catalog.openScopes =
    s.catalog.openScopes + (w.journeys.flatMap (·.underway)).length
  /-- Each attempt that has started has opened a scope. -/
  provided : ∀ j ∈ w.journeys, ∀ leg ∈ j.legs, leg.scope.isSome = true
  /-- Each scope that has been opened is that of one attempt. -/
  owned : (w.journeys.flatMap (·.holding.scopes)).Perm
    (List.range' s.catalog.nextScope (w.state.catalog.nextScope - s.catalog.nextScope))
  /-- The scopes of a call have been opened and disposed one after the other, each once, but
  for that of the attempt in flight, which has only been opened. -/
  alternate : ∀ j ∈ w.journeys,
    w.state.journal.filter (·.isAbout j.holding.scopes) = j.holding.lines
  /-- When all calls are over, no more scopes are open than at the start. -/
  balanced : (∀ j ∈ w.journeys, j.IsOver) → w.state.catalog.openScopes = s.catalog.openScopes
  /-- An open scope is counted off when it is disposed, and when it is dropped. -/
  counts : ∀ id, w.state.catalog.flags[id]? = some false →
    (w.state.catalog.dispose id).openScopes + 1 = w.state.catalog.openScopes ∧
      (w.state.catalog.drop id).openScopes + 1 = w.state.catalog.openScopes
  /-- Disposing a scope and then dropping it, or disposing it once more, counts once. -/
  once : ∀ id, (w.state.catalog.dispose id).drop id = w.state.catalog.dispose id ∧
    (w.state.catalog.dispose id).dispose id = w.state.catalog.dispose id
  /-- Nor does a guard that has disposed its scope dispose it again when it is dropped. -/
  guarded : ∀ g : ScopeGuard,
    (w.state.disposeGuard g).1.dropGuard (w.state.disposeGuard g).2 = w.state.dropGuard g

/-- As many scopes are held as attempts are in flight, if each of these has a scope. -/
theorem length_held (journeys : List Journey) :
    ((journeys.map (·.holding)).flatMap (·.held)).length =
      (journeys.flatMap (·.underway)).length := by
  induction journeys with
  | nil => rfl
  | cons j journeys ih =>
    have one : j.holding.held.length = j.underway.length := by
      unfold Journey.holding Journey.underway
      split <;> rfl
    simp only [List.map_cons, List.flatMap_cons, List.length_append, ih, one]

/-- However the calls of a router overlap and however their attempts end, each attempt opens one
scope, which is disposed once and before its call opens another; and the open scopes are at any
moment counted as they are.

Proof: the ledger keeps a flag for each scope and a count, and each call holds the scopes of its
attempts. A step of a call opens the next scope, disposes one that the call holds open, or does both
in that order, and nothing else touches the ledger. So in every history the flags are those of the
scopes held, and the count is theirs too. -/
theorem disposes_each_scope_once (built : d.build = .ok router.registration)
    (tokens : s.tokens.Sound) (counted : s.catalog.openScopes = s.catalog.undisposed)
    (known : ∀ n ∈ s.journal, ∀ id, n.scope? = some id → id < s.catalog.nextScope)
    (becomes : Becomes router ⟨s, []⟩ w) : w.KeepsScopes s := by
  have start : Ledger.InOrder s.ledger s.ledger [] := by
    refine .nil ?_ ?_
    · rw [State.ledger, s.catalog.count_flags, counted]
    · intro n member id about
      rw [State.ledger, s.catalog.length_flags]
      exact known n (List.mem_filter.mp member |>.1) id about
  obtain ⟨order, provided⟩ :=
    Becomes.inOrder (Draft.valid_of_build built) tokens start becomes
  have inFlight : w.state.catalog.openScopes =
      s.catalog.openScopes + (w.journeys.flatMap (·.underway)).length := by
    rw [← length_held]
    exact order.current
  have total : w.state.catalog.openScopes = w.state.catalog.undisposed := by
    rw [← w.state.catalog.count_flags]
    exact order.count
  refine ⟨total, inFlight, provided, ?_, ?_, ?_, ?_, ?_, ?_⟩
  · have scopes := order.scopes
    simpa only [List.flatMap_map, State.ledger, Catalog.length_flags] using scopes
  · intro j member
    have lines := order.lines j.holding (List.mem_map_of_mem member)
    have about : (fun n : Note => n.isAbout j.holding.scopes && n.scope?.isSome) =
        (·.isAbout j.holding.scopes) := by
      funext n
      cases scope : n.scope? <;> simp [Note.isAbout, scope]
    simpa only [State.ledger, List.filter_filter, about] using lines
  · intro done
    have nothing : w.journeys.flatMap (·.underway) = [] := by
      rw [List.flatMap_eq_nil_iff]
      intro j member
      rcases done j member with ⟨o, phase⟩ | phase
      · simp [Journey.underway, phase]
      · simp [Journey.underway, phase]
    rw [inFlight, nothing, List.length_nil, Nat.add_zero]
  · intro id isOpen
    have some : 0 < w.state.catalog.openScopes := by
      rw [total, ← w.state.catalog.count_flags]
      exact List.count_pos_iff.mpr (List.mem_of_getElem? isOpen)
    rw [(w.state.catalog.dispose_of_open id isOpen).2, (w.state.catalog.drop_of_open id isOpen).2]
    omega
  · exact fun id => ⟨w.state.catalog.drop_dispose id, w.state.catalog.dispose_dispose id⟩
  · exact fun g => congrArg Prod.fst (w.state.disposeGuard_disposeGuard g)

/-- Two calls of the trial with a spare overlap: the second waits in its second attempt when the
first has made its first one. So two scopes have been disposed, and the one that is open is the last
that the second call has opened. -/
theorem one_scope_open_while_one_waits :
    spareDraft.build = .ok spareRouter.registration ∧
      World.Becomes spareRouter ⟨spareStart, []⟩ (spareWorld [1, 1, 1, 1, 1, 0, 0, 0, 1]) ∧
      (spareWorld [1, 1, 1, 1, 1, 0, 0, 0, 1]).journeys.map (·.holding.lines) =
        [[.scopeOpened 2, .scopeDisposed 2],
          [.scopeOpened 0, .scopeDisposed 0, .scopeOpened 1]] ∧
      (spareWorld [1, 1, 1, 1, 1, 0, 0, 0, 1]).state.catalog.openScopes = 1 ∧
      (spareWorld [1, 1, 1, 1, 1, 0, 0, 0, 1]).KeepsScopes spareStart := by
  have built : spareDraft.build = .ok spareRouter.registration := rfl
  refine ⟨built, becomes_spareWorld _, rfl, rfl, ?_⟩
  exact disposes_each_scope_once built sound_spareStart rfl
    (fun _ impossible => absurd impossible List.not_mem_nil) (becomes_spareWorld _)

end World

end TrialRouting
