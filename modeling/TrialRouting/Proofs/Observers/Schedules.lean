import TrialRouting.Proofs.Observers.Calls
import TrialRouting.Proofs.Overlap.Batches

/-!
# Runs without their observers

Calls that overlap, are cancelled, fail or are abandoned run on a router with all its logging
decorators and on the one without, and with other telemetry. The clock stops at the same instants
in both runs, and whenever it is about to move on they agree on everything that is not written by
observers: what has been attempted, built, called and disposed so far, the circuits, the permits
and the tokens, which calls have ended, when, and with which results.
-/

namespace TrialRouting

/-- Whether a factory makes a decorator that only logs. -/
def Factory.isLogging : Factory → Bool
  | .logging => true
  | _ => false

/-- The state without what observers have written: the journal is left with what calls did, and
trace, metrics and the numbers of spans are gone. -/
def State.unobserved (s : State) : State :=
  { s with journal := s.deeds, trace := [], samples := [], spans := 0 }

theorem State.RoutesAs.unobserved_eq {s t : State} (same : s.RoutesAs t) :
    s.unobserved = t.unobserved := by
  obtain ⟨now, timer, tokens, handedOut, circuits, limiters, catalog, selector, wallClock,
    predicateCalls, invocations, reporters, deeds⟩ := same
  simp only [State.unobserved, now, timer, tokens, handedOut, circuits, limiters, catalog, selector,
    wallClock, predicateCalls, invocations, reporters, deeds]

/-! ### Activities -/

/-- How far a call has come, and how far it has come without logging decorators. -/
inductive Status.Bares : Status Stage Outcome → Status Stage Outcome → Prop where
  | waiting : Bares .waiting .waiting
  | running {stage stage' : Stage} (stages : stage.Bares stage') :
      Bares (.running stage) (.running stage')
  | ended (instant : Instant) (result : Option Outcome) :
      Bares (.ended instant result) (.ended instant result)

/-- A scheduled call, and the same call without logging decorators. -/
structure Activity.Bares (a a' : Activity Call Stage Outcome) : Prop where
  request : a.request = a'.request
  token : a.token = a'.token
  startAt : a.startAt = a'.startAt
  cancelAt : a.cancelAt = a'.cancelAt
  abandonAt : a.abandonAt = a'.abandonAt
  status : a.status.Bares a'.status

/-- Scheduled calls in two runs. -/
abbrev Schedule.Bares : State × List (Activity Call Stage Outcome) →
    State × List (Activity Call Stage Outcome) → Prop :=
  State.Alongside (List.Forall₂ Activity.Bares)

variable {router : Router} {provider : Telemetry.Provider} {s t : State}

namespace Activity

variable {a a' : Activity Call Stage Outcome}

/-- A call gets to the same place in its turn, and is abandoned there alike if its caller's patience
is over. -/
theorem afterTurn_bare (calls : a.Bares a') {x y : State × Step Stage Outcome}
    (steps : State.Alongside Step.Bares x y) :
    State.Alongside Bares (a.afterTurn router.conduct x)
      (a'.afterTurn (router.bare provider).conduct y) := by
  obtain ⟨s, step⟩ := x
  obtain ⟨t, step'⟩ := y
  obtain ⟨same, results⟩ : s.RoutesAs t ∧ step.Bares step' := ⟨steps.states, steps.results⟩
  obtain ⟨request, token, startAt, cancelAt, abandonAt, status⟩ := a
  obtain ⟨request', token', startAt', cancelAt', abandonAt', status'⟩ := a'
  obtain ⟨rfl, rfl, rfl, rfl, rfl, -⟩ := calls
  cases results with
  | finished o =>
    simp only [afterTurn, same.now]
    exact ⟨same, rfl, rfl, rfl, rfl, rfl, .ended t.now (some o)⟩
  | running stages =>
    simp only [afterTurn, same.now]
    split
    · exact ⟨Router.abandon_bare same stages, rfl, rfl, rfl, rfl, rfl, .ended t.now none⟩
    · exact ⟨same, rfl, rfl, rfl, rfl, rfl, .running stages⟩

/-- A turn is taken alike. -/
theorem turn_bare (calls : a.Bares a') (same : s.RoutesAs t) :
    State.Alongside Bares (a.turn router.conduct s) (a'.turn (router.bare provider).conduct t) := by
  obtain ⟨request, token, startAt, cancelAt, abandonAt, status⟩ := a
  obtain ⟨request', token', startAt', cancelAt', abandonAt', status'⟩ := a'
  obtain ⟨rfl, rfl, rfl, rfl, rfl, statuses⟩ := calls
  cases statuses with
  | waiting =>
    simp only [turn, same.now]
    split
    · exact afterTurn_bare ⟨rfl, rfl, rfl, rfl, rfl, .waiting⟩ (Router.start_bare same)
    · exact ⟨same, rfl, rfl, rfl, rfl, rfl, .waiting⟩
  | @running stage stage' stages =>
    have calls : Bares ⟨request, token, startAt, cancelAt, abandonAt, .running stage⟩
        ⟨request, token, startAt, cancelAt, abandonAt, .running stage'⟩ :=
      ⟨rfl, rfl, rfl, rfl, rfl, .running stages⟩
    exact afterTurn_bare calls (Router.resume_bare same stages)
  | ended instant result => exact ⟨same, rfl, rfl, rfl, rfl, rfl, .ended instant result⟩

/-- A cancellation from outside is due alike, and cancels the same token. -/
theorem applyCancel_bare (calls : a.Bares a') (same : s.RoutesAs t) :
    State.Alongside Bares (a.applyCancel s) (a'.applyCancel t) := by
  obtain ⟨request, token, startAt, cancelAt, abandonAt, status⟩ := a
  obtain ⟨request', token', startAt', cancelAt', abandonAt', status'⟩ := a'
  obtain ⟨rfl, rfl, rfl, rfl, rfl, statuses⟩ := calls
  cases statuses with
  | waiting => exact ⟨same, rfl, rfl, rfl, rfl, rfl, .waiting⟩
  | ended instant result => exact ⟨same, rfl, rfl, rfl, rfl, rfl, .ended instant result⟩
  | running stages =>
    cases cancelAt with
    | none => exact ⟨same, rfl, rfl, rfl, rfl, rfl, .running stages⟩
    | some due =>
      simp only [applyCancel, same.now]
      split
      · exact ⟨same.cancel token, rfl, rfl, rfl, rfl, rfl, .running stages⟩
      · exact ⟨same, rfl, rfl, rfl, rfl, rfl, .running stages⟩

/-- The call has to be looked at at the same instants, as it waits for the same. -/
theorem instants_bare (calls : a.Bares a') :
    a.instants router.conduct = a'.instants (router.bare provider).conduct := by
  obtain ⟨request, token, startAt, cancelAt, abandonAt, status⟩ := a
  obtain ⟨request', token', startAt', cancelAt', abandonAt', status'⟩ := a'
  obtain ⟨rfl, rfl, rfl, rfl, rfl, statuses⟩ := calls
  cases statuses with
  | waiting => rfl
  | running stages => exact congrArg (abandonAt :: cancelAt.toList ++ ·) stages.timers_eq
  | ended instant result => rfl

end Activity

/-! ### Rounds and instants -/

namespace Schedule

/-- What is read off pairs alike is the same for two whole lists. -/
theorem map_eq_map {α β γ : Type} {R : α → β → Prop} {f : α → γ} {g : β → γ} {xs : List α}
    {ys : List β} (pairs : List.Forall₂ R xs ys) (alike : ∀ {x y}, R x y → f x = g y) :
    xs.map f = ys.map g := by
  induction pairs with
  | nil => rfl
  | cons first rest ih => rw [List.map_cons, List.map_cons, ih, alike first]

variable {as as' : List (Activity Call Stage Outcome)}

/-- Something that is done alike for each call is done alike for all in turn, by induction on the
list. -/
theorem each_bare {f g : Activity Call Stage Outcome → State → State × Activity Call Stage Outcome}
    (one : ∀ {a a' : Activity Call Stage Outcome} {s t : State}, a.Bares a' → s.RoutesAs t →
      State.Alongside Activity.Bares (f a s) (g a' t))
    (calls : List.Forall₂ Activity.Bares as as') (same : s.RoutesAs t) :
    Bares (each f as s) (each g as' t) := by
  induction calls generalizing s t with
  | nil => exact ⟨same, .nil⟩
  | cons first rest ih =>
    have here := one first same
    have others := ih here.states
    exact ⟨others.states, .cons here.results others.results⟩

/-- A round goes alike: all turns, and then the cancellations. -/
theorem round_bare (calls : List.Forall₂ Activity.Bares as as') (same : s.RoutesAs t) :
    Bares (round router.conduct as s) (round (router.bare provider).conduct as' t) := by
  have turned : Bares (each (fun a s => a.turn router.conduct s) as s)
    (each (fun a s => a.turn (router.bare provider).conduct s) as' t) :=
    each_bare Activity.turn_bare calls same
  exact each_bare Activity.applyCancel_bare turned.results turned.states

/-- The same calls have been cancelled. So there is need of a further round in both runs or in
neither. -/
theorem cancelledCount_bare (calls : List.Forall₂ Activity.Bares as as') (same : s.RoutesAs t) :
    cancelledCount as s = cancelledCount as' t := by
  induction calls with
  | nil => rfl
  | cons first rest ih =>
    simp only [cancelledCount, List.filter_cons, first.token, same.isCancelled_eq] at ih ⊢
    split
    · rw [List.length_cons, List.length_cons, ih]
    · exact ih

/-- There are as many rounds at an instant, and they go alike. -/
theorem rounds_bare (more : Nat) (calls : List.Forall₂ Activity.Bares as as')
    (same : s.RoutesAs t) :
    Bares (rounds router.conduct more as s) (rounds (router.bare provider).conduct more as' t) := by
  induction more generalizing as as' s t with
  | zero => exact ⟨same, calls⟩
  | succ more ih =>
    have after : Bares (round router.conduct as s) (round (router.bare provider).conduct as' t) :=
      round_bare calls same
    simp only [rounds, cancelledCount_bare calls same,
      cancelledCount_bare after.results after.states]
    split
    · exact ih after.results after.states
    · exact after

/-- The clock moves on to the same instant, the first at which anything is due. -/
theorem nextInstant_bare (calls : List.Forall₂ Activity.Bares as as') (now : Instant) :
    nextInstant? router.conduct as now = nextInstant? (router.bare provider).conduct as' now := by
  have dues : as.map (·.instants router.conduct) =
      as'.map (·.instants (router.bare provider).conduct) :=
    map_eq_map calls Activity.instants_bare
  rw [nextInstant?, nextInstant?, List.flatMap_def, List.flatMap_def, dues]

/-- Where a run stands whenever its clock is about to move on, instant after instant. -/
def stopsFrom {α σ ρ : Type} (p : Conduct α σ ρ) : Nat → List (Activity α σ ρ) → State →
    List (State × List (Activity α σ ρ))
  | 0, as, s => [(s, as)]
  | more + 1, as, s =>
      let settled := rounds p (as.length + 1) as s
      settled :: match nextInstant? p settled.2 settled.1.now with
        | none => []
        | some due => stopsFrom p more settled.2 { settled.1 with now := due }

/-- The stops of a whole run. -/
def stops {α σ ρ : Type} (p : Conduct α σ ρ) (as : List (Activity α σ ρ)) (s : State) :
    List (State × List (Activity α σ ρ)) :=
  let last := (as.map fun a => max a.startAt a.abandonAt).max?.getD s.now
  stopsFrom p (last - s.now + 1) as s

/-- Two runs stop at the same instants and stand alike there, by induction on the instants that are
left. -/
theorem stopsFrom_bare (more : Nat) (calls : List.Forall₂ Activity.Bares as as')
    (same : s.RoutesAs t) :
    List.Forall₂ Bares (stopsFrom router.conduct more as s)
      (stopsFrom (router.bare provider).conduct more as' t) := by
  induction more generalizing as as' s t with
  | zero => exact .cons ⟨same, calls⟩ .nil
  | succ more ih =>
    have settled : Bares (rounds router.conduct (as.length + 1) as s)
        (rounds (router.bare provider).conduct (as'.length + 1) as' t) := by
      rw [calls.length_eq]
      exact rounds_bare _ calls same
    have due (now : Instant) :
        nextInstant? router.conduct (rounds router.conduct (as.length + 1) as s).2 now =
          nextInstant? (router.bare provider).conduct
            (rounds (router.bare provider).conduct (as'.length + 1) as' t).2 now :=
      nextInstant_bare settled.results now
    simp only [stopsFrom]
    refine .cons settled ?_
    rw [due, settled.states.now]
    split
    · exact .nil
    · next due _ => exact ih settled.results { settled.states with now := rfl }

/-- So do two whole runs. -/
theorem stops_bare (calls : List.Forall₂ Activity.Bares as as') (same : s.RoutesAs t) :
    List.Forall₂ Bares (stops router.conduct as s)
      (stops (router.bare provider).conduct as' t) := by
  have lasts : (as.map fun a => max a.startAt a.abandonAt) =
      as'.map fun a => max a.startAt a.abandonAt :=
    map_eq_map calls fun call => by rw [call.startAt, call.abandonAt]
  rw [stops, stops, lasts, same.now]
  exact stopsFrom_bare _ calls same

end Schedule

/-! ### Arrivals and routers -/

/-- Calls are scheduled alike: they get the same tokens in the order in which they arrive. -/
theorem Arrival.scheduleAll_bare (arrivals : List Arrival) (same : s.RoutesAs t) :
    Schedule.Bares (scheduleAll arrivals s) (scheduleAll arrivals t) := by
  induction arrivals generalizing s t with
  | nil => exact ⟨same, .nil⟩
  | cons x rest ih =>
    have scheduled : State.Alongside Activity.Bares (x.schedule s) (x.schedule t) := by
      simp only [schedule_eq, same.now, same.tokens]
      exact ⟨{ same with now := rfl, tokens := rfl }, rfl, rfl, rfl, rfl, rfl, .waiting⟩
    have others := ih scheduled.states
    exact ⟨others.states, .cons scheduled.results others.results⟩

/-- A factory that does not make a logging decorator makes the same decorator in both runs, with the
same slot for its circuits or permits. -/
theorem Factory.create_bare {f : Factory} (acts : f.isLogging = false) (config : RouterConfig)
    (service : String) (same : s.RoutesAs t) :
    State.Alongside (fun d d' => d' = d ∧ d.isLogging = false) (f.create config service s)
      (f.create config service t) := by
  cases f with
  | logging => nomatch acts
  | timeout limit => exact ⟨same, rfl, rfl⟩
  | circuitBreaker breaker =>
    have added : (s.addCircuits (breaker.getD config.breaker)).RoutesAs
        (t.addCircuits (breaker.getD config.breaker)) := by
      rw [State.addCircuits, State.addCircuits, same.now]
      exact { same with now := rfl, circuits := congrArg (· ++ _) same.circuits }
    have slot := congrArg (Decorator.circuitBreaker ·.length) same.circuits
    exact ⟨added, slot.symm, rfl⟩
  | concurrencyLimit limit =>
    have added : (s.addLimiter (limit.getD config.maxConcurrent)).RoutesAs
        (t.addLimiter (limit.getD config.maxConcurrent)) :=
      { same with limiters := congrArg (· ++ _) same.limiters }
    have slot := congrArg (Decorator.concurrencyLimit ·.length) same.limiters
    exact ⟨added, slot.symm, rfl⟩
  | interceptor i => exact ⟨same.note _, rfl, rfl⟩

/-- The factories that make no logging decorator make what is left of the pipeline. A logging one
takes no slot, so the others keep theirs. -/
theorem Pipeline.build_bare (config : RouterConfig) (service : String) (factories : List Factory)
    (same : s.RoutesAs t) :
    State.Alongside (fun p p' => p' = Pipeline.unlogged p) (build config service factories s)
      (build config service (factories.filter (!·.isLogging)) t) := by
  induction factories generalizing s t with
  | nil => exact ⟨same, rfl⟩
  | cons f rest ih =>
    cases acts : f.isLogging with
    | true =>
      cases f with
      | logging =>
        have others := ih same
        exact ⟨others.states, others.results⟩
      | _ => nomatch acts
    | false =>
      have made := Factory.create_bare acts config service same
      have others := ih made.states
      simp only [List.filter_cons, acts, Bool.not_false, if_true, build]
      refine ⟨others.states, ?_⟩
      rw [Pipeline.unlogged_cons _ _ made.results.2, made.results.1, others.results]

/-- A router put together without logging factories is the bare one, and everything else about it is
the same. -/
theorem Router.build_bare (r : Registration) (factories : List Factory) (config : RouterConfig)
    (telemetry telemetry' : Telemetry.Provider) (same : s.RoutesAs t) :
    State.Alongside (fun router router' => router' = router.bare telemetry')
      (build r factories config telemetry s)
      (build r (factories.filter (!·.isLogging)) config telemetry' t) := by
  have made := Pipeline.build_bare config r.service factories same
  exact ⟨made.states.emit _ _ _ _, by rw [build, build, made.results]; rfl⟩

/-! ### Histories -/

/-- When a call has ended and what its caller is given for it; nothing is given for a call that
has been abandoned. -/
def Activity.end? (a : Activity Call Stage Outcome) :
    Option (Instant × Option (Except CallerError Value)) :=
  match a.status with
  | .ended instant result => some (instant, result.map a.request.result)
  | _ => none

/-- What there is to see of a run at an instant, other than what observers have written. -/
structure Scene where
  state : State
  /-- For each call, how it has ended, if it has. -/
  ends : List (Option (Instant × Option (Except CallerError Value)))

/-- What there is to see at a stop of a run. -/
def Scene.ofStop (stop : State × List (Activity Call Stage Outcome)) : Scene where
  state := stop.1.unobserved
  ends := stop.2.map Activity.end?

/-- What there is to see of calls that arrive, at every instant at which the clock stops until all
have ended. -/
def Router.history (router : Router) (arrivals : List Arrival) (s : State) : List Scene :=
  let scheduled := Arrival.scheduleAll arrivals s
  (Schedule.stops router.conduct scheduled.2 scheduled.1).map Scene.ofStop

theorem Activity.Bares.end?_eq {a a' : Activity Call Stage Outcome} (calls : a.Bares a') :
    a.end? = a'.end? := by
  obtain ⟨request, token, startAt, cancelAt, abandonAt, status⟩ := a
  obtain ⟨request', token', startAt', cancelAt', abandonAt', status'⟩ := a'
  obtain ⟨rfl, rfl, rfl, rfl, rfl, statuses⟩ := calls
  cases statuses <;> rfl

/-- There is the same to see at two stops: the state without what observers have written, and how
each call has ended. -/
theorem Scene.ofStop_eq {stop stop' : State × List (Activity Call Stage Outcome)}
    (stops : Schedule.Bares stop stop') : ofStop stop = ofStop stop' := by
  have ends : stop.2.map Activity.end? = stop'.2.map Activity.end? :=
    Schedule.map_eq_map stops.results Activity.Bares.end?_eq
  rw [ofStop, ofStop, stops.states.unobserved_eq, ends]

/-- Observability does not change routing. Whatever the trial, its decorators and the calls that
arrive, deleting every logging decorator, wherever in the pipeline it stands, and sending telemetry
somewhere else leaves everything as it is at every instant: what has been attempted, called, opened
and disposed, in this order, the circuits, permits and tokens, and when and how each call ended.

Proof: the two routers are run side by side in states that only differ by what observers have
written. A logging decorator is there on one side only and hands its inside on as it is; every other
decorator, the fallback plan and the schedule read nothing of the difference. So each turn, each
round and each instant keeps the two runs alike, and they stop at the same instants. -/
theorem Router.history_without_observers (r : Registration) (factories : List Factory)
    (config : RouterConfig) (telemetry telemetry' : Telemetry.Provider) (arrivals : List Arrival)
    (s : State) :
    let watched := build r factories config telemetry s
    let bare := build r (factories.filter (!·.isLogging)) config telemetry' s
    watched.2.history arrivals watched.1 = bare.2.history arrivals bare.1 := by
  intro watched bare
  have built : State.Alongside (fun router router' => router' = router.bare telemetry')
    watched bare := build_bare r factories config telemetry telemetry' (.refl s)
  have scheduled := Arrival.scheduleAll_bare arrivals built.states
  rw [history, history, built.results]
  exact Schedule.map_eq_map (Schedule.stops_bare scheduled.results scheduled.states)
    Scene.ofStop_eq

end TrialRouting
