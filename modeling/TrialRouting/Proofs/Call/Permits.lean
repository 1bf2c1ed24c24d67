import Mathlib.Data.List.Perm.Basic
import TrialRouting.Proofs.Attempt.Permits
import TrialRouting.Proofs.Call.Route

/-!
# The limits on calls that overlap

A limiter is shared by all calls of a router, and each of their attempts that passes it holds
one of its permits while it is inside. However the calls overlap and however their attempts
end, the permits in hand and the attempts inside make up the limit: between the turns of the
calls, and within a turn wherever an attempt comes to on its way in. So a limit that an attempt
comes to rejects it exactly when it is full of other attempts.

The number of permits held is followed through one step of a call, and then through everything
that may become of a world; what other calls hold stays what it is.
-/

namespace TrialRouting

namespace Router

/-- How many permits of a limiter an attempt that has had its turn still holds. One that has ended
holds none. -/
def permits (slot : Nat) : Ending ⊕ Attempt → Nat
  | .inl _ => 0
  | .inr attempt => attempt.flight.permits slot

variable {router : Router} {call : Call} {course : Course} {s : State} {slot limit taken : Nat}

/-- An attempt that has ended, or that the deadline cuts off, holds nothing any more. One that waits
holds what it held at the end of its turn. -/
theorem lends_judge (course : Course) (token : Token) (scope : Nat) {inv : Invocation}
    {r : State × Reply} (keeps : Invocation.Keeps slot limit taken r) :
    (judge course token scope inv r).1.Lends slot limit
      (taken + permits slot (judge course token scope inv r).2) := by
  obtain ⟨s, reply⟩ := r
  cases reply with
  | done o => exact keeps.of_same rfl
  | pending flight =>
    simp only [judge]
    split
    · exact (Invocation.lends_abandon keeps).of_same rfl
    · exact keeps

/-- Launching an attempt takes the permits that the attempt then holds. If it does not get as far as
its decorators, that is none. -/
theorem lends_launch (router : Router) (call : Call) (course : Course)
    (lends : s.Lends slot limit taken) :
    (router.launch call course s).1.Lends slot limit
      (taken + permits slot (router.launch call course s).2) := by
  cases free : call.isStopped s with
  | true =>
    rw [launch_of_stopped course free]
    exact lends.of_same rfl
  | false =>
    cases listed : router.registration.trial? course.progress.current with
    | none =>
      rw [launch_of_unlisted free listed]
      exact lends.of_same rfl
    | some trial =>
      rw [launch_of_listed free listed]
      cases result : (resolution course trial s).result with
      | error source => exact lends.of_same rfl
      | ok made => exact lends_judge _ _ _ (Invocation.keeps_enter _ _ _ (lends.of_same rfl))

/-- Resuming an attempt gives back the permits of the limits it leaves and takes those of the limits
it enters. If it has been cancelled, it gives back all of them. -/
theorem lends_resumeAttempt (course : Course) {attempt : Attempt}
    (lends : s.Lends slot limit (taken + attempt.flight.permits slot)) :
    (resumeAttempt course attempt s).1.Lends slot limit
      (taken + permits slot (resumeAttempt course attempt s).2) := by
  simp only [resumeAttempt]
  split
  · exact (Invocation.lends_abandon lends).of_same rfl
  · exact lends_judge _ _ _ (Invocation.keeps_resume _ lends)

end Router

namespace Journey

/-- How many permits of a limiter the attempt of a call in flight holds. -/
def permits (slot : Nat) (j : Journey) : Nat :=
  match j.phase with
  | .attempting _ attempt => attempt.flight.permits slot
  | _ => 0

/-- What the attempt that a call is about to start, or is in, comes to in its next turn. -/
def turn? (router : Router) (s : State) (j : Journey) : Option (State × (Ending ⊕ Attempt)) :=
  match j.phase with
  | .launching course => some (router.launch j.call course s)
  | .attempting course attempt => some (Router.resumeAttempt course attempt s)
  | _ => none

/-- In its next turn an attempt of a call comes to a place on its way in. It has just been launched,
or had waited on its way and goes on. -/
inductive Meets (router : Router) (s : State) (j : Journey) : Invocation → Approach → Prop where
  | launched {course : Course} {trial : Trial} {made : Instance} {a : Approach}
      (phase : j.phase = .launching course) (free : j.call.isStopped s = false)
      (listed : router.registration.trial? course.progress.current = some trial)
      (provided : (Router.resolution course trial s).result = .ok made)
      (way : (Router.invocationOf j.call course made).Descends ⟨some course.span, [],
        router.pipeline, s.tokens.nextChild j.call.token, Router.opened course trial s⟩ a) :
      Meets router s j (Router.invocationOf j.call course made) a
  /-- The attempt had waited on its way in, and goes on. -/
  | resumed {course : Course} {attempt : Attempt} {first a : Approach}
      (phase : j.phase = .attempting course attempt)
      (free : s.isCancelled attempt.token = false)
      (again : attempt.invocation.resumption? (some course.span) attempt.flight s = some first)
      (way : attempt.invocation.Descends first a) : Meets router s j attempt.invocation a

variable {router : Router} {s s' : State} {j j' : Journey} {inv : Invocation} {a : Approach}
  {slot limit taken : Nat}

/-- What the attempt comes to in that turn is the answer it gets there, passed out through the
decorators it is inside of. So the place is one that the turn really passes. -/
theorem Meets.turn_eq (meets : j.Meets router s inv a) :
    ∃ course token scope, j.turn? router s =
      some (Router.judge course token scope inv (inv.enclose a.outer a.frames (inv.answer a))) := by
  cases meets with
  | @launched course trial made _ phase free listed provided way =>
    refine ⟨course, s.tokens.nextChild j.call.token, s.catalog.nextScope, ?_⟩
    simp only [turn?, phase, Router.launch_of_listed free listed, provided,
      Invocation.enter_eq_enclose way]
  | @resumed course attempt first _ phase free again way =>
    refine ⟨course, attempt.token, attempt.scope, ?_⟩
    simp only [turn?, phase, Router.resumeAttempt, free, Bool.false_eq_true, if_false,
      Invocation.resume_eq_enclose again way]

/-- Wherever an attempt comes to on its way in, the permits it has taken are counted, with those of
the other calls as they were at the beginning of the turn. -/
theorem Meets.lends (meets : j.Meets router s inv a)
    (lends : s.Lends slot limit (taken + j.permits slot)) :
    a.state.Lends slot limit (taken + a.permits slot) := by
  cases meets with
  | launched phase free listed provided way =>
    simp only [permits, phase] at lends
    exact way.lends (lends.of_same rfl)
  | resumed phase free again way =>
    simp only [permits, phase] at lends
    exact way.lends (Invocation.lends_resumption lends again)

/-- A step of a call takes the permits that the call holds after it, and gives back those that it
held before. There is one case for each kind of step, and only those into and out of an attempt have
anything to do with permits. -/
theorem Step.lends (step : Step router s j s' j')
    (lends : s.Lends slot limit (taken + j.permits slot)) :
    s'.Lends slot limit (taken + j'.permits slot) := by
  have aside {s' : State} (aside : s.Aside s') (idle : s.Lends slot limit (taken + 0)) :
      s'.Lends slot limit (taken + 0) := idle.of_same aside.limiters
  have launch {course : Course} {r : Ending ⊕ Attempt} {s' : State}
      (launched : router.launch j.call course s = (s', r))
      (idle : s.Lends slot limit (taken + 0)) :
      s'.Lends slot limit (taken + Router.permits slot r) := by
    have after := router.lends_launch j.call course idle
    rwa [launched] at after
  have resume {course : Course} {attempt : Attempt} {r : Ending ⊕ Attempt} {s' : State}
      (resumed : Router.resumeAttempt course attempt s = (s', r))
      (within : s.Lends slot limit (taken + attempt.flight.permits slot)) :
      s'.Lends slot limit (taken + Router.permits slot r) := by
    have after := Router.lends_resumeAttempt course within
    rwa [resumed] at after
  cases step with
  | refused phase answer =>
    simp only [permits, phase] at lends
    exact aside (router.aside_receive answer) lends
  | chosen phase answer =>
    simp only [permits, phase] at lends
    exact aside (router.aside_receive answer) lends
  | asked phase answer =>
    simp only [permits, phase] at lends
    exact aside (router.aside_receive answer) lends
  | answered phase isDue =>
    simp only [permits, phase] at lends
    exact aside (State.aside_settle s _ _) lends
  | embarked phase =>
    simp only [permits, phase] at lends
    exact aside (router.aside_embark _ _ s) lends
  | withheld phase stopped launched =>
    simp only [permits, phase] at lends
    exact launch launched lends
  | sped phase free launched =>
    simp only [permits, phase] at lends
    exact launch launched lends
  | launched phase launched =>
    simp only [permits, phase] at lends
    exact launch launched lends
  | waited phase resumed =>
    simp only [permits, phase] at lends
    exact resume resumed lends
  | left phase resumed =>
    simp only [permits, phase] at lends
    exact resume resumed lends
  | concluded phase answer =>
    simp only [permits, phase] at lends
    exact aside (router.aside_conclude answer) lends
  | fellBack phase answer =>
    simp only [permits, phase] at lends
    exact aside (router.aside_conclude answer) lends
  | dropped phase =>
    simp only [permits, phase] at lends
    exact lends
  | @droppedInFlight _ course attempt phase =>
    simp only [permits, phase] at lends
    have told := router.aside_report course .disposed
      ((attempt.invocation.abandon attempt.flight s).dropGuard (.holding attempt.scope))
    exact (Invocation.lends_abandon lends).of_same told.limiters

/-- A call without an attempt in flight holds no permits. -/
theorem permits_of_idle (idle : j.underway = []) : j.permits slot = 0 := by
  cases phase : j.phase with
  | attempting course attempt =>
    simp only [underway, phase] at idle
    cases idle
  | _ => simp only [permits, phase]

end Journey

/-- Whatever happens outside the calls leaves the limiters alone. -/
theorem State.Outside.limiters {s s' : State} (change : s.Outside s') :
    s'.limiters = s.limiters := by
  cases change <;> rfl

namespace World

/-- How many attempts of calls are inside a limit. -/
def inside (slot : Nat) (journeys : List Journey) : Nat :=
  (journeys.map (·.permits slot)).sum

/-- How many attempts are inside a limit while a call of the world, given by its number, has
come to a place on its way in: those of the other calls, and its own. -/
def present (w : World) (slot n : Nat) (a : Approach) : Nat :=
  inside slot (w.journeys.eraseIdx n) + a.permits slot

variable {router : Router} {w w' : World} {s : State} {j : Journey} {n slot limit : Nat}

/-- The attempt of one call and those of the others make up all that are inside. -/
theorem inside_eq {journeys : List Journey} (slot : Nat) (here : journeys[n]? = some j) :
    inside slot journeys = inside slot (journeys.eraseIdx n) + j.permits slot := by
  obtain ⟨known, rfl⟩ := List.getElem?_eq_some_iff.mp here
  have order : (journeys[n] :: journeys.eraseIdx n).Perm journeys :=
    List.getElem_cons_eraseIdx_perm known
  have sums : inside slot (journeys[n] :: journeys.eraseIdx n) = inside slot journeys :=
    (order.map _).sum_nat
  rw [← sums, inside, List.map_cons, List.sum_cons, Nat.add_comm]
  rfl

/-- Whatever happens in a world, the permits handed out are those of the attempts inside. A step
changes the number for the call that takes it. -/
theorem Moves.lends (moves : Moves router w w')
    (lends : w.state.Lends slot limit (inside slot w.journeys)) :
    w'.state.Lends slot limit (inside slot w'.journeys) := by
  cases moves with
  | @joined call caller =>
    have newcomer : inside slot (w.journeys ++ [({ call } : Journey)]) =
        inside slot w.journeys := by
      rw [inside, List.map_append, List.sum_append]
      rfl
    rw [newcomer]
    exact lends
  | @stepped n j j' s' here step =>
    have known : n < w.journeys.length := (List.getElem?_eq_some_iff.mp here).1
    have there : (w.journeys.set n j')[n]? = some j' := List.getElem?_set_self known
    rw [inside_eq slot here] at lends
    rw [inside_eq slot there, List.eraseIdx_set_eq]
    exact step.lends lends
  | outside change => exact lends.of_same change.limiters

/-- So they are in whatever becomes of a world, by induction on its history. -/
theorem Becomes.lends (becomes : Becomes router w w')
    (lends : w.state.Lends slot limit (inside slot w.journeys)) :
    w'.state.Lends slot limit (inside slot w'.journeys) := by
  induction becomes with
  | refl => exact lends
  | tail _ moves ih => exact moves.lends ih

/-- Where an attempt of a call has come to, the permits handed out are those of the attempts inside,
its own among them. -/
theorem lends_of_meets {inv : Invocation} {a : Approach}
    (lends : w.state.Lends slot limit (inside slot w.journeys)) (here : w.journeys[n]? = some j)
    (meets : j.Meets router w.state inv a) : a.state.Lends slot limit (w.present slot n a) := by
  rw [inside_eq slot here] at lends
  exact meets.lends lends

/-- What a limit on calls that overlap comes to. -/
structure KeepsLimit (router : Router) (slot limit : Nat) (w : World) : Prop where
  /-- The permits in hand and the attempts inside make up the limit. -/
  balanced : (w.state.limiterAt slot).available + inside slot w.journeys = limit
  /-- There are never more attempts inside than the limit says. -/
  bounded : inside slot w.journeys ≤ limit
  /-- The balance also holds within a turn, wherever an attempt comes to on its way in, -/
  entering : ∀ n j inv a, w.journeys[n]? = some j → j.Meets router w.state inv a →
    (a.state.limiterAt slot).available + w.present slot n a = limit
  /-- and again when the rest of the chain has answered there. -/
  returning : ∀ n j inv a, w.journeys[n]? = some j → j.Meets router w.state inv a →
    ((inv.answer a).1.limiterAt slot).available +
      (w.present slot n a + (inv.answer a).2.permits slot) = limit
  /-- An attempt that comes to the limit gets no further exactly if the limit is full. -/
  rejects_iff : ∀ n j inv a rest, w.journeys[n]? = some j → j.Meets router w.state inv a →
    a.rest = .concurrencyLimit slot :: rest → (inv.next? a = none ↔ w.present slot n a = limit)
  /-- If so, the limit answers that it is overloaded; the rest of the chain has no part in what
  the attempt comes to, and the limiters stay as they are. -/
  rejected : ∀ n j inv a rest, w.journeys[n]? = some j → j.Meets router w.state inv a →
    a.rest = .concurrencyLimit slot :: rest → w.present slot n a = limit →
      ∃ s, s.limiters = a.state.limiters ∧
        inv.answer a = (s, .done (.error (.routing .overloaded))) ∧
        ∃ course token scope, j.turn? router w.state = some (Router.judge course token scope inv
          (inv.enclose a.outer a.frames (s, .done (.error (.routing .overloaded)))))
  /-- If not, the attempt takes one permit, and the rest of the chain runs inside the limit. -/
  admitted : ∀ n j inv a rest, w.journeys[n]? = some j → j.Meets router w.state inv a →
    a.rest = .concurrencyLimit slot :: rest → w.present slot n a ≠ limit →
      ∃ b, inv.next? a = some b ∧ b.rest = rest ∧ w.present slot n b = w.present slot n a + 1 ∧
        inv.answer a = inv.around a.span (.permit slot) (inv.answer b)
  /-- Once no attempt is in flight, every permit is back. -/
  emptied : (∀ j ∈ w.journeys, j.underway = []) → (w.state.limiterAt slot).available = limit

/-- Permits that are those of the attempts inside keep the limit. All that is said of a limit
follows from that balance. -/
theorem keepsLimit_of_lends (lends : w.state.Lends slot limit (inside slot w.journeys)) :
    KeepsLimit router slot limit w where
  balanced := lends.total
  bounded := by
    have total := lends.total
    omega
  entering n j inv a here meets := (lends_of_meets lends here meets).total
  returning n j inv a here meets :=
    State.Lends.total (inv.keeps_enter _ _ _ (lends_of_meets lends here meets))
  rejects_iff n j inv a rest here meets limited := by
    have exhausted := (lends_of_meets lends here meets).isExhausted_iff
    rw [← exhausted]
    refine ⟨fun stuck => ?_, fun full => (inv.answer_of_exhausted limited full).1⟩
    refine Decidable.byContradiction fun free => ?_
    rw [(inv.answer_of_free limited free).1] at stuck
    cases stuck
  rejected n j inv a rest here meets limited full := by
    have exhausted := (lends_of_meets lends here meets).isExhausted_iff.mpr full
    have answer := (inv.answer_of_exhausted limited exhausted).2
    obtain ⟨course, token, scope, turn⟩ := meets.turn_eq
    rw [answer] at turn
    refine ⟨_, ?_, answer, course, token, scope, turn⟩
    rfl
  admitted n j inv a rest here meets limited room := by
    have free := mt (lends_of_meets lends here meets).isExhausted_iff.mp room
    obtain ⟨next, answer⟩ := inv.answer_of_free limited free
    refine ⟨_, next, rfl, ?_, ?_⟩
    · rw [present, Approach.permits_within, ← Nat.add_assoc]
      simp only [Frame.permits, if_true]
      rfl
    · rw [answer, Invocation.answer, Approach.span_within]
      rfl
  emptied idle := by
    have nobody : w.journeys.map (·.permits slot) = List.replicate w.journeys.length 0 :=
      List.map_eq_replicate_iff.mpr fun j member => Journey.permits_of_idle (idle j member)
    have total := lends.total
    rwa [inside, nobody, List.sum_replicate_nat, Nat.mul_zero, Nat.add_zero] at total

/-- Whatever the decorators of a router are, however its calls overlap and however their attempts
end, a limit is kept: its permits are in hand or with the attempts inside, so it rejects an attempt
exactly when it is full, and it has them all back in the end.

Proof: the permits handed out are those of the attempts inside, at the start and after every step,
and wherever an attempt comes to within its turn. Whether one is left can then be read off the
number inside. -/
theorem keeps_limit (start : s.limiters[slot]? = some (.full limit))
    (becomes : Becomes router ⟨s, []⟩ w) : KeepsLimit router slot limit w := by
  have lends : s.Lends slot limit (inside slot []) := ⟨limit, start, rfl⟩
  exact keepsLimit_of_lends (becomes.lends lends)

/-- The start of the trial with a spare, with room for one attempt. -/
def crowdedStart : State :=
  { spareStart with limiters := [.full 1] }

/-- The second call of the trial waits inside the limit, and the first one is about to start
its attempt. -/
def crowdedWorld : World :=
  advance spareRouter [1, 1, 1, 1, 1, 0, 0, 0, 0]
    ⟨crowdedStart, [{ call := spareCall 0 "hi" }, { call := spareCall 1 "wait" }]⟩

/-- The two calls have joined and taken their steps, in the order of the numbers. -/
theorem becomes_crowdedWorld : Becomes spareRouter ⟨crowdedStart, []⟩ crowdedWorld := by
  have first : Moves spareRouter ⟨crowdedStart, []⟩
      ⟨crowdedStart, [{ call := spareCall 0 "hi" }]⟩ := .joined (by decide)
  have second : Moves spareRouter ⟨crowdedStart, [{ call := spareCall 0 "hi" }]⟩
      ⟨crowdedStart, [{ call := spareCall 0 "hi" }, { call := spareCall 1 "wait" }]⟩ :=
    .joined (by decide)
  exact .trans (.tail (.single first) second) (becomes_advance _ _ _)

/-- While one attempt waits inside a limit of one, another comes to the limit and gets no
further. -/
theorem crowded_limit_rejects :
    crowdedStart.limiters[0]? = some (.full 1) ∧
      Becomes spareRouter ⟨crowdedStart, []⟩ crowdedWorld ∧
      KeepsLimit spareRouter 0 1 crowdedWorld ∧ inside 0 crowdedWorld.journeys = 1 ∧
      ∃ j inv a, crowdedWorld.journeys[0]? = some j ∧
        j.Meets spareRouter crowdedWorld.state inv a ∧ a.rest = [.concurrencyLimit 0] ∧
        inv.next? a = none := by
  have start : crowdedStart.limiters[0]? = some (.full 1) := rfl
  have keeps : KeepsLimit spareRouter 0 1 crowdedWorld := keeps_limit start becomes_crowdedWorld
  have meets : Journey.Meets spareRouter crowdedWorld.state crowdedWorld.journeys[0] _ _ :=
    .launched rfl rfl rfl rfl (.tail (.tail .refl rfl) rfl)
  refine ⟨start, becomes_crowdedWorld, keeps, rfl, _, _, _, rfl, meets, rfl, ?_⟩
  exact (keeps.rejects_iff 0 _ _ _ [] rfl meets rfl).mpr rfl

end World

end TrialRouting
