import TrialRouting.Proofs.Scopes
import TrialRouting.Proofs.Greeter.Stack

/-!
# How attempts at a greeting end

An attempt of the greeter's router at a key that serves is rejected by the key's circuit, or ends
at once, or waits for its work with two timers running: its own and that of its bound. When it is
resumed, whatever is due first decides: the work is done, or the bound has run out, or the call
takes the attempt down because the trial's deadline has passed. In every case the permit is back
and the circuit has learned the ending, so that what an attempt leaves is told by its ending alone.
-/

namespace TrialRouting

open Greeter

/-- Whoever asks for an implementation before a backdrop is served by an instance that does so
and so with the request. -/
structure Backdrop.Serves (backdrop : Backdrop) (implementation : String) (request : Request)
    (b : Behavior) : Prop where
  offered : ∃ i r, backdrop.current.lookup? implementation = some i ∧
    backdrop.recipes[i]? = some r ∧ (∀ n, r.construction n = none) ∧
    (∀ made, r.shared = some made → made.recipe = i) ∧ ∀ n, r.behavior n request = b
  ends : b.hangs = false
  cancelsNobody : b.cancelsCaller = false

/-- An instance of a registration does what the registration says, whichever of its instances it
is. -/
theorem Backdrop.Serves.does {backdrop : Backdrop} {r : Recipe} {request : Request} {b : Behavior}
    {made : Instance} (listed : backdrop.recipes[made.recipe]? = some r)
    (behavior : ∀ n, r.behavior n request = b) (ends : b.hangs = false)
    (cancelsNobody : b.cancelsCaller = false) (handsOut : Bool) :
    (Work.serve made request handsOut).Does backdrop b := by
  refine ⟨fun s same => ?_, ends, cancelsNobody⟩
  subst same
  rw [State.backdrop, List.getElem?_map] at listed
  obtain ⟨recipe, found, rfl⟩ := Option.map_eq_some_iff.mp listed
  rw [Work.behavior, Catalog.behavior, found]
  exact behavior _

namespace Router

variable {router : Router} {call : Call} {course : Course} {s : State} {now later : Instant}
  {f : TokenForest} {c : Circuits} {available : Nat} {backdrop : Backdrop} {b : Behavior}
  {a : Admission}

/-- A new scope makes an instance that serves the call, or finds one that is shared. -/
theorem resolution_of_serves {trial : Trial} {request : Request}
    (serves : s.backdrop.Serves trial.implementation request b) (course : Course)
    (handsOut : Bool) : ∃ made, (resolution course trial s).result = .ok made ∧
      (Work.serve made request handsOut).Does s.backdrop b := by
  obtain ⟨i, r, current, listed, builds, shared, behavior⟩ := serves.offered
  have does {made : Instance} (same : made.recipe = i) :
      (Work.serve made request handsOut).Does s.backdrop b :=
    Backdrop.Serves.does (same ▸ listed) behavior serves.ends serves.cancelsNobody handsOut
  rw [State.backdrop, List.getElem?_map] at listed
  obtain ⟨recipe, found, rfl⟩ := Option.map_eq_some_iff.mp listed
  have asked : (resolution course trial s).result =
      (s.catalog.openScope.construct i recipe).result :=
    Catalog.result_resolve_openScope current found
  rw [asked, Catalog.construct]
  cases has : recipe.shared with
  | some made => exact ⟨made, rfl, does (shared made has)⟩
  | none =>
    have succeeds : recipe.construction (recipe.built + 1) = none := builds _
    exact ⟨⟨recipe.name, i, recipe.built + 1⟩, by dsimp only; rw [succeeds], does rfl⟩

/-- The attempt that a call has come to can be served. -/
structure Offers (router : Router) (call : Call) (course : Course) (backdrop : Backdrop)
    (b : Behavior) : Prop where
  pipeline : router.pipeline = stack
  trial : ∃ trial, router.registration.trial? course.progress.current = some trial ∧
    backdrop.Serves trial.implementation call.request b

/-- What is left of an attempt on a key that has come to its end: no permit is missing, the caller's
token is as it was, and only the circuit of the key has changed, which is closed if the attempt has
succeeded. -/
structure Leaves (key : String) (token : Token) (now : Instant) (c : Circuits)
    (available : Nat) (backdrop : Backdrop) (ending : Ending) (s : State) : Prop where
  standing : ∃ f' c', s.standing = desk now f' c' available backdrop ∧ f'.Holds token ∧
    (∀ other, other ≠ key → c'.breaker other = c.breaker other) ∧
    ∀ v, ending = .completed (.ok v) → (c'.breaker key).state = .closed

/-- Settling in the circuit of its key is all that an attempt leaves there. A success closes the
circuit, whatever it was before. -/
theorem leaves_of_settled {key : String} {token : Token} {ending : Ending} {how : Settlement}
    (standing : s.standing = desk later f ((c.arrive key now).settle key a later how) available
      backdrop) (holds : f.Holds token)
    (told : ∀ v, ending = .completed (.ok v) → how = .succeeded) :
    Leaves key token later c available backdrop ending s := by
  refine ⟨f, _, standing, holds, fun other different => ?_, fun v ok => ?_⟩
  · rw [Circuits.breaker_settle_of_ne _ _ _ _ _ different]
    exact Circuits.breaker_put_of_ne _ _ different
  · rw [told v ok]
    exact Circuits.state_succeed _ _ _

/-- An attempt enters the decorators. It is not stopped, its key has a trial, and its implementation
can be had. -/
theorem launch_eq (offers : Offers router call course backdrop b)
    (found : s.standing = desk now f c available backdrop) (holds : f.Holds call.token) :
    ∃ made s', (Work.serve made call.request call.handsOut).Does backdrop b ∧
      s'.standing = desk now f.issue c available backdrop ∧
      router.launch call course s =
        judge course (f.nextChild call.token) s.catalog.nextScope (invocationOf call course made)
          ((invocationOf call course made).enter (some course.span) stack
            (f.nextChild call.token) s') := by
  obtain ⟨trial, listed, serves⟩ := offers.trial
  obtain rfl : s.tokens = f := congrArg Standing.tokens found
  obtain rfl : s.backdrop = backdrop := congrArg Standing.backdrop found
  have free : call.isStopped s = false := holds.child.live
  obtain ⟨made, built, does⟩ := resolution_of_serves serves course call.handsOut
  refine ⟨made, opened course trial s, does, ?_, ?_⟩
  · have same : (opened course trial s).standing = s.issueToken.standing :=
      State.standing_afterResolution _ _ _
    rw [same, State.standing_issueToken, found]
    rfl
  · rw [launch_of_listed free listed, built, offers.pipeline]

/-- An attempt that is done has its scope disposed. The deadline has nothing to do with it any
more. -/
theorem judge_of_done (course : Course) (token : Token) (scope : Nat) (inv : Invocation)
    (o : Outcome) (s : State) : ∃ s', judge course token scope inv (s, .done o) =
        (s', .inl (.completed o)) ∧ s'.standing = s.standing := by
  refine ⟨_, rfl, ?_⟩
  rw [State.dropGuard, s.disposeGuard_disposeGuard]
  exact s.standing_dropGuard scope

/-- An attempt that an open circuit rejects fails at once, and gives its permit back. -/
theorem launch_of_rejected (offers : Offers router call course backdrop b)
    (found : s.standing = desk now f c (available + 1) backdrop) (holds : f.Holds call.token)
    (rejected : c.admission? course.progress.current now = none) :
    ∃ s' failure, router.launch call course s = (s', .inl (.completed (.error failure))) ∧
      Leaves course.progress.current call.token now c (available + 1) backdrop
        (.completed (.error failure)) s' := by
  obtain ⟨made, s₁, -, opened, launched⟩ := launch_eq offers found holds
  obtain ⟨s₂, failure, answer, rest⟩ := (invocationOf call course made).enter_stack_of_rejected
    (some course.span) (f.nextChild call.token) opened rejected
  obtain ⟨s', judged, same⟩ := judge_of_done course (f.nextChild call.token) s.catalog.nextScope
    (invocationOf call course made) (.error failure) s₂
  refine ⟨s', failure, by rw [launched, answer, judged], ⟨_, _, same.trans rest, holds.issue,
    fun other different => Circuits.breaker_put_of_ne _ _ different, by simp⟩⟩

/-- An attempt that a circuit admits comes to its work, through all four decorators. -/
theorem launch_of_admitted (offers : Offers router call course backdrop b)
    (found : s.standing = desk now f c (available + 1) backdrop) (holds : f.Holds call.token)
    (admitted : c.admission? course.progress.current now = some a) :
    ∃ made own inner s', f.issue.issue.Holds inner ∧ inner.id ∉ call.token.id :: call.token.above ∧
      s'.standing = desk now f.issue.issue (c.arrive course.progress.current now) available
        backdrop ∧
      router.launch call course s =
        judge course (f.nextChild call.token) s.catalog.nextScope (invocationOf call course made)
          ((invocationOf call course made).enclose (some course.span)
            (enclosure own now a inner (backdrop.timer.due? now bound))
            (s', b.reply now inner)) := by
  obtain ⟨made, s₁, does, opened, launched⟩ := launch_eq offers found holds
  obtain ⟨own, s', entered, inside⟩ := (invocationOf call course made).enter_stack_of_admitted
    (some course.span) opened admitted holds.issue.sound holds.child.live does
  exact ⟨made, own, _, s', holds.child.child, holds.apart (Nat.le_succ _), inside,
    by rw [launched, entered]⟩

/-- If its work is done at once, so is the attempt, with the outcome of the work. -/
theorem launch_of_ready (offers : Offers router call course backdrop b)
    (found : s.standing = desk now f c (available + 1) backdrop) (holds : f.Holds call.token)
    (admitted : c.admission? course.progress.current now = some a) (ready : b.pause = 0) :
    ∃ s', router.launch call course s = (s', .inl (.completed b.outcome)) ∧
      Leaves course.progress.current call.token now c (available + 1) backdrop
        (.completed b.outcome) s' := by
  obtain ⟨made, own, inner, s₁, -, -, inside, launched⟩ :=
    launch_of_admitted offers found holds admitted
  have reply : b.reply now inner = .done b.outcome := if_pos ready
  obtain ⟨s₂, answer, rest⟩ := (invocationOf call course made).enclose_of_done
    (some course.span) own now a inner (backdrop.timer.due? now bound) b.outcome inside
  obtain ⟨s', judged, same⟩ := judge_of_done course (f.nextChild call.token) s.catalog.nextScope
    (invocationOf call course made) b.outcome s₂
  refine ⟨s', by rw [launched, reply, answer, judged],
    leaves_of_settled (same.trans rest) holds.issue.issue fun v ok => ?_⟩
  rw [Ending.completed.inj ok]
  rfl

/-! ### Attempts that wait -/

/-- An attempt on a key that has set out at some time and waits for its work. It holds a permit,
and its own token and the one inside its bound on the time are in its hands. -/
inductive Waits (key : String) (token : Token) (since : Instant) (c : Circuits) (available : Nat)
    (backdrop : Backdrop) (b : Behavior) : Attempt → State → Prop where
  | waits {f : TokenForest} {own : Trace.Span} {a : Admission} {inner : Token} {attempt : Attempt}
      {s : State} (on : attempt.invocation.context.key = key)
      (standing : s.standing = desk s.now f (c.arrive key since) available backdrop)
      (holds : f.Holds token) (outside : f.Holds attempt.token) (inside : f.Holds inner)
      (apart : ∀ t ∈ [attempt.token, inner], t.id ∉ token.id :: token.above)
      (flight : attempt.flight = (Flight.working (some (since + b.pause)) inner b.outcome).nested
        (enclosure own since a inner (some (since + config.attemptMillis)))) :
      Waits key token since c available backdrop b attempt s

/-- The attempt waits if its work takes time and no deadline has passed. It holds its permit and its
place in the circuit meanwhile. -/
theorem launch_of_busy (offers : Offers router call course backdrop b)
    (found : s.standing = desk now f c (available + 1) backdrop) (holds : f.Holds call.token)
    (admitted : c.admission? course.progress.current now = some a) (busy : b.pause ≠ 0)
    (inTime : course.isOverdue now = false)
    (inRange : now + config.attemptMillis ≤ backdrop.timer.range) :
    ∃ s' attempt, router.launch call course s = (s', .inr attempt) ∧ s'.now = now ∧
      Waits course.progress.current call.token now c available backdrop b attempt s' := by
  obtain ⟨made, own, inner, s', held, apart, inside, launched⟩ :=
    launch_of_admitted offers found holds admitted
  obtain rfl : s'.now = now := congrArg Standing.now inside
  have length : bound.ceilMillis = config.attemptMillis := Duration.ceilMillis_ofMillis _
  have due : backdrop.timer.due? s'.now bound = some (s'.now + config.attemptMillis) := by
    rw [Timer.due?, backdrop.timer.exact s'.now bound (length ▸ inRange), length]
    rfl
  have early : ∀ t, some (s'.now + config.attemptMillis) = some t → s'.now < t := by
    rintro _ ⟨⟩
    exact Nat.lt_add_of_pos_right (by decide)
  have waiting : router.launch call course s = (s', .inr ⟨f.nextChild call.token,
      s.catalog.nextScope, invocationOf call course made,
      (Flight.working (some (s'.now + b.pause)) inner b.outcome).nested
        (enclosure own s'.now a inner (some (s'.now + config.attemptMillis)))⟩) := by
    rw [launched, Behavior.reply, if_neg busy, due, Invocation.enclose_of_early _ _ early]
    simp only [judge, inTime, Bool.false_eq_true, if_false]
  refine ⟨s', _, waiting, rfl, .waits rfl inside holds.issue.issue holds.child.issue held ?_ rfl⟩
  rw [List.forall_mem_cons, List.forall_mem_singleton]
  exact ⟨holds.apart (Nat.le_refl _), apart⟩

variable {key : String} {token : Token} {since : Instant} {attempt : Attempt}

/-- The caller's token is not cancelled, -/
theorem Waits.live (waits : Waits key token since c available backdrop b attempt s) :
    s.isCancelled token = false := by
  obtain ⟨-, standing, holds⟩ := waits
  exact (State.isCancelled_of_desk standing token).trans holds.live

/-- and the bound on its time and its work are what the attempt waits for. -/
theorem Waits.timers (waits : Waits key token since c available backdrop b attempt s) :
    attempt.flight.timers = [since + config.attemptMillis, since + b.pause] := by
  obtain ⟨-, -, -, -, -, -, flight⟩ := waits
  rw [flight]
  rfl

/-- It goes on waiting while the clock moves on, until it is resumed. -/
theorem Waits.clock (waits : Waits key token since c available backdrop b attempt s)
    (now : Instant) : Waits key token since c available backdrop b attempt { s with now } := by
  obtain ⟨on, standing, holds, outside, inside, apart, flight⟩ := waits
  exact .waits on (congrArg (fun st : Standing => { st with now }) standing) holds outside inside
    apart flight

/-- Work that is not cancelled is done when it is due. -/
theorem resume_working (inv : Invocation) (span : Option Trace.Span) {due : Instant}
    {token : Token} (o : Outcome) (live : s.isCancelled token = false) :
    inv.resume span (.working (some due) token o) s =
      (s, if due ≤ s.now then .done o else .pending (.working (some due) token o)) := by
  simp only [Invocation.resume, live, Option.any_some, decide_eq_true_eq, Bool.false_eq_true,
    if_false]
  split <;> rfl

/-- An attempt that waits is resumed at its work, and what that comes to passes the decorators. -/
theorem resume_of_waits {f : TokenForest} {own : Trace.Span} {inner : Token} (course : Course)
    (standing : s.standing = desk s.now f c available backdrop) (outside : f.Holds attempt.token)
    (inside : f.Holds inner)
    (flight : attempt.flight = (Flight.working (some (since + b.pause)) inner b.outcome).nested
      (enclosure own since a inner (some (since + config.attemptMillis)))) :
    resumeAttempt course attempt s =
      judge course attempt.token attempt.scope attempt.invocation
        (attempt.invocation.enclose (some course.span)
          (enclosure own since a inner (some (since + config.attemptMillis)))
          (s, if since + b.pause ≤ s.now then .done b.outcome
            else .pending (.working (some (since + b.pause)) inner b.outcome))) := by
  obtain rfl : s.tokens = f := congrArg Standing.tokens standing
  have live : s.isCancelled attempt.token = false := outside.live
  have working : s.isCancelled inner = false := inside.live
  rw [resumeAttempt, live, flight, Invocation.resume_nested, resume_working _ _ _ working]
  rfl

/-- Work that is done in time decides how the attempt ends. This is so even if the bound is due at
the same instant, since the work is asked first. -/
theorem resume_of_done (waits : Waits key token since c available backdrop b attempt s)
    (course : Course) (done : since + b.pause ≤ s.now) :
    ∃ s', resumeAttempt course attempt s = (s', .inl (.completed b.outcome)) ∧
      Leaves key token s.now c (available + 1) backdrop (.completed b.outcome) s' := by
  obtain @⟨f, own, a, inner, attempt, s, rfl, found, holds, outside, inside, apart, flight⟩ := waits
  have resumed := resume_of_waits course found outside inside flight
  obtain ⟨s₁, answer, rest⟩ := attempt.invocation.enclose_of_done (some course.span) own
    since a inner (some (since + config.attemptMillis)) b.outcome found
  obtain ⟨s', judged, same⟩ := judge_of_done course attempt.token attempt.scope attempt.invocation
    b.outcome s₁
  refine ⟨s', by rw [resumed, if_pos done, answer, judged],
    leaves_of_settled (same.trans rest) holds fun v ok => ?_⟩
  rw [Ending.completed.inj ok]
  rfl

/-- Work that takes longer than an attempt may take makes it fail, and the circuit counts that as a
failure. -/
theorem resume_of_late (waits : Waits key token since c available backdrop b attempt s)
    (course : Course) (busy : s.now < since + b.pause)
    (late : since + config.attemptMillis ≤ s.now) :
    ∃ s' failure, resumeAttempt course attempt s = (s', .inl (.completed (.error failure))) ∧
      Leaves key token s.now c (available + 1) backdrop (.completed (.error failure)) s' := by
  obtain @⟨f, own, a, inner, attempt, s, rfl, found, holds, outside, inside, apart, flight⟩ := waits
  have resumed := resume_of_waits course found outside inside flight
  obtain ⟨s₁, failure, answer, rest⟩ := attempt.invocation.enclose_of_late (some course.span)
    own since a inner inner (some (since + b.pause)) b.outcome found late
  obtain ⟨s', judged, same⟩ := judge_of_done course attempt.token attempt.scope attempt.invocation
    (.error failure) s₁
  have still : (f.cancel inner).Holds token :=
    holds.cancel (inside.issued _ List.mem_cons_self) (apart inner (by simp))
  exact ⟨s', failure, by rw [resumed, if_neg (Nat.not_le_of_lt busy), answer, judged],
    leaves_of_settled (same.trans rest) still fun v failed => by simp at failed⟩

/-- An attempt that is cut off gives back what it holds, and its token is cancelled. -/
theorem standing_cutOff {o : Outcome} {due limit : Option Instant} {own : Trace.Span}
    {inner : Token} (found : s.standing = desk now f c available backdrop)
    (flight : attempt.flight =
      (Flight.working due inner o).nested (enclosure own since a inner limit)) :
    (cutOff attempt s).standing = desk now (f.cancel attempt.token)
      (c.settle attempt.invocation.context.key a now .ignored) (available + 1) backdrop := by
  rw [cutOff, State.standing_cancel, State.standing_dropGuard, flight,
    Invocation.standing_abandon, found]
  rfl

/-- The trial's deadline cuts off an attempt that still waits, and no circuit counts that. -/
theorem resume_of_overdue (waits : Waits key token since c available backdrop b attempt s)
    (busy : s.now < since + b.pause) (early : s.now < since + config.attemptMillis)
    (overdue : course.isOverdue s.now = true) :
    ∃ s', resumeAttempt course attempt s = (s', .inl .expired) ∧
      Leaves key token s.now c (available + 1) backdrop .expired s' := by
  obtain @⟨f, own, a, inner, attempt, s, rfl, found, holds, outside, inside, apart, flight⟩ := waits
  have resumed := resume_of_waits course found outside inside flight
  have still : (f.cancel attempt.token).Holds token :=
    holds.cancel (outside.issued _ List.mem_cons_self) (apart attempt.token (by simp))
  have bounded : ∀ t, some (since + config.attemptMillis) = some t → s.now < t := by
    rintro _ ⟨⟩
    exact early
  refine ⟨cutOff attempt s, ?_,
    leaves_of_settled (standing_cutOff found flight) still fun v ok => by simp at ok⟩
  rw [resumed, if_neg (Nat.not_le_of_lt busy), Invocation.enclose_of_early _ _ bounded, ← flight]
  simp only [judge, overdue, if_true]

end Router

end TrialRouting
