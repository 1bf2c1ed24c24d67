import TrialRouting.Proofs.Call.Cancellation
import TrialRouting.Proofs.Greeter.Attempts

/-!
# Calls for a greeting

A call of the built-in trial selects a key by the flag and makes one attempt or two. The friendly
greeter gives its greeting if it neither fails nor is late; otherwise, and also if its circuit is
open, the call falls back to the classic greeter, which answers at once behind a circuit that
stays closed. Which of the two greetings the caller is told depends on the settings only, and the
call waits no longer than the delay, the deadline and the bound of an attempt each allow.
-/

namespace TrialRouting

namespace Greeter

/-- The deadline of the built-in trial. -/
def policy (deadline : Nat) : TimeoutPolicy :=
  ⟨.ofMillis deadline, .fallbackToDefault, .wholeSequence⟩

/-- The built-in trial, once it has been checked. -/
def routing (deadline : Nat) : Registration where
  service := "greeter"
  mode := booleanFlagMode
  selector := flagName
  defaultKey := "false"
  trials := [⟨"false", "classic"⟩, ⟨"true", "friendly"⟩]
  onError := .redirectToDefault
  timeout := some (policy deadline)
  window := .unbounded
  predicate := none

/-- The router of the built-in trial. -/
def Settings.router (settings : Settings) : Router :=
  ⟨routing settings.deadline, stack, .tracing⟩

/-- The request for a greeting. -/
def Settings.request (settings : Settings) : Request :=
  ⟨.call, settings.name⟩

/-- A backdrop before which greetings go by the settings: the flag is as they say, and so are
the greeters. The timer is exact for as long as the clock runs. -/
structure Settings.Stages (settings : Settings) (backdrop : Backdrop) : Prop where
  range : backdrop.timer.range = Instant.last
  mode : backdrop.selector.mode? booleanFlagMode = some .booleanFlag
  flag : backdrop.selector.flag? flagName = .ok (some settings.newGreeting)
  classic : backdrop.Serves "classic" settings.request (classic.behavior 0 settings.request)
  friendly : backdrop.Serves "friendly" settings.request
    ((friendly settings).behavior 0 settings.request)

/-- Whether the friendly greeter has its say: it is asked, it does not fail, and it is not too
late for the trial or for an attempt. -/
def Settings.isFriendly (settings : Settings) : Bool :=
  settings.newGreeting && !settings.friendlyFails &&
    decide (settings.friendlyDelay ≤ settings.deadline) &&
    decide (settings.friendlyDelay ≤ 30000)

/-- The greeting that every call is to get. -/
def Settings.greeting (settings : Settings) : String :=
  if settings.isFriendly then "Hey " ++ settings.name ++ ", great to see you!"
  else "Hello, " ++ settings.name ++ "."

/-- The key that the flag selects. -/
def Settings.key (settings : Settings) : String :=
  if settings.newGreeting then "true" else "false"

end Greeter

open Greeter

namespace Router

variable {router : Router} {call : Call} {course : Course} {s s' : State} {ending : Ending}

/-- The next attempt of a call starts, and the call goes on if the attempt ends at once. -/
def serve (router : Router) (call : Call) (course : Course) (s : State) :
    State × Step Stage Outcome :=
  match router.launch call course s with
  | (s, .inl ending) => router.pursue call course ending s
  | (s, .inr attempt) => (s, .running (.attempting course attempt))

/-- A selected call sets out and starts its first attempt. -/
theorem follow_eq (router : Router) (call : Call) (selection : Selection) (s : State) :
    router.follow call selection s = router.serve call (router.embark call selection s).2
      (router.embark call selection s).1 := by
  rcases launched : router.launch call (router.embark call selection s).2
    (router.embark call selection s).1 with ⟨s', ending | attempt⟩ <;>
    simp only [follow, serve, launched]

theorem serve_of_ended (launched : router.launch call course s = (s', .inl ending)) :
    router.serve call course s = router.pursue call course ending s' := by
  rw [serve, launched]

theorem serve_of_waiting {attempt : Attempt}
    (launched : router.launch call course s = (s', .inr attempt)) :
    router.serve call course s = (s', .running (.attempting course attempt)) := by
  rw [serve, launched]

/-- A call whose attempt has ended with a value is told the value, and nothing more is attempted. -/
theorem pursue_of_value (router : Router) (call : Call) (course : Course) (s : State)
    (v : Value) : ∃ s', router.pursue call course (.completed (.ok v)) s = (s', .finished (.ok v)) ∧
      s'.standing = s.standing :=
  ⟨(router.conclude call course (.completed (.ok v)) s).1,
    pursue_of_outcome (Prod.ext rfl (conclude_of_value router call course s v)),
    router.standing_conclude course s call _⟩

/-- A call that goes on after an attempt starts its next one, at the same instant. -/
theorem pursue_of_further (call : Call) {next : Course} (free : s.isCancelled call.token = false)
    {f : Failure} {trigger : Trigger} {deadline : Option (Instant × TimeoutPolicy)}
    {progress : Progress} {key : String}
    (verdict : router.verdict? course ending = some (.error f, trigger, deadline))
    (further : course.progress.advance (α := Value) router.registration (.error f) trigger =
      (progress, .attempt key)) (same : next = { course with progress, deadline }) :
    ∃ s', router.pursue call course ending s = router.serve call next s' ∧
      s'.standing = s.standing := by
  have goesOn := conclude_of_free router verdict free
  rw [further] at goesOn
  have onward := pursue_of_next (Prod.ext rfl (goesOn.trans (congrArg _ same.symm)))
  refine ⟨(router.conclude call course ending s).1, onward.trans ?_,
    router.standing_conclude course s call ending⟩
  rcases launched : router.launch call next (router.conclude call course ending s).1 with
    ⟨s', e | attempt⟩ <;>
    simp only [serve, launched]

end Router

namespace Greeter

variable {settings : Settings} {course : Course} {s s' : State} {ending : Ending}
  {now : Instant} {f : TokenForest} {c : Circuits} {available : Nat} {backdrop : Backdrop}

/-! ### Selection -/

/-- Both keys that the flag may select are keys of the trial, so that no selection is turned
down. -/
theorem contains_key (settings : Settings) :
    (routing settings.deadline).contains settings.key = true := by
  unfold Settings.key
  cases settings.newGreeting <;> rfl

/-- The flag selects a key at once. It is set before the first call, and its mode takes no time. -/
theorem choose_eq (stages : settings.Stages s.backdrop) (method : String) :
    ∃ s', s.choose (routing settings.deadline) method =
      (s', .settled ⟨settings.key, .provider⟩) := by
  have mode : s.selector.mode? booleanFlagMode = some .booleanFlag := stages.mode
  have flag : s.selector.flag? flagName = .ok (some settings.newGreeting) := stages.flag
  have opinion : s.selector.opinion (routing settings.deadline) method .booleanFlag =
      .ok (some settings.key) := by
    have key : Mode.flagKey? (routing settings.deadline) settings.newGreeting =
        some settings.key := if_pos (contains_key settings)
    rw [← key]
    simp only [Selector.opinion, flag,
      show (routing settings.deadline).selector = flagName from rfl]
    rfl
  have selected : Selection.ofOpinion (routing settings.deadline) (.ok (some settings.key)) =
      ⟨settings.key, .provider⟩ := if_pos (contains_key settings)
  have gated : (s.afterGate ((routing settings.deadline).predicateCalls s.wallClock)).selector =
      s.selector := rfl
  have active : (routing settings.deadline).inactive? method s.wallClock = none := rfl
  simp only [State.choose, active, State.ask, gated, State.settle, Selector.delay, opinion,
    selected, show s.selector.mode? (routing settings.deadline).mode = some .booleanFlag from mode,
    if_true]
  exact ⟨_, rfl⟩

/-- A call for a greeting asks the flag, and starts its attempts with the key that it selects, under
the deadline that counts from now. -/
theorem start_eq (call : Call) (stages : settings.Stages s.backdrop)
    (live : s.isCancelled call.token = false) :
    ∃ course s', settings.router.start call s = settings.router.serve call course s' ∧
      s'.standing = s.standing ∧ course.progress = .start settings.key ∧
      course.deadline = (Instant.after? s.now (.ofMillis settings.deadline)).map
        (·, policy settings.deadline) := by
  obtain ⟨s₁, chosen⟩ := choose_eq stages call.method
  have same : s₁.standing = s.standing := by
    have shown := s.standing_choose (routing settings.deadline) call.method
    rwa [chosen] at shown
  have received : settings.router.receive call s =
      (s₁, .inr (.settled ⟨settings.key, .provider⟩)) := by
    simp only [Router.receive, live, Bool.false_eq_true, if_false]
    rw [show settings.router.registration = routing settings.deadline from rfl, chosen]
  have embarked := settings.router.standing_embark s₁ call ⟨settings.key, .provider⟩
  refine ⟨(settings.router.embark call ⟨settings.key, .provider⟩ s₁).2, _, ?_, embarked.trans same,
    rfl, ?_⟩
  · rw [Router.start, received]
    exact Router.follow_eq ..
  · have clock : s₁.now = s.now := congrArg Standing.now same
    simp only [Router.embark, State.openSpan, State.record, clock]
    rw [show settings.router.registration.timeout = some (policy settings.deadline) from rfl,
      Option.bind_some, policy]

/-! ### The classic greeter -/

/-- An ending after which the built-in trial falls back on its default key. -/
inductive Falls (course : Course) : Ending → Prop where
  | failed (f : Failure) : Falls course (.completed (.error f))
  | expired {due : Instant} {policy : TimeoutPolicy}
      (deadline : course.deadline = some (due, policy))
      (action : policy.action = .fallbackToDefault) : Falls course .expired

/-- A closed circuit admits an attempt, at whatever time it comes. -/
theorem admission?_of_closed {key : String} (closed : (c.breaker key).state = .closed)
    (now : Instant) : c.admission? key now = some .normal := by
  simp only [Circuits.admission?, Breaker.arrive, closed]

/-- The classic greeter answers at once. Its circuit is closed and stays so, since it never
fails. -/
theorem serve_classic (course : Course) (stages : settings.Stages backdrop) {token : Token}
    (current : course.progress.current = "false")
    (found : s.standing = desk now f c (available + 1) backdrop) (holds : f.Holds token)
    (closed : (c.breaker "false").state = .closed) :
    ∃ s', settings.router.serve (call settings.name token) course s =
        (s', .finished (.ok (.text ("Hello, " ++ settings.name ++ ".")))) ∧
      Router.Leaves "false" token now c (available + 1) backdrop
        (.completed (.ok (.text ("Hello, " ++ settings.name ++ ".")))) s' := by
  have offers : settings.router.Offers (call settings.name token) course backdrop
      (classic.behavior 0 settings.request) :=
    ⟨rfl, ⟨"false", "classic"⟩, by rw [current]; rfl, stages.classic⟩
  obtain ⟨s₁, launched, leaves⟩ := Router.launch_of_ready offers found holds
    (current ▸ admission?_of_closed closed now) rfl
  obtain ⟨s', answered, same⟩ := settings.router.pursue_of_value (call settings.name token) course
    s₁ (.text ("Hello, " ++ settings.name ++ "."))
  refine ⟨s', ?_, ?_⟩
  · rw [Router.serve_of_ended launched]
    exact answered
  · rw [current] at leaves
    exact ⟨same ▸ leaves.standing⟩

/-- It is what a call falls back on if the friendly greeter does not answer in time, or fails, or is
not let through. -/
theorem pursue_of_falls (stages : settings.Stages backdrop) {token : Token}
    (progress : course.progress = .start "true") (falls : Falls course ending)
    (found : s.standing = desk now f c (available + 1) backdrop) (holds : f.Holds token)
    (closed : (c.breaker "false").state = .closed) :
    ∃ s', settings.router.pursue (call settings.name token) course ending s =
        (s', .finished (.ok (.text ("Hello, " ++ settings.name ++ ".")))) ∧
      Router.Leaves "false" token now c (available + 1) backdrop
        (.completed (.ok (.text ("Hello, " ++ settings.name ++ ".")))) s' := by
  obtain ⟨failure, trigger, deadline, verdict, keys⟩ : ∃ failure trigger deadline,
      settings.router.verdict? course ending = some (.error failure, trigger, deadline) ∧
        trigger.keys (routing settings.deadline) "true" = ["false"] := by
    cases falls with
    | failed failure => exact ⟨failure, .error .redirectToDefault, _, rfl, rfl⟩
    | expired deadline action =>
      simp only [Router.verdict?, deadline, action]
      exact ⟨_, .timeout .fallbackToDefault, none, rfl, rfl⟩
  have further : course.progress.advance (α := Value) (routing settings.deadline) (.error failure)
      trigger = (⟨"false", ["true", "false"], some []⟩, .attempt "false") := by
    simp only [Progress.advance, Progress.planAfter, progress, Progress.start, keys]
    rfl
  have free : s.isCancelled token = false := by
    rw [State.isCancelled_of_desk found, holds.live]
  obtain ⟨s₁, pursued, same⟩ := Router.pursue_of_further (call settings.name token) free
    verdict further rfl
  obtain ⟨s', answered, leaves⟩ := serve_classic { course with
    progress := ⟨"false", ["true", "false"], some []⟩, deadline } stages rfl (same.trans found)
    holds closed
  exact ⟨s', pursued.trans answered, leaves⟩

/-! ### What a call comes to -/

/-- Everything is ready for a call under a token: no permit is missing, the circuit of the
classic greeter is closed, and so is that of the friendly one if it is to have its say. If not,
its circuit may be as it likes. -/
def Settings.Ready (settings : Settings) (backdrop : Backdrop) (token : Token) (s : State) : Prop :=
  ∃ f c, s.standing = desk s.now f c config.maxConcurrent backdrop ∧ f.Holds token ∧
    (c.breaker "false").state = .closed ∧
    (settings.isFriendly = true → (c.breaker "true").state = .closed)

/-- A call gets its greeting now, and everything is ready again. -/
def Settings.Greets (settings : Settings) (backdrop : Backdrop) (token : Token) (now : Instant)
    (x : State × Step Stage Outcome) : Prop :=
  ∃ s', x = (s', .finished (.ok (.text settings.greeting))) ∧ s'.now = now ∧
    settings.Ready backdrop token s'

/-- An ending of the friendly greeter's attempt that leads to the greeting that is due. -/
def Settings.Suits (settings : Settings) (course : Course) (ending : Ending) : Prop :=
  (settings.isFriendly = true ∧ ending = .completed (.ok (.text settings.greeting))) ∨
    (settings.isFriendly = false ∧ Falls course ending)

/-- The classic greeting is given if the friendly greeter has no say. It is the greeting that is due
then. -/
theorem greets_of_classic {token : Token} {x : State × Step Stage Outcome}
    (silent : settings.isFriendly = false)
    (answered : x = (s', .finished (.ok (.text ("Hello, " ++ settings.name ++ ".")))))
    (leaves : Router.Leaves "false" token now c config.maxConcurrent backdrop
      (.completed (.ok (.text ("Hello, " ++ settings.name ++ ".")))) s') :
    settings.Greets backdrop token now x := by
  obtain ⟨f', c', standing, holds, -, closed⟩ := leaves.standing
  obtain rfl : s'.now = now := congrArg Standing.now standing
  have greeting : settings.greeting = "Hello, " ++ settings.name ++ "." := by
    rw [Settings.greeting, silent]
    rfl
  refine ⟨s', greeting ▸ answered, rfl, f', c', standing, holds, closed _ rfl, ?_⟩
  rw [silent]
  exact nofun

/-- However the friendly greeter's attempt has ended, the call gets the greeting that is due: its
own, or after a fallback the classic one. -/
theorem pursue_greets (stages : settings.Stages backdrop) {token : Token}
    (progress : course.progress = .start "true") (suits : settings.Suits course ending)
    (closed : (c.breaker "false").state = .closed)
    (leaves : Router.Leaves "true" token now c config.maxConcurrent backdrop ending s) :
    settings.Greets backdrop token now
      (settings.router.pursue (call settings.name token) course ending s) := by
  obtain ⟨f', c', standing, holds, others, own⟩ := leaves.standing
  have still : (c'.breaker "false").state = .closed := by rw [others "false" (by decide), closed]
  rcases suits with ⟨friendly, rfl⟩ | ⟨silent, falls⟩
  · obtain ⟨s', answered, same⟩ := settings.router.pursue_of_value (call settings.name token) course
      s (.text settings.greeting)
    obtain rfl : s'.now = now := congrArg Standing.now (same.trans standing)
    exact ⟨s', answered, rfl, f', c', same.trans standing, holds, still, fun _ => own _ rfl⟩
  · obtain ⟨s', answered, leaves⟩ := pursue_of_falls stages progress falls standing holds still
    exact greets_of_classic silent answered leaves

/-! ### The friendly greeter -/

/-- What the friendly greeter has come to suits if it is in time, be it a greeting or a failure. -/
theorem suits_outcome (asked : settings.newGreeting = true)
    (inTime : settings.friendlyDelay ≤ settings.deadline ∧ settings.friendlyDelay ≤ 30000) :
    settings.Suits course
      (.completed ((friendly settings).behavior 0 settings.request).outcome) := by
  cases fails : settings.friendlyFails with
  | false =>
    have friendly : settings.isFriendly = true := by
      simp [Settings.isFriendly, asked, fails, inTime]
    refine .inl ⟨friendly, ?_⟩
    simp only [TrialRouting.Greeter.friendly, fails, Settings.greeting, friendly, if_true,
      Bool.false_eq_true, if_false]
    rfl
  | true =>
    refine .inr ⟨by simp [Settings.isFriendly, fails], ?_⟩
    simp only [TrialRouting.Greeter.friendly, fails, if_true]
    exact .failed _

/-- A friendly greeter that is late has no say, however friendly. -/
theorem silent_of_late (late : ¬ (settings.friendlyDelay ≤ settings.deadline ∧
    settings.friendlyDelay ≤ 30000)) : settings.isFriendly = false := by
  rw [← Bool.not_eq_true]
  simp only [Settings.isFriendly, Bool.and_eq_true, decide_eq_true_eq]
  exact fun friendly => late ⟨friendly.1.2, friendly.2⟩

/-- How long a call waits for the friendly greeter. -/
def Settings.wait (settings : Settings) : Nat :=
  min settings.friendlyDelay (min settings.deadline 30000)

/-- Permits left while one call is in its attempt. -/
def left : Nat := config.maxConcurrent - 1

/-- A call that has waited for the friendly greeter gets its greeting: the friendly greeter has
answered or failed, or the attempt has run out of time, or the deadline has passed. These are told
apart by which of the three is due first. -/
theorem resume_greets (stages : settings.Stages backdrop) {token : Token} {since : Instant}
    {attempt : Attempt} (asked : settings.newGreeting = true)
    (progress : course.progress = .start "true")
    (deadline : course.deadline = some (since + settings.deadline, policy settings.deadline))
    (closed : (c.breaker "false").state = .closed)
    (waits : Router.Waits "true" token since c left backdrop
      ((friendly settings).behavior 0 settings.request) attempt s)
    (clock : s.now = since + settings.wait) :
    settings.Greets backdrop token s.now
      (settings.router.resume (call settings.name token) (.attempting course attempt) s) := by
  have goesOn {ending : Ending} {s' : State}
      (resumed : Router.resumeAttempt course attempt s = (s', .inl ending))
      (leaves : Router.Leaves "true" token s.now c (left + 1) backdrop ending s')
      (suits : settings.Suits course ending) : settings.Greets backdrop token s.now
        (settings.router.resume (call settings.name token) (.attempting course attempt) s) := by
    simp only [Router.resume, resumed]
    exact pursue_greets stages progress suits closed leaves
  by_cases inTime : settings.friendlyDelay ≤ settings.deadline ∧ settings.friendlyDelay ≤ 30000
  · have wait : settings.wait = settings.friendlyDelay := by unfold Settings.wait; omega
    rw [wait] at clock
    obtain ⟨s', resumed, leaves⟩ := Router.resume_of_done waits course (Nat.le_of_eq clock.symm)
    exact goesOn resumed leaves (suits_outcome asked inTime)
  · by_cases long : 30000 ≤ settings.deadline
    · have wait : settings.wait = 30000 := by unfold Settings.wait; omega
      have slow : 30000 < settings.friendlyDelay := by omega
      rw [wait] at clock
      obtain ⟨s', failure, resumed, leaves⟩ := Router.resume_of_late waits course
        (clock ▸ Nat.add_lt_add_left slow since) (Nat.le_of_eq clock.symm)
      exact goesOn resumed leaves (.inr ⟨silent_of_late inTime, .failed failure⟩)
    · have wait : settings.wait = settings.deadline := by unfold Settings.wait; omega
      have slow : settings.deadline < settings.friendlyDelay := by omega
      rw [wait] at clock
      have overdue : course.isOverdue s.now = true := by
        simp only [Course.isOverdue, deadline, Option.any_some, decide_eq_true_eq]
        exact Nat.le_of_eq clock.symm
      obtain ⟨s', resumed, leaves⟩ := Router.resume_of_overdue waits
        (clock ▸ Nat.add_lt_add_left slow since)
        (clock ▸ Nat.add_lt_add_left (Nat.lt_of_not_le long) since) overdue
      exact goesOn resumed leaves (.inr ⟨silent_of_late inTime, .expired deadline rfl⟩)

/-- A call waits for the friendly greeter, and nothing else is due for it before. -/
def Settings.Awaits (settings : Settings) (backdrop : Backdrop) (token : Token) (now : Instant)
    (x : State × Step Stage Outcome) : Prop :=
  ∃ s' stage, x = (s', .running stage) ∧ s'.now = now ∧ s'.isCancelled token = false ∧
    0 < settings.wait ∧ now + settings.wait ∈ Router.timers stage ∧
    (∀ t ∈ Router.timers stage, now + settings.wait ≤ t) ∧
    settings.Greets backdrop token (now + settings.wait) (settings.router.resume
      (call settings.name token) stage { s' with now := now + settings.wait })

/-- The trial sends a call to the friendly greeter, which is there to serve it, as the settings
say. -/
theorem offers_friendly (stages : settings.Stages backdrop) (token : Token)
    (current : course.progress.current = "true") :
    settings.router.Offers (call settings.name token) course backdrop
      ((friendly settings).behavior 0 settings.request) :=
  ⟨rfl, ⟨"true", "friendly"⟩, by rw [current]; rfl, stages.friendly⟩

/-- A call waits if the friendly greeter takes its time. What it waits for is the first of the
delay, the deadline and the bound. -/
theorem awaits_friendly (stages : settings.Stages backdrop) {token : Token} {a : Admission}
    (asked : settings.newGreeting = true) (nonzero : settings.deadline ≠ 0)
    (inRange : now + config.attemptMillis ≤ Instant.last)
    (progress : course.progress = .start "true")
    (deadline : course.deadline = some (now + settings.deadline, policy settings.deadline))
    (found : s.standing = desk now f c config.maxConcurrent backdrop) (holds : f.Holds token)
    (closed : (c.breaker "false").state = .closed)
    (admission : c.admission? "true" now = some a) (slow : settings.friendlyDelay ≠ 0) :
    settings.Awaits backdrop token now
      (settings.router.serve (call settings.name token) course s) := by
  have current : course.progress.current = "true" := by rw [progress]; rfl
  have inTime : course.isOverdue now = false := by
    simp only [Course.isOverdue, deadline, Option.any_some, decide_eq_false_iff_not, Nat.not_le]
    exact Nat.lt_add_of_pos_right (Nat.pos_of_ne_zero nonzero)
  obtain ⟨s', attempt, launched, clock, waits⟩ := Router.launch_of_busy
    (offers_friendly stages token current) found holds (current ▸ admission) slow inTime
    (stages.range ▸ inRange)
  rw [current] at waits
  have timers : Router.timers (.attempting course attempt) =
      [now + settings.deadline, now + 30000, now + settings.friendlyDelay] := by
    simp only [Router.timers, deadline, waits.timers]
    rfl
  refine ⟨s', _, Router.serve_of_waiting launched, clock, waits.live, ?_, ?_, ?_,
    resume_greets stages asked progress deadline closed (waits.clock _) rfl⟩
  · unfold Settings.wait
    omega
  · simp only [timers, List.mem_cons, List.not_mem_nil, or_false, Nat.add_left_cancel_iff,
      Settings.wait]
    omega
  · simp only [timers, List.forall_mem_cons, Nat.add_le_add_iff_left, Settings.wait]
    exact ⟨by omega, by omega, by omega, List.forall_mem_nil _⟩

/-- A call that the flag has sent to the friendly greeter gets its greeting at once or waits. If the
circuit is open, it gets the classic one at once; that can only be where the friendly greeter has no
say. -/
theorem serve_friendly (stages : settings.Stages backdrop) {token : Token}
    (asked : settings.newGreeting = true) (nonzero : settings.deadline ≠ 0)
    (inRange : now + config.attemptMillis ≤ Instant.last)
    (progress : course.progress = .start "true")
    (deadline : course.deadline = some (now + settings.deadline, policy settings.deadline))
    (found : s.standing = desk now f c config.maxConcurrent backdrop) (holds : f.Holds token)
    (closed : (c.breaker "false").state = .closed)
    (own : settings.isFriendly = true → (c.breaker "true").state = .closed) :
    settings.Greets backdrop token now
        (settings.router.serve (call settings.name token) course s) ∨
      settings.Awaits backdrop token now
        (settings.router.serve (call settings.name token) course s) := by
  have current : course.progress.current = "true" := by rw [progress]; rfl
  have offers := offers_friendly stages token current
  cases admission : c.admission? "true" now with
  | none =>
    have silent : settings.isFriendly = false := by
      rw [← Bool.not_eq_true]
      intro friendly
      rw [admission?_of_closed (own friendly)] at admission
      cases admission
    obtain ⟨s', failure, launched, leaves⟩ :=
      Router.launch_of_rejected offers found holds (current ▸ admission)
    rw [Router.serve_of_ended launched]
    exact .inl (pursue_greets stages progress (.inr ⟨silent, .failed failure⟩) closed
      (current ▸ leaves))
  | some a =>
    by_cases ready : settings.friendlyDelay = 0
    · obtain ⟨s', launched, leaves⟩ :=
        Router.launch_of_ready offers found holds (current ▸ admission) ready
      rw [Router.serve_of_ended launched]
      exact .inl (pursue_greets stages progress (suits_outcome asked (by omega)) closed
        (current ▸ leaves))
    · exact .inr (awaits_friendly stages asked nonzero inRange progress deadline found holds
        closed admission ready)

/-- So does every call, whichever key the flag selects. -/
theorem start_greets (stages : settings.Stages backdrop) {token : Token}
    (ready : settings.Ready backdrop token s) (nonzero : settings.deadline ≠ 0)
    (inRange : s.now + config.attemptMillis ≤ Instant.last)
    (inRange' : s.now + settings.deadline ≤ Instant.last) :
    settings.Greets backdrop token s.now
        (settings.router.start (call settings.name token) s) ∨
      settings.Awaits backdrop token s.now
        (settings.router.start (call settings.name token) s) := by
  obtain ⟨f, c, found, holds, closed, own⟩ := ready
  have live : s.isCancelled token = false := by
    rw [State.isCancelled_of_desk found]
    exact holds.live
  have before : settings.Stages s.backdrop := by
    rwa [show s.backdrop = backdrop from congrArg Standing.backdrop found]
  obtain ⟨course, s₁, started, same, progress, deadline⟩ :=
    start_eq (call settings.name token) before live
  rw [started]
  cases asked : settings.newGreeting with
  | false =>
    have silent : settings.isFriendly = false := by simp [Settings.isFriendly, asked]
    have current : course.progress.current = "false" := by
      rw [progress, Settings.key, asked]
      rfl
    obtain ⟨s', answered, leaves⟩ :=
      serve_classic _ stages current (same.trans found) holds closed
    exact .inl (greets_of_classic silent answered leaves)
  | true =>
    rw [Settings.key, asked, if_pos rfl] at progress
    rw [Instant.after?, Duration.ceilMillis_ofMillis, if_pos inRange'] at deadline
    exact serve_friendly stages asked nonzero inRange progress deadline (same.trans found) holds
      closed own

end Greeter

end TrialRouting
