import TrialRouting.Proofs.Call.Schedules
import TrialRouting.Proofs.Call.Scopes
import TrialRouting.Proofs.Greeter.Alone
import TrialRouting.Proofs.Greeter.Calls
import TrialRouting.Proofs.Greeter.Settings

/-!
# Greetings

The greeter command asks for its greetings one after another, each in a schedule of its own. What
one greeting needs it leaves behind: the clock has moved by no more than the time of one attempt,
the circuit of the classic greeter is closed, and no scope is open. The circuit of the friendly
greeter may have been opened, but only where its greeting is not the one that is due. So by
induction on the number of calls each of them is told the same, and the clock cannot run out over
the calls that a command line can ask for.
-/

namespace TrialRouting

/-! ### Scopes of a schedule -/

/-- Calls that have ended hold no scopes, since no attempt of theirs is in flight. -/
theorem Journey.held_of_ended {js : List Journey} {as : List (Activity Call Stage Outcome)}
    (follows : List.Forall₂ Journey.Follows js as) (finished : ∀ a ∈ as, a.hasEnded = true) :
    (js.map (·.holding)).flatMap (·.held) = [] := by
  induction follows with
  | nil => rfl
  | @cons j a js as first _ ih =>
    obtain ⟨ended, others⟩ := List.forall_mem_cons.mp finished
    have idle : j.underway = [] := by
      rw [underway, first.phase]
      unfold Activity.hasEnded at ended
      cases status : a.status with
      | ended instant result => cases result <;> rfl
      | waiting => simp [status] at ended
      | running stage => simp [status] at ended
    rw [List.map_cons, List.flatMap_cons, ih others, holding_of_idle idle]
    rfl

/-- A schedule in which all calls of a router come to their end leaves as many scopes open as it has
found. This is the law of scopes, applied to the world of the schedule. -/
theorem Schedule.scopes_run {router : Router} {d : Draft} {s : State}
    {as : List (Activity Call Stage Outcome)} (built : d.build = .ok router.registration)
    (tokens : s.tokens.Sound) (counted : s.catalog.openScopes = s.catalog.undisposed)
    (unwritten : s.journal = []) (waiting : ∀ a ∈ as, a.status.phase = .arriving)
    (callers : ∀ a ∈ as, a.request.caller.id < s.tokens.issued)
    (issued : ∀ a ∈ as, a.token.id < s.tokens.issued)
    (finished : ∀ a ∈ (run router.conduct as s).2, a.hasEnded = true) :
    (run router.conduct as s).1.catalog.openScopes = s.catalog.openScopes ∧
      (run router.conduct as s).1.catalog.openScopes =
        (run router.conduct as s).1.catalog.undisposed := by
  obtain ⟨js, becomes, follows⟩ : ∃ js,
      World.Becomes router ⟨s, []⟩ ⟨(run router.conduct as s).1, js⟩ ∧
        List.Forall₂ Journey.Follows js (run router.conduct as s).2 :=
    becomes_run tokens waiting callers issued
  have start : Ledger.InOrder s.ledger s.ledger [] := by
    refine .nil (counted.trans s.catalog.count_flags.symm) fun n member => ?_
    simp [State.ledger, unwritten] at member
  have order := (World.Becomes.inOrder (Draft.valid_of_build built) tokens start becomes).1
  have current := order.current
  rw [Journey.held_of_ended follows finished] at current
  exact ⟨current, order.count.trans (Catalog.count_flags _)⟩

namespace Greeter

variable {settings : Settings} {backdrop : Backdrop} {s s' : State} {token : Token}

/-- Between greetings: as before a call, but for its token, and with no scope open. -/
structure Settings.Open (settings : Settings) (backdrop : Backdrop) (s : State) : Prop where
  standing : ∃ f c, s.standing = desk s.now f c config.maxConcurrent backdrop ∧ f.Sound ∧
    (c.breaker "false").state = .closed ∧
    (settings.isFriendly = true → (c.breaker "true").state = .closed)
  scopes : s.catalog.openScopes = 0
  counted : s.catalog.openScopes = s.catalog.undisposed

/-- The token of a call for which everything is ready is not cancelled. -/
theorem live_of_ready (ready : settings.Ready backdrop token s) : s.isCancelled token = false := by
  obtain ⟨f, c, standing, holds, -⟩ := ready
  exact (State.isCancelled_of_desk standing token).trans holds.live

/-- A new token of its own makes everything ready for a call. Nobody can have cancelled it. -/
theorem ready_of_issue (isOpen : settings.Open backdrop s) :
    settings.Ready backdrop s.tokens.nextRoot s.newPage.issueToken := by
  obtain ⟨f, c, standing, sound, closed, own⟩ := isOpen.standing
  obtain rfl : s.tokens = f := congrArg Standing.tokens standing
  exact ⟨s.tokens.issue, c,
    congrArg (fun st : Standing => { st with tokens := st.tokens.issue }) standing,
    .root sound, closed, own⟩

/-- How a call is watched over. -/
def Settings.activity (settings : Settings) (s : State) : Activity Call Stage Outcome :=
  (patience settings.router.registration).activity (call settings.name s.tokens.nextRoot)
    s.tokens.nextRoot s.now

/-- One call by itself comes to the greeting that is due, within the time of one attempt: at once,
or in its second turn. -/
theorem run_greets (stages : settings.Stages backdrop) (isOpen : settings.Open backdrop s)
    (nonzero : settings.deadline ≠ 0) (inRange : s.now + config.attemptMillis ≤ Instant.last)
    (inRange' : s.now + settings.deadline ≤ Instant.last) :
    ∃ s', Schedule.run settings.router.conduct [settings.activity s] s.newPage.issueToken =
        (s', [{ settings.activity s with
          status := .ended s'.now (some (.ok (.text settings.greeting))) }]) ∧
      s'.now ≤ s.now + config.attemptMillis ∧
      settings.Ready backdrop s.tokens.nextRoot s' := by
  have ready := ready_of_issue isOpen
  have starts : (settings.activity s).startAt ≤ s.newPage.issueToken.now := Nat.le_refl _
  rcases start_greets stages ready nonzero inRange inRange' with
    ⟨s', started, clock, after⟩ | ⟨s₁, stage, started, clock, live, later, timer, least, rest⟩
  · exact ⟨s', Schedule.run_of_finished rfl starts rfl started (live_of_ready after),
      clock ▸ Nat.le_add_right _ _, after⟩
  · obtain ⟨s', resumed, clock', after⟩ := rest
    have short : settings.wait ≤ config.attemptMillis :=
      Nat.le_trans (Nat.min_le_right _ _) (Nat.min_le_right _ _)
    have patient : config.attemptMillis < (patience settings.router.registration).abandonAfter := by
      have keys : settings.router.registration.keys.length = 2 := rfl
      rw [patience, keys]
      decide
    have early : s.newPage.issueToken.now + settings.wait < (settings.activity s).abandonAt :=
      Nat.add_lt_add_left (Nat.lt_of_le_of_lt short patient) s.now
    exact ⟨s', Schedule.run_of_waiting rfl starts rfl started clock live timer least
      (Nat.lt_add_of_pos_right later) early resumed (live_of_ready after),
      clock' ▸ Nat.add_le_add_left short _, after⟩

/-- One greeting is the one that is due, and everything is as before, so that the next may
follow. -/
theorem greet_eq {d : Draft} (built : d.build = .ok settings.router.registration)
    (stages : settings.Stages backdrop) (isOpen : settings.Open backdrop s)
    (nonzero : settings.deadline ≠ 0) (inRange : s.now + config.attemptMillis ≤ Instant.last)
    (inRange' : s.now + settings.deadline ≤ Instant.last) :
    ∃ s', greet settings.router settings.name s = (s', settings.greeting) ∧
      s'.now ≤ s.now + config.attemptMillis ∧ settings.Open backdrop s' := by
  obtain ⟨s', ran, clock, f, c, standing, holds, closed⟩ :=
    run_greets stages isOpen nonzero inRange inRange'
  have tokens : s.newPage.issueToken.tokens.Sound := by
    obtain ⟨f, c, found, sound, -⟩ := isOpen.standing
    obtain rfl : s.tokens = f := congrArg Standing.tokens found
    exact (TokenForest.Grows.issue _).sound sound
  have finished : ∀ a ∈ (Schedule.run settings.router.conduct [settings.activity s]
      s.newPage.issueToken).2, a.hasEnded = true := by
    rw [ran]
    exact List.forall_mem_singleton.mpr rfl
  have issued : s.tokens.nextRoot.id < s.newPage.issueToken.tokens.issued := Nat.lt_succ_self _
  have scopes := Schedule.scopes_run built tokens isOpen.counted rfl
    (List.forall_mem_singleton.mpr rfl) (List.forall_mem_singleton.mpr issued)
    (List.forall_mem_singleton.mpr issued) finished
  rw [ran] at scopes
  refine ⟨s', ?_, clock, ⟨f, c, standing, holds.sound, closed⟩, scopes.1.trans isOpen.scopes,
    scopes.2⟩
  have greeted : greet settings.router settings.name s =
      ((Schedule.run settings.router.conduct [settings.activity s] s.newPage.issueToken).1,
        String.join ((Schedule.run settings.router.conduct [settings.activity s]
          s.newPage.issueToken).2.map fun a => told a.request a.ending.1)) := rfl
  rw [greeted, ran]
  exact congrArg (Prod.mk s') String.empty_append

/-- The clock stays in range from one greeting to the next. Each takes the time of one attempt at
most. -/
theorem inRange_next {now now' n millis deadline last : Nat}
    (inRange : now + (n + 2) * millis + deadline ≤ last) (clock : now' ≤ now + millis) :
    now + millis ≤ last ∧ now + deadline ≤ last ∧
      now' + (n + 1) * millis + deadline ≤ last := by
  rw [Nat.succ_mul] at inRange
  have most : millis ≤ (n + 1) * millis := Nat.le_mul_of_pos_left _ (Nat.succ_pos n)
  omega

/-- Greetings one after another are all the one that is due. The induction is on their number; what
one greeting needs it leaves behind for the next. -/
theorem greetings_eq {d : Draft} (built : d.build = .ok settings.router.registration)
    (stages : settings.Stages backdrop) (nonzero : settings.deadline ≠ 0) (n first : Nat)
    (s : State) (isOpen : settings.Open backdrop s)
    (inRange : s.now + (n + 1) * config.attemptMillis + settings.deadline ≤ Instant.last) :
    ∃ s', greetings settings.router settings.name first n s = (s', (List.range' first n).map
        fun i => toString i ++ ": " ++ settings.greeting) ∧ settings.Open backdrop s' := by
  induction n generalizing first s with
  | zero => exact ⟨s, rfl, isOpen⟩
  | succ n ih =>
    obtain ⟨now, later, -⟩ := inRange_next inRange (Nat.le_add_right s.now _)
    obtain ⟨s₁, greeted, clock, after⟩ := greet_eq built stages isOpen nonzero now later
    obtain ⟨s', others, last⟩ := ih (first + 1) s₁ after (inRange_next inRange clock).2.2
    refine ⟨s', ?_, last⟩
    simp only [greetings, greeted, others, List.range'_succ, List.map_cons]

/-! ### The command -/

/-- The built-in trial passes its checks unless its deadline is zero, which is no deadline for a
trial. -/
theorem build_builtIn {deadline : Nat} (nonzero : deadline ≠ 0) :
    (builtIn deadline).build = .ok (routing deadline) := by
  have positive : (Duration.ofMillis deadline).isZero = false := by
    simp [Duration.isZero, Duration.ofMillis]
    omega
  have timeout : (builtIn deadline).checkTimeout = .ok () := by
    simp only [Draft.checkTimeout, policy, positive,
      show (builtIn deadline).timeout = some (policy deadline) from rfl]
    rfl
  rw [Draft.build, timeout]
  rfl

/-- The router of the built-in trial. -/
theorem router_opening (settings : Settings) (wallClock : UInt64) :
    (opening settings (routing settings.deadline) wallClock).2 = settings.router := rfl

/-- Before the first call the decorators are as they have been made, and the flag and the greeters
are as the settings say. -/
theorem standing_opening (settings : Settings) (wallClock : UInt64) :
    ∃ backdrop, (opening settings (routing settings.deadline) wallClock).1.standing =
      desk 0 {} { config := {} } config.maxConcurrent backdrop ∧ settings.Stages backdrop := by
  refine ⟨_, rfl, rfl, rfl, rfl, ?_, ?_⟩
  · exact ⟨⟨0, _, rfl, rfl, fun _ => rfl, nofun, fun _ => rfl⟩, rfl, rfl⟩
  · refine ⟨⟨1, _, rfl, rfl, fun _ => rfl, ?_, fun _ => rfl⟩, rfl, rfl⟩
    rintro _ ⟨⟩
    rfl

/-- So everything is open for the first call: all circuits are closed, no permit is missing, and no
scope has been opened. -/
theorem open_opening (settings : Settings) (wallClock : UInt64) :
    ∃ backdrop, settings.Stages backdrop ∧
      settings.Open backdrop (opening settings (routing settings.deadline) wallClock).1 := by
  obtain ⟨backdrop, standing, stages⟩ := standing_opening settings wallClock
  refine ⟨backdrop, stages, ⟨{}, _, standing, nofun, rfl, fun _ => rfl⟩, rfl, rfl⟩

/-- Without a trial file, the trial is the built-in one, whatever files there are. -/
theorem registration_eq {content : String → Option String} (own : settings.trialFile = none)
    (nonzero : settings.deadline ≠ 0) :
    settings.registration content = .ok (routing settings.deadline) := by
  rw [Settings.registration, own, build_builtIn nonzero]
  rfl

/-- The clock does not run out over the calls that a command line can ask for, even if each takes as
long as an attempt may. -/
theorem inRange_opening (inRange : settings.InRange) :
    (settings.calls + 1) * config.attemptMillis + settings.deadline ≤ Instant.last := by
  have calls : (settings.calls + 1) * 30000 ≤ UInt32.size * 30000 :=
    Nat.mul_le_mul_right _ inRange.calls
  have longest : UInt32.size * 30000 + UInt64.size ≤ Instant.last := by decide
  exact Nat.le_trans (Nat.add_le_add calls (Nat.le_of_lt inRange.deadline)) longest

/-- The command with these settings greets at every call: the greeting that is due is printed once
for each, as one line, nothing goes wrong on the way through all four decorators, and no scope is
left open. -/
structure GreetsEveryCall (settings : Settings) (r : Registration) (wallClock : UInt64)
    (report : Report) : Prop where
  code : report.code = 0
  complaint : report.complaint = ""
  output : report.output = lines ((List.range' 1 settings.calls).map fun i =>
    toString i ++ ": " ++ settings.greeting)
  pipeline : (opening settings r wallClock).2.pipeline =
    [.logging commandName, .concurrencyLimit 0, .circuitBreaker 0, .timeout (.ofMillis 30000)]
  scopes : (greetings (opening settings r wallClock).2 settings.name 1 settings.calls
    (opening settings r wallClock).1).1.catalog.openScopes = 0
  undisposed : (greetings (opening settings r wallClock).2 settings.name 1 settings.calls
    (opening settings r wallClock).1).1.catalog.undisposed = 0

/-- With settings in range, a deadline and no trial file the command greets at every call. The
trial is the built-in one, everything is open for the first call, and the clock has room for all of
them; the rest is the induction on the number of calls. -/
theorem greetsEveryCall_of_inRange (content : String → Option String) (wallClock : UInt64)
    (inRange : settings.InRange) (own : settings.trialFile = none)
    (nonzero : settings.deadline ≠ 0) :
    ∃ r, settings.registration content = .ok r ∧
      GreetsEveryCall settings r wallClock (settings.run content wallClock) := by
  obtain ⟨backdrop, stages, isOpen⟩ := open_opening settings wallClock
  have start : (opening settings (routing settings.deadline) wallClock).1.now = 0 := rfl
  have enough : (opening settings (routing settings.deadline) wallClock).1.now +
      (settings.calls + 1) * config.attemptMillis + settings.deadline ≤ Instant.last := by
    rw [start, Nat.zero_add]
    exact inRange_opening inRange
  obtain ⟨s', greeted, after⟩ :=
    greetings_eq (build_builtIn nonzero) stages nonzero settings.calls 1 _ isOpen enough
  rw [← router_opening settings wallClock] at greeted
  have ran : settings.run content wallClock =
      { output := lines ((List.range' 1 settings.calls).map fun i =>
          toString i ++ ": " ++ settings.greeting) } := by
    simp only [Settings.run, registration_eq own nonzero, greeted]
  refine ⟨_, registration_eq own nonzero, ?_⟩
  rw [ran]
  refine ⟨rfl, rfl, rfl, rfl, ?_, ?_⟩
  · rw [greeted]
    exact after.scopes
  · rw [greeted]
    exact after.counted.symm.trans after.scopes

/-- The built-in trial never fails a greeting. With all settings in range that leave the trial alone
and give it a deadline at all, every call gets the greeting that is due, whatever the calls before
it have made of the circuits. A command line asks for nothing out of range, and the command does
what it is asked for; so this holds of every command line that is read.

Proof: the circuit of the classic greeter stays closed, as that greeter never fails; the circuit of
the friendly one may open, but only if its greeting is not the one that is due, and then the call
falls back as it would have done anyway. So one greeting leaves everything as the next needs it, and
the induction is on the number of calls. The clock has room for all of them, since each takes no
longer than one attempt. -/
theorem greets_every_call (content : String → Option String) (wallClock : UInt64) :
    (∀ settings : Settings, settings.InRange → settings.trialFile = none →
      settings.deadline ≠ 0 → ∃ r, settings.registration content = .ok r ∧
        GreetsEveryCall settings r wallClock (settings.run content wallClock)) ∧
    ∀ (args : List String) (environment : String → Option String) (settings : Settings),
      Settings.read args environment = .ok settings → settings.InRange ∧
        run args environment content wallClock = settings.run content wallClock := by
  constructor
  · intro settings inRange own nonzero
    exact greetsEveryCall_of_inRange content wallClock inRange own nonzero
  · intro args environment settings read
    have ran : run args environment content wallClock = settings.run content wallClock := by
      simp only [run, read]
    exact ⟨inRange_of_read read, ran⟩

/-- The friendly greeter is in time for two calls that give it three tenths of a second, if the
trial gives it half a second. -/
theorem greets_friendly_twice :
    ∃ settings : Settings, Settings.read ["--new-greeting", "--friendly-delay-ms=300",
        "--timeout-ms", "500", "--calls", "2"] (fun _ => none) = .ok settings ∧
      settings.isFriendly = true ∧ settings.calls = 2 ∧
      ∃ r, GreetsEveryCall settings r 0 (run ["--new-greeting", "--friendly-delay-ms=300",
        "--timeout-ms", "500", "--calls", "2"] (fun _ => none) (fun _ => none) 0) := by
  have read : Settings.read ["--new-greeting", "--friendly-delay-ms=300", "--timeout-ms", "500",
      "--calls", "2"] (fun _ => none) =
      .ok { newGreeting := true, friendlyDelay := 300, deadline := 500, calls := 2 } := by
    decide +kernel
  obtain ⟨greets, commands⟩ := greets_every_call (fun _ => none) 0
  obtain ⟨inRange, ran⟩ := commands _ _ _ read
  obtain ⟨r, -, greeted⟩ := greets _ inRange rfl (by decide)
  exact ⟨_, read, rfl, rfl, r, ran ▸ greeted⟩

end Greeter

end TrialRouting
