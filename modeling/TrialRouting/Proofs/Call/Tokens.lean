import TrialRouting.Proofs.Attempt.Tokens
import TrialRouting.Proofs.Call.Route

/-!
# What a call does to the tokens

A call issues a token below its own for every attempt, and the time bounds of the attempt issue
others below that one; `Router.callSite?` is the place where the attempt calls its implementation
and hands it the last of them. Outside its attempts a call leaves the tokens alone.

Time runs out for an attempt when a time bound around its implementation does, which the trace
tells, or when the deadline of the trial cuts it off. `Journey.Effect` lists what a step of a call
with built-in decorators does to the tokens: time runs out for the attempt in flight and one of its
tokens is cancelled; an attempt calls its implementation; or nothing is cancelled.
-/

namespace TrialRouting

/-- Whether the deadline of the trial has cut an attempt off. -/
def Ending.isExpired : Ending → Bool
  | .expired => true
  | .completed _ => false

/-- Whether the deadline of the trial has just cut an attempt of a call off. -/
def Phase.isExpired : Phase → Bool
  | .concluding _ ending => ending.isExpired
  | _ => false

/-- Whether the trace has got an entry that says that a time bound has run out. -/
def State.tellsCut (s s' : State) : Bool :=
  (s'.trace.drop s.trace.length).any (·.isCut)

theorem State.tellsCut_eq {s s' : State} {entries : List Trace.Entry}
    (written : s'.trace = s.trace ++ entries) : s.tellsCut s' = entries.any (·.isCut) := by
  rw [tellsCut, written, List.drop_left]

/-- Disposing a scope cancels nothing. The catalog has nothing to do with the tokens. -/
theorem State.cuts_dropGuard (s : State) (guard : ScopeGuard) :
    s.Cuts (s.dropGuard guard) false none := by
  simp only [dropGuard, disposeGuard]
  cases guard.held <;> exact cuts_of_same rfl rfl rfl

/-- What a turn has done to an attempt that is inside built-in decorators: it goes on waiting and
nothing has been cancelled, or one of its tokens has been exactly if time has run out for it. -/
structure Attempt.Judged (attempt : Attempt) (s s' : State) (r : Ending ⊕ Attempt)
    (cut : Option Token) : Prop where
  cuts : ∃ told, s.Cuts s' told cut ∧ (told || r.elim (·.isExpired) fun _ => false) = cut.isSome
  own : ∀ t ∈ cut, t = attempt.token ∨ t ∈ attempt.flight.tokens
  waits : ∀ rest, r = .inr rest → rest = attempt ∧ cut = none

namespace Router

variable {router : Router} {call : Call} {course : Course} {s s' : State}

/-- Taking an attempt down and disposing its scope cancels nothing. Only a bound that runs out does,
and the deadline. -/
theorem cuts_takenDown (inv : Invocation) (flight : Flight) (scope : Nat) (s : State) :
    s.Cuts ((inv.abandon flight s).dropGuard (.holding scope)) false none :=
  (inv.cuts_abandon flight s).trans (State.cuts_dropGuard _ _) (.inl rfl)

/-- Nor does taking a call down that is in an attempt. -/
theorem cuts_abandon (router : Router) (course : Course) (attempt : Attempt) (s : State) :
    s.Cuts (router.abandon (.attempting course attempt) s) false none := by
  have reported (t : State) : t.Cuts (router.report course .disposed t) false none := by
    simp only [report, State.report]
    cases router.telemetry <;> exact State.cuts_of_same rfl rfl rfl
  exact (cuts_takenDown attempt.invocation attempt.flight attempt.scope s).trans (reported _)
    (.inl rfl)

/-- What a turn of an attempt comes to once its call has looked at it. If the attempt still waits
and the deadline has passed, the attempt's own token is cancelled. -/
theorem judged_of_turns {flight : Flight} {token : Token} {scope : Nat} {inv : Invocation}
    {r : State × Reply} (turns : flight.Turns s r) :
    ∃ cut, Attempt.Judged ⟨token, scope, inv, flight⟩ s (judge course token scope inv r).1
      (judge course token scope inv r).2 cut := by
  cases turns with
  | @ends t cut o cuts own =>
    have disposed : t.Cuts ((t.disposeGuard (.holding scope)).1.dropGuard
        (t.disposeGuard (.holding scope)).2) false none :=
      (t.cuts_dropGuard _).trans (State.cuts_dropGuard _ _) (.inl rfl)
    have whole := cuts.trans disposed (.inr rfl)
    rw [Bool.or_false, Option.or_none] at whole
    exact ⟨cut, ⟨_, whole, Bool.or_false _⟩, fun t member => .inr (own t member), by rintro _ ⟨⟩⟩
  | waits =>
    simp only [judge]
    split
    · have cut : s.Cuts (cutOff ⟨token, scope, inv, flight⟩ s) false (some token) :=
        (cuts_takenDown inv flight scope s).trans (State.cuts_cancel _ token) (.inl rfl)
      refine ⟨some token, ⟨_, cut, rfl⟩, ?_, by rintro _ ⟨⟩⟩
      rintro _ ⟨⟩
      exact .inl rfl
    · refine ⟨none, ⟨_, State.cuts_of_same rfl rfl rfl, rfl⟩, by rintro _ ⟨⟩, ?_⟩
      rintro _ ⟨⟩
      exact ⟨rfl, rfl⟩

/-- A turn of an attempt that waits inside built-in decorators. If its token has been cancelled from
outside, it is taken down and cancels nothing more. -/
theorem judged_of_resume (course : Course) (s : State) {attempt : Attempt}
    {decorators : List Decorator} {o : Outcome} (works : attempt.flight.WorksTo decorators o) :
    ∃ cut, attempt.Judged s (resumeAttempt course attempt s).1 (resumeAttempt course attempt s).2
      cut := by
  simp only [resumeAttempt]
  split
  · have left := cuts_takenDown attempt.invocation attempt.flight attempt.scope s
    exact ⟨none, ⟨_, left, rfl⟩, by rintro _ ⟨⟩, by rintro _ ⟨⟩⟩
  · exact judged_of_turns (attempt.invocation.turns_resume works _ s)

/-- Where the next attempt of a call calls the implementation, if it comes to that. -/
def callSite? (router : Router) (call : Call) (course : Course) (s : State) :
    Option (Invocation × Approach) :=
  if call.isStopped s then none
  else
    match router.registration.trial? course.progress.current with
    | none => none
    | some trial =>
        match (resolution course trial s).result with
        | .error _ => none
        | .ok made =>
            let inv := invocationOf call course made
            (inv.callSite? ⟨some course.span, [], router.pipeline, s.tokens.nextChild call.token,
              opened course trial s⟩).map (inv, ·)

/-- Opening the scope of an attempt cancels nothing. -/
theorem calm_opened (course : Course) (trial : Trial) (s : State) :
    s.issueToken.Calm (opened course trial s) :=
  have same : s.issueToken.Cuts (opened course trial s) false none :=
    State.cuts_of_same rfl rfl rfl
  same.calm

/-- An attempt that does not come to call its implementation ends at once, and cancels nothing. So
no token has been given to anybody. -/
theorem launch_of_uncalled (builtIn : ∀ d ∈ router.pipeline, d.isBuiltIn = true)
    (uncalled : router.callSite? call course s = none) :
    ∃ s' o, router.launch call course s = (s', .inl (.completed o)) ∧ s.Calm s' := by
  cases free : call.isStopped s with
  | true => exact ⟨_, _, launch_of_stopped course free, s.calm_issueToken⟩
  | false =>
    simp only [callSite?, free, Bool.false_eq_true, if_false] at uncalled
    cases listed : router.registration.trial? course.progress.current with
    | none => exact ⟨_, _, launch_of_unlisted free listed, s.calm_issueToken⟩
    | some trial =>
      have calm := s.calm_issueToken.trans (calm_opened course trial s)
      cases result : (resolution course trial s).result with
      | error source =>
        rw [launch_of_listed free listed, result]
        refine ⟨_, _, rfl, calm.trans (State.Cuts.calm ?_)⟩
        exact (State.cuts_record _ _).trans (State.cuts_dropGuard _ _) (.inl rfl)
      | ok made =>
        simp only [listed, result] at uncalled
        obtain ⟨t, o, ended, after⟩ :=
          Invocation.enter_of_uncalled builtIn (Option.map_eq_none_iff.mp uncalled)
        rw [launch_of_listed free listed, result]
        simp only [ended]
        have disposed : t.Cuts ((t.disposeGuard (.holding s.catalog.nextScope)).1.dropGuard
            (t.disposeGuard (.holding s.catalog.nextScope)).2) false none :=
          (t.cuts_dropGuard _).trans (State.cuts_dropGuard _ _) (.inl rfl)
        exact ⟨_, o, rfl, calm.trans (after.trans disposed.calm)⟩

/-- An attempt that calls its implementation hands it a live token. Above that token are those of
the time bounds around the call, and then the tokens of the attempt and of its caller. -/
theorem launch_of_called (builtIn : ∀ d ∈ router.pipeline, d.isBuiltIn = true) {inv : Invocation}
    {a : Approach} (called : router.callSite? call course s = some (inv, a)) :
    inv.caller = call.caller ∧ inv.work.handsOut = call.handsOut ∧ s.issueToken.Calm a.state ∧
      a.Below (s.tokens.nextChild call.token) s.issueToken ∧
      a.state.isCancelled a.token = false ∧
      ∃ (attempt : Attempt) (o : Outcome) (cut : Option Token),
        attempt.token = s.tokens.nextChild call.token ∧ attempt.flight.tokens = a.tokens ∧
        attempt.flight.WorksTo router.pipeline o ∧
        attempt.Judged (inv.work.start a.state inv.caller a.token)
          (router.launch call course s).1 (router.launch call course s).2 cut := by
  cases free : call.isStopped s with
  | true => simp [callSite?, free] at called
  | false =>
    cases listed : router.registration.trial? course.progress.current with
    | none => simp [callSite?, free, listed] at called
    | some trial =>
      cases result : (resolution course trial s).result with
      | error source => simp [callSite?, free, listed, result] at called
      | ok made =>
        simp only [callSite?, free, listed, result, Bool.false_eq_true, if_false] at called
        obtain ⟨b, site, same⟩ := Option.map_eq_some_iff.mp called
        obtain ⟨rfl, rfl⟩ := Prod.mk.inj same
        obtain ⟨below, live, flight, o, works, tokens, turns⟩ :=
          Invocation.enter_of_called builtIn site
        have calm := (calm_opened course trial s).trans below.calm
        rw [launch_of_listed free listed, result]
        obtain ⟨cut, judged⟩ := judged_of_turns turns
        exact ⟨rfl, rfl, calm, ⟨calm, below.line, below.issued⟩, live,
          ⟨s.tokens.nextChild call.token, s.catalog.nextScope, invocationOf call course made,
            flight⟩, o, cut, rfl, tokens, works, judged⟩

end Router

/-! ### Steps of a call -/

namespace Journey

/-- Where a call is about to call an implementation. -/
def callSite? (router : Router) (s : State) (j : Journey) : Option (Invocation × Approach) :=
  match j.phase with
  | .launching course => router.callSite? j.call course s
  | _ => none

/-- Whether a call is about to call an implementation that cancels the token of its caller. -/
def cancelsCaller (router : Router) (s : State) (j : Journey) : Bool :=
  (j.callSite? router s).any fun (inv, a) => (inv.work.behavior a.state).cancelsCaller

/-- Whether time has run out for an attempt in a step of its call. -/
def isLate (s s' : State) (j' : Journey) : Bool :=
  s.tellsCut s' || j'.phase.isExpired

end Journey

/-- Where a call is after a turn of its attempt. -/
def Phase.after (course : Course) : Ending ⊕ Attempt → Phase
  | .inl ending => .concluding course ending
  | .inr attempt => .attempting course attempt

/-- A turn that the deadline has ended. -/
theorem Phase.isExpired_after (course : Course) (r : Ending ⊕ Attempt) :
    (Phase.after course r).isExpired = r.elim (·.isExpired) fun _ => false := by
  cases r <;> rfl

namespace Journey

variable {router : Router} {s s' : State} {j j' : Journey} {course : Course} {attempt : Attempt}

/-- What a step of a call does to the tokens, if the attempt in flight is inside built-in
decorators. These three are the steps of the tree of tokens. -/
inductive Effect (router : Router) (s : State) (j : Journey) (s' : State) (j' : Journey) :
    Prop where
  /-- Nothing is cancelled, and an attempt that goes on is the one that went on before. -/
  | calm (cancelled : s'.tokens.cancelled = s.tokens.cancelled)
      (issued : s.tokens.issued ≤ s'.tokens.issued) (handedOut : s'.handedOut = s.handedOut)
      (uncalled : j.callSite? router s = none)
      (inTime : ∀ course attempt, j.phase = .attempting course attempt → isLate s s' j' = false)
      (still : ∀ course attempt, j'.phase = .attempting course attempt →
        j.phase = .attempting course attempt)
  /-- Time has run out for the attempt in flight. -/
  | cut {course : Course} {attempt : Attempt} {t : Token}
      (phase : j.phase = .attempting course attempt)
      (own : t = attempt.token ∨ t ∈ attempt.flight.tokens)
      (tokens : s'.tokens = s.tokens.cancel t) (late : isLate s s' j' = true)
      (out : ∀ course attempt, j'.phase ≠ .attempting course attempt)
  /-- An attempt has called its implementation, and time may have run out for it at once. -/
  | called {course : Course} {inv : Invocation} {a : Approach} {cut : Option Token}
      (phase : j.phase = .launching course)
      (site : router.callSite? j.call course s = some (inv, a))
      (below : a.Below (s.tokens.nextChild j.call.token) s.issueToken)
      (live : a.state.isCancelled a.token = false)
      (own : ∀ t ∈ cut, t = s.tokens.nextChild j.call.token ∨ t ∈ a.tokens)
      (tokens : s'.tokens =
        (if j.cancelsCaller router s then a.state.tokens.cancel j.call.caller
          else a.state.tokens).cut cut)
      (handedOut : s'.handedOut = s.handedOut ++ if j.call.handsOut then [a.token] else [])
      (late : isLate s s' j' = cut.isSome)
      (waits : ∀ course attempt, j'.phase = .attempting course attempt → cut = none ∧
        attempt.token = s.tokens.nextChild j.call.token ∧ attempt.flight.tokens = a.tokens ∧
          ∃ o, attempt.flight.WorksTo router.pipeline o)

/-- A step of a call between its attempts. It reports or asks, and leaves the tokens alone. -/
theorem effect_of_aside (aside : s.Aside s') (idle : ∀ c, j.phase ≠ .launching c)
    (idleToo : ∀ c a, j.phase ≠ .attempting c a) (out : ∀ c a, j'.phase ≠ .attempting c a) :
    Effect router s j s' j' := by
  have uncalled : j.callSite? router s = none := by
    unfold callSite?
    split
    · next course phase => exact absurd phase (idle course)
    · rfl
  exact .calm (congrArg _ aside.tokens) (Nat.le_of_eq (congrArg _ aside.tokens.symm))
    aside.handedOut uncalled (fun c a phase => absurd phase (idleToo c a))
    fun c a phase => absurd phase (out c a)

/-- The step in which the next attempt of a call starts. It calls its implementation, or comes to an
end without having done so. -/
theorem effect_of_launch (builtIn : ∀ d ∈ router.pipeline, d.isBuiltIn = true)
    {r : Ending ⊕ Attempt} (phase : j.phase = .launching course)
    (launched : router.launch j.call course s = (s', r)) (phase' : j'.phase = .after course r) :
    Effect router s j s' j' := by
  have site : j.callSite? router s = router.callSite? j.call course s := by
    simp only [callSite?, phase]
  cases called : router.callSite? j.call course s with
  | none =>
    obtain ⟨t, o, ended, calm⟩ := Router.launch_of_uncalled builtIn called
    obtain ⟨rfl, rfl⟩ := Prod.mk.inj (ended.symm.trans launched)
    exact .calm calm.cancelled calm.issued calm.handedOut (site.trans called) (by simp [phase])
      (by simp [phase', Phase.after])
  | some place =>
    obtain ⟨inv, a⟩ := place
    obtain ⟨caller, handsOut, calm, below, live, attempt, o, cut, token, tokens, works, judged⟩ :=
      Router.launch_of_called builtIn called
    rw [launched] at judged
    obtain ⟨startTokens, startHandedOut, startTrace⟩ :=
      Invocation.start_eq inv.work a.state inv.caller a.token
    obtain ⟨told, cuts, said⟩ := judged.cuts
    have cancels : j.cancelsCaller router s = (inv.work.behavior a.state).cancelsCaller := by
      simp only [cancelsCaller, site, called, Option.any_some]
    have own : ∀ t ∈ cut, t = s.tokens.nextChild j.call.token ∨ t ∈ a.tokens :=
      fun t member => token ▸ tokens ▸ judged.own t member
    refine .called phase called below live own ?_ ?_ ?_ ?_
    · rw [cuts.tokens, startTokens, cancels, caller]
    · rw [cuts.handedOut, startHandedOut, calm.handedOut, handsOut]
      rfl
    · obtain ⟨entries, written, uncut⟩ := calm.trace
      obtain ⟨more, writtenToo, cutToo⟩ := cuts.trace
      have grown : s'.trace = s.trace ++ (entries ++ more) := by
        rw [writtenToo, startTrace, written, List.append_assoc]
        rfl
      rw [isLate, State.tellsCut_eq grown, List.any_append, uncut, cutToo, phase',
        Phase.isExpired_after, ← said, Bool.false_or]
    · intro c rest waiting
      cases r with
      | inl ending => simp [phase', Phase.after] at waiting
      | inr last =>
        obtain ⟨rfl, uncut⟩ := judged.waits last rfl
        cases phase'.symm.trans waiting
        exact ⟨uncut, token, tokens, o, works⟩

/-- The step in which the attempt in flight has a turn. If it goes on waiting, nothing has been
cancelled. -/
theorem effect_of_resume {o : Outcome} (works : attempt.flight.WorksTo router.pipeline o)
    {r : Ending ⊕ Attempt} (phase : j.phase = .attempting course attempt)
    (resumed : Router.resumeAttempt course attempt s = (s', r))
    (phase' : j'.phase = .after course r) : Effect router s j s' j' := by
  have uncalled : j.callSite? router s = none := by simp only [callSite?, phase]
  obtain ⟨cut, judged⟩ := Router.judged_of_resume course s works
  rw [resumed] at judged
  obtain ⟨told, cuts, said⟩ := judged.cuts
  obtain ⟨entries, written, cutToo⟩ := cuts.trace
  have late : isLate s s' j' = cut.isSome := by
    rw [isLate, State.tellsCut_eq written, cutToo, phase', Phase.isExpired_after, ← said]
  have waits (c : Course) (rest : Attempt) (waiting : j'.phase = .attempting c rest) :
      r = .inr rest ∧ c = course := by
    cases r with
    | inl ending => simp [phase', Phase.after] at waiting
    | inr last =>
      cases phase'.symm.trans waiting
      exact ⟨rfl, rfl⟩
  cases cut with
  | none =>
    refine .calm (congrArg _ cuts.tokens) (Nat.le_of_eq (congrArg _ cuts.tokens.symm))
      cuts.handedOut uncalled (fun _ _ _ => late) ?_
    intro c rest waiting
    obtain ⟨rfl, rfl⟩ := waits c rest waiting
    obtain ⟨rfl, -⟩ := judged.waits rest rfl
    exact phase
  | some t =>
    refine .cut phase (judged.own t rfl) cuts.tokens late ?_
    intro c rest waiting
    obtain ⟨rfl, rfl⟩ := waits c rest waiting
    cases (judged.waits rest rfl).2

/-- Every step has one of these effects. There is one case for each kind of step. -/
theorem Step.effect (builtIn : ∀ d ∈ router.pipeline, d.isBuiltIn = true)
    (works : ∀ course attempt, j.phase = .attempting course attempt →
      ∃ o, attempt.flight.WorksTo router.pipeline o)
    (step : Step router s j s' j') : Effect router s j s' j' := by
  have idle {s' : State} {j' : Journey} (aside : s.Aside s')
      (between : (∀ c, j.phase ≠ .launching c) ∧ ∀ c a, j.phase ≠ .attempting c a)
      (out : ∀ c a, j'.phase ≠ .attempting c a) : Effect router s j s' j' :=
    effect_of_aside aside between.1 between.2 out
  cases step with
  | refused phase answer => exact idle (router.aside_receive answer) (by simp [phase]) (by simp)
  | chosen phase answer => exact idle (router.aside_receive answer) (by simp [phase]) (by simp)
  | asked phase answer => exact idle (router.aside_receive answer) (by simp [phase]) (by simp)
  | answered phase isDue => exact idle (State.aside_settle s _ _) (by simp [phase]) (by simp)
  | embarked phase => exact idle (router.aside_embark _ _ s) (by simp [phase]) (by simp)
  | withheld phase stopped launched => exact effect_of_launch builtIn phase launched rfl
  | sped phase free launched => exact effect_of_launch builtIn phase launched rfl
  | launched phase launched => exact effect_of_launch builtIn phase launched rfl
  | waited phase resumed =>
    obtain ⟨o, works⟩ := works _ _ phase
    exact effect_of_resume works phase resumed rfl
  | left phase resumed =>
    obtain ⟨o, works⟩ := works _ _ phase
    exact effect_of_resume works phase resumed rfl
  | concluded phase answer => exact idle (router.aside_conclude answer) (by simp [phase]) (by simp)
  | fellBack phase answer => exact idle (router.aside_conclude answer) (by simp [phase]) (by simp)
  | dropped phase => exact idle (.refl s) (by simp [phase]) (by simp)
  | @droppedInFlight _ course attempt phase =>
    have cuts := router.cuts_abandon course attempt s
    obtain ⟨entries, written, uncut⟩ := cuts.trace
    refine .calm (congrArg _ cuts.tokens) (Nat.le_of_eq (congrArg _ cuts.tokens.symm))
      cuts.handedOut (by simp only [callSite?, phase]) (fun _ _ _ => ?_) (by simp)
    rw [isLate, State.tellsCut_eq written, uncut]
    rfl

end Journey

end TrialRouting
