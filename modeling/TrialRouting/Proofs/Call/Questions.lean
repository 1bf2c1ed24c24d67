import TrialRouting.Proofs.Selection
import TrialRouting.Proofs.Call.World

/-!
# What a call asks

A call asks its trial's predicate and its mode. An inquiry counts what the steps of one call
ask: how often the predicate, and which modes that were added to the built-in ones, since
those write a line for each question. Choosing a key makes a whole inquiry, which consists of
the questions of the selection; no other step of a call adds to it.
-/

namespace TrialRouting

/-- A line that says that a mode has been asked. -/
def Note.isModeAsked : Note → Bool
  | .modeAsked _ _ _ _ _ _ => true
  | _ => false

namespace State

variable {s s' s'' : State}

/-- The lines that modes have written when they were asked. -/
def modesAsked (s : State) : List Note :=
  s.journal.filter (·.isModeAsked)

/-- Neither a predicate nor a mode has been asked. The former is counted, and the latter writes a
line. -/
structure Unasked (s s' : State) : Prop where
  predicate : s'.predicateCalls = s.predicateCalls
  modes : s'.modesAsked = s.modesAsked

theorem Unasked.refl (s : State) : s.Unasked s :=
  ⟨rfl, rfl⟩

theorem Unasked.trans (first : s.Unasked s') (second : s'.Unasked s'') : s.Unasked s'' :=
  ⟨second.predicate.trans first.predicate, second.modes.trans first.modes⟩

/-- Nobody has been asked as long as the journal stays as it is and the predicate's count does. -/
theorem unasked_of_same (predicate : s'.predicateCalls = s.predicateCalls)
    (journal : s'.journal = s.journal) : s.Unasked s' :=
  ⟨predicate, by rw [modesAsked, journal, modesAsked]⟩

/-- Other lines than those of modes say nothing of a question. -/
theorem unasked_notes (s : State) (lines : List Note)
    (others : ∀ n ∈ lines, n.isModeAsked = false) :
    s.Unasked (s.notes lines) := by
  have none' : lines.filter (·.isModeAsked) = [] :=
    List.filter_eq_nil_iff.mpr fun n member => by simp [others n member]
  exact ⟨rfl, by simp only [modesAsked, notes, List.filter_append, none', List.append_nil]⟩

theorem unasked_note (s : State) (n : Note) (other : n.isModeAsked = false) :
    s.Unasked (s.note n) :=
  unasked_notes s [n] fun _ member => List.mem_singleton.mp member ▸ other

theorem unasked_emit (s : State) (span : Option Trace.Span) (e : Trace.Event) :
    s.Unasked (s.emit span e) :=
  unasked_of_same rfl rfl

theorem unasked_dropGuard (s : State) (scope : Nat) : s.Unasked (s.dropGuard (.holding scope)) :=
  (unasked_note s (.scopeDisposed scope) rfl).trans (unasked_of_same rfl rfl)

/-- A report asks nobody. What a provider writes to the journal is a line of telemetry. -/
theorem unasked_report (s : State) (provider : Telemetry.Provider) (span : Option Trace.Span)
    (scope : Telemetry.Scope) (r : Telemetry.Report) :
    s.Unasked (s.report provider span scope r) := by
  cases provider with
  | silent => exact .refl s
  | recorder => exact unasked_note s _ rfl
  | tracing =>
    simp only [report]
    split
    · exact .refl s
    · exact unasked_emit s _ _
  | metrics => exact unasked_of_same rfl rfl

/-- A launched attempt opens its scope and resolves its implementation without a question. The lines
that it writes on the way are those of the catalog. -/
theorem unasked_opened (course : Course) (trial : Trial) (s : State) :
    s.Unasked (Router.opened course trial s) := by
  have opened : s.Unasked s.issueToken.openScope :=
    (unasked_note s (.scopeOpened s.catalog.nextScope) rfl).trans (unasked_of_same rfl rfl)
  have asked : s.issueToken.openScope.Unasked (s.issueToken.openScope.note
      (.resolving s.catalog.nextScope course.progress.current trial.implementation)) :=
    unasked_note _ _ rfl
  have built (s : State) (r : Resolution) : s.Unasked (s.afterResolution r) := by
    refine (unasked_notes s _ ?_).trans (unasked_of_same rfl rfl)
    intro n member
    obtain ⟨_, -, rfl⟩ := List.mem_map.mp member
    rfl
  exact (opened.trans asked).trans (built _ _)

end State

/-- Nothing an attempt does is a question. Its lines are remarks, or say that the work has begun or
was dropped. -/
theorem Invocation.Effect.unasked {inv : Invocation} {s s' : State} (effect : inv.Effect s s') :
    s.Unasked s' := by
  cases effect with
  | noted ns own =>
    refine State.unasked_notes s ns ?_
    intro n member
    rcases own n member with rfl | rfl | ⟨text, rfl⟩
    · cases inv.work <;> rfl
    · cases inv.work <;> rfl
    · rfl
  | _ => exact State.unasked_of_same rfl rfl

theorem Invocation.Reaches.unasked {inv : Invocation} {s s' : State} (reaches : inv.Reaches s s') :
    s.Unasked s' :=
  reaches.along .refl (fun one two => one.trans two) (fun _ _ effect => effect.unasked)

namespace Router

variable {router : Router} {call : Call} {course : Course} {s s' : State}

/-- An attempt is launched without a question, whatever becomes of it: the key has been settled
before. -/
theorem unasked_launch {r : Ending ⊕ Attempt} (launched : router.launch call course s = (s', r)) :
    s.Unasked s' := by
  have issued : s.Unasked s.issueToken := State.unasked_of_same rfl rfl
  cases r with
  | inr attempt =>
    obtain ⟨-, trial, made, flight, -, -, reaches, -⟩ := waits_of_launch launched
    exact (State.unasked_opened course trial s).trans reaches.unasked
  | inl ending =>
    cases free : call.isStopped s with
    | true =>
      rw [launch_of_stopped course free, Prod.mk.injEq] at launched
      exact launched.1 ▸ issued
    | false =>
      cases listed : router.registration.trial? course.progress.current with
      | none =>
        rw [launch_of_unlisted free listed, Prod.mk.injEq] at launched
        exact launched.1 ▸ issued
      | some trial =>
        obtain ⟨inv, -, last, reaches, rfl⟩ := ended_of_launch free listed launched
        exact ((State.unasked_opened course trial s).trans reaches.unasked).trans
          (State.unasked_dropGuard _ _)

/-- An attempt goes on without a question, whatever becomes of it. -/
theorem unasked_resume {attempt : Attempt} {r : Ending ⊕ Attempt}
    (issued : attempt.flight.Issued s.tokens) (known : attempt.token.id < s.tokens.issued)
    (resumed : resumeAttempt course attempt s = (s', r)) : s.Unasked s' := by
  cases r with
  | inr rest =>
    obtain ⟨flight, -, reaches, -⟩ := waits_of_resume issued resumed
    exact reaches.unasked
  | inl ending =>
    obtain ⟨last, reaches, rfl⟩ := ended_of_resume issued known resumed
    exact reaches.unasked.trans (State.unasked_dropGuard _ _)

theorem unasked_tell (router : Router) (course : Course) (r : Telemetry.Report) (s : State) :
    s.Unasked (router.report course r s) :=
  s.unasked_report router.telemetry (some course.span) course.reporter r

/-- A selected call sets out without a further question. -/
theorem unasked_embark (router : Router) (call : Call) (selection : Selection) (s : State) :
    s.Unasked (router.embark call selection s).1 := by
  have opened : s.Unasked { { s with invocations := s.invocations + 1 }.openSpan
      (s.nextSpan "invocation" s.invocations)
      [Trace.text "service" router.registration.service, Trace.text "method" call.method,
        Trace.text "key" selection.key, Trace.text "source" selection.source.text] with
      reporters := s.reporters + 1 } := State.unasked_of_same rfl rfl
  exact opened.trans ((router.unasked_tell _ _ _).trans (router.unasked_tell _ _ _))

/-- The last reports of a call ask nobody. -/
theorem unasked_finish (router : Router) (course : Course) (r : Telemetry.Report) (s : State) :
    s.Unasked (router.finish course r s) :=
  (router.unasked_tell course r s).trans (router.unasked_tell course .disposed _)

/-- An attempt that has ended is dealt with without a question. -/
theorem unasked_conclude {ending : Ending} {r : Outcome ⊕ Course}
    (answer : router.conclude call course ending s = (s', r)) : s.Unasked s' := by
  have noted : s.Unasked (noteExpiry course ending s) := by
    unfold noteExpiry
    split
    · exact State.unasked_emit s _ _
    · exact .refl s
  have reported (o : Outcome) (s : State) : s.Unasked (router.reportFailure course o s) := by
    cases o with
    | ok v => exact .refl s
    | error f => exact router.unasked_tell course _ s
  have told : s.Unasked (router.conclude call course ending s).1 := by
    simp only [conclude]
    split
    · exact .refl s
    · next o trigger deadline verdict =>
      refine noted.trans ?_
      split
      · exact router.unasked_finish _ _ _
      · have failing := reported o (noteExpiry course ending s)
        split
        · exact failing.trans (router.unasked_finish _ _ _)
        · exact failing.trans ((State.unasked_emit _ _ _).trans (router.unasked_finish _ _ _))
        · exact failing.trans
            ((State.unasked_emit _ _ _).trans (router.unasked_tell _ _ _))
  rw [answer] at told
  exact told

/-- A call is taken down without a question. -/
theorem unasked_abandon (router : Router) (stage : Stage) (s : State) :
    s.Unasked (router.abandon stage s) := by
  cases stage with
  | selecting due opinion => exact .refl s
  | attempting course attempt =>
    have takenDown : s.Unasked (attempt.invocation.abandon attempt.flight s) :=
      (Invocation.abandon_reaches attempt.flight s).unasked
    exact (takenDown.trans (State.unasked_dropGuard _ _)).trans (router.unasked_tell course _ _)

end Router

/-- Only a call that arrives asks. Every later step leaves predicate and modes alone, a fallback
among them. -/
theorem Journey.Step.unasked {router : Router} {s s' : State} {j j' : Journey}
    (step : Step router s j s' j') (sound : j.Sound s) (going : j.phase ≠ .arriving) :
    s.Unasked s' := by
  cases step with
  | refused phase answer => exact absurd phase going
  | chosen phase answer => exact absurd phase going
  | asked phase answer => exact absurd phase going
  | answered phase isDue => exact State.unasked_emit s _ _
  | embarked phase => exact router.unasked_embark _ _ s
  | withheld phase stopped launched => exact Router.unasked_launch launched
  | sped phase free launched => exact Router.unasked_launch launched
  | launched phase launched => exact Router.unasked_launch launched
  | waited phase resumed =>
    obtain ⟨-, known, issued, -⟩ := sound.attempt _ _ phase
    exact Router.unasked_resume issued known resumed
  | left phase resumed =>
    obtain ⟨-, known, issued, -⟩ := sound.attempt _ _ phase
    exact Router.unasked_resume issued known resumed
  | concluded phase answer => exact Router.unasked_conclude answer
  | fellBack phase answer => exact Router.unasked_conclude answer
  | dropped phase => exact router.unasked_abandon _ s
  | droppedInFlight phase => exact router.unasked_abandon _ s

/-! ### What a call asks -/

/-- How often a call has asked the predicate of its trial, and the lines of the modes that it
has asked. -/
structure Inquiry where
  predicateCalls : Nat := 0
  modesAsked : List Note := []

/-- What a call has asked after another step of it. -/
def Inquiry.after (q : Inquiry) (s s' : State) : Inquiry where
  predicateCalls := q.predicateCalls + (s'.predicateCalls - s.predicateCalls)
  modesAsked := q.modesAsked ++ s'.modesAsked.drop s.modesAsked.length

/-- A step that asks nobody adds nothing, so that an inquiry is made up of the steps that ask. -/
theorem Inquiry.after_unasked {s s' : State} (q : Inquiry) (unasked : s.Unasked s') :
    q.after s s' = q := by
  rw [after, unasked.predicate, unasked.modes, Nat.sub_self, Nat.add_zero, List.drop_length,
    List.append_nil]

/-- The line that a mode writes when it is asked about a method of a trial. Built-in modes
write none. -/
def Mode.line? (r : Registration) (method : String) : Mode → Option Note
  | custom m => some (.modeAsked m.name r.service method r.selector r.defaultKey r.keys.length)
  | _ => none

/-- The inquiry that consists of some questions about a method of a trial: those to the predicate
are counted, and those to modes of one's own leave their lines. -/
def Inquiry.of (r : Registration) (method : String) (questions : List Consultation) : Inquiry where
  predicateCalls := (questions.filterMap (·.moment?)).length
  modesAsked := (questions.filterMap (·.mode?)).filterMap (·.line? r method)

namespace State

variable {r : Registration} {s : State} {method : String}

/-- The line of a mode is added when it is asked, at the end of what others have written. -/
theorem modesAsked_afterAsking (s : State) (r : Registration) (method : String) (mode : Mode) :
    (s.afterAsking r method mode).modesAsked = s.modesAsked ++ (mode.line? r method).toList := by
  have others (selector : Selector) :
      { s with selector }.modesAsked = s.modesAsked ++ (none : Option Note).toList :=
    (List.append_nil _).symm
  cases mode with
  | custom m => exact List.filter_append _ _
  | booleanFlag => exact others _
  | configurationValue => exact others _
  | random => exact others _

/-- Nobody is asked about an inactive trial, unless the gate asks the predicate. Such a trial has
its default key. -/
theorem modesAsked_choose_of_inactive {reason : InactiveReason}
    (inactive : r.IsInactive method s.wallClock reason) :
    (s.choose r method).1.modesAsked = s.modesAsked := by
  simp only [choose, Registration.inactive?_of_isInactive inactive]
  rfl

/-- The mode of an active trial is asked if it is registered, once. If it is not, there is nobody to
be asked. -/
theorem modesAsked_choose_of_isActive (active : r.IsActive method s.wallClock) :
    (s.choose r method).1.modesAsked =
      s.modesAsked ++ ((s.selector.mode? r.mode).bind (·.line? r method)).toList := by
  simp only [choose, Registration.inactive?_of_isActive active, ask]
  split
  · next unregistered =>
    have none' : s.selector.mode? r.mode = none := unregistered
    simp only [none', Option.bind_none, Option.toList_none, List.append_nil]
    rfl
  · next mode registered =>
    have some' : s.selector.mode? r.mode = some mode := registered
    have asked := modesAsked_afterAsking (s.afterGate (r.predicateCalls s.wallClock)) r method mode
    simp only [some', Option.bind_some]
    split
    · exact asked
    · exact asked

/-- The gate counts what it has asked the predicate. -/
theorem predicateCalls_choose (s : State) (r : Registration) (method : String) :
    (s.choose r method).1.predicateCalls = s.predicateCalls + r.predicateCalls s.wallClock := by
  have asking (mode : Mode) (s : State) :
      (s.afterAsking r method mode).predicateCalls = s.predicateCalls := by
    unfold afterAsking
    split <;> rfl
  simp only [choose, ask]
  split
  · rfl
  · split
    · rfl
    · split
      · exact asking _ _
      · exact asking _ _

/-- Choosing a key makes the whole inquiry: the questions of the selection, one by one. The list of
questions is computed by the gate and the mode themselves, with no regard to what is counted. -/
theorem after_choose (s : State) (r : Registration) (method : String) :
    ({} : Inquiry).after s (s.choose r method).1 = .of r method (r.questions s method) := by
  have moments : (s.choose r method).1.predicateCalls - s.predicateCalls =
      ((r.questions s method).filterMap (·.moment?)).length := by
    rw [predicateCalls_choose, Nat.add_sub_cancel_left, r.predicateCalls_eq, r.moments_questions]
    by_cases inside : r.window.Contains s.wallClock <;> cases r.predicate <;> simp [inside]
  have modes : (s.choose r method).1.modesAsked = s.modesAsked ++
      ((r.questions s method).filterMap (·.mode?)).filterMap (·.line? r method) := by
    rw [r.modes_questions]
    rcases r.isActive_or method s.wallClock with active | ⟨reason, inactive⟩
    · rw [modesAsked_choose_of_isActive active, if_pos active]
      cases s.selector.mode? r.mode with
      | none => rfl
      | some mode => cases known : mode.line? r method <;> simp [known]
    · rw [modesAsked_choose_of_inactive inactive, if_neg (Registration.not_isActive inactive)]
      exact (List.append_nil _).symm
  simp only [Inquiry.after, Inquiry.of, moments, modes, List.drop_left, Nat.zero_add,
    List.nil_append]

end State

end TrialRouting
