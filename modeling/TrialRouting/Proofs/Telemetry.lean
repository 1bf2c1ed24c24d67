import TrialRouting.Proofs.Call.World
import TrialRouting.Proofs.Minutes

/-!
# What reaches the telemetry

A report leaves its trace where the provider keeps it: a recorder writes a line, the metrics
provider counts samples. `State.Utters` says that a change of the shared state consists,
as far as telemetry can tell, of the given reports in the given order; `State.Silent` that
it consists of none. Attempts are silent, whatever their decorators do, and so is asking for
a key: all reports come from the call around the attempts.
-/

namespace TrialRouting

/-- The report that a line of the journal is. -/
def Note.report? : Note → Option Telemetry.Utterance
  | .telemetry scope r => some (scope, r)
  | _ => none

/-- The reports a recorder has written down. -/
def State.recorded (s : State) : List Telemetry.Utterance :=
  s.journal.filterMap Note.report?

namespace State

/-- As far as telemetry can tell, nothing has happened. -/
structure Silent (s s' : State) : Prop where
  recorded : s'.recorded = s.recorded
  samples : s'.samples = s.samples
  reporters : s'.reporters = s.reporters

/-- As far as telemetry can tell, the given reports have been made to a provider. -/
structure Utters (provider : Telemetry.Provider) (s s' : State)
    (added : List Telemetry.Utterance) : Prop where
  recorded : s'.recorded = s.recorded ++ if provider = .recorder then added else []
  samples : s'.samples = s.samples ++ if provider = .metrics then Telemetry.sampled added else []

variable {provider : Telemetry.Provider} {s s' s'' : State}
  {first second added : List Telemetry.Utterance}

theorem Silent.refl (s : State) : s.Silent s := ⟨rfl, rfl, rfl⟩

theorem Silent.trans (one : s.Silent s') (two : s'.Silent s'') : s.Silent s'' :=
  ⟨two.recorded.trans one.recorded, two.samples.trans one.samples,
    two.reporters.trans one.reporters⟩

/-- What leaves the journal, the metrics and the count of scopes alone is silent. -/
theorem silent_of_same (journal : s'.journal = s.journal) (samples : s'.samples = s.samples)
    (reporters : s'.reporters = s.reporters) : s.Silent s' :=
  ⟨by rw [State.recorded, journal, State.recorded], samples, reporters⟩

/-- Lines that are no reports are silent. Most lines of the journal are of this kind: they say what
decorators, scopes and implementations do. -/
theorem silent_notes (s : State) (lines : List Note) (others : ∀ n ∈ lines, n.report? = none) :
    s.Silent (s.notes lines) := by
  refine ⟨?_, rfl, rfl⟩
  have nothing : lines.filterMap Note.report? = [] := List.filterMap_eq_nil_iff.mpr others
  simp [State.recorded, notes, nothing]

/-- A line that is no report is silent. -/
theorem silent_note (s : State) (n : Note) (other : n.report? = none) : s.Silent (s.note n) :=
  silent_notes s [n] fun _ member => List.mem_singleton.mp member ▸ other

/-- An event in a trace is none for the telemetry. -/
theorem silent_emit (s : State) (span : Option Trace.Span) (e : Trace.Event) :
    s.Silent (s.emit span e) :=
  silent_of_same rfl rfl rfl

/-- A scope is disposed without a report. -/
theorem silent_dropGuard (s : State) (scope : Nat) : s.Silent (s.dropGuard (.holding scope)) :=
  (silent_note s (.scopeDisposed scope) rfl).trans (silent_of_same rfl rfl rfl)

theorem Utters.refl (provider : Telemetry.Provider) (s : State) : Utters provider s s [] :=
  ⟨by simp, by simp [Telemetry.sampled]⟩

theorem Utters.trans (one : Utters provider s s' first) (two : Utters provider s' s'' second) :
    Utters provider s s'' (first ++ second) := by
  refine ⟨?_, ?_⟩
  · rw [two.recorded, one.recorded]
    split <;> simp
  · rw [two.samples, one.samples]
    split <;> simp [Telemetry.sampled]

/-- What is silent utters nothing. -/
theorem Silent.utters (silent : s.Silent s') (provider : Telemetry.Provider) :
    Utters provider s s' [] :=
  ⟨by simp [silent.recorded], by simp [silent.samples, Telemetry.sampled]⟩

/-- A report is uttered: a recorder writes it down, and the metrics provider counts its samples,
while the other two leave nothing that could be heard. No provider starts a scope for it. -/
theorem utters_report (s : State) (provider : Telemetry.Provider) (span : Option Trace.Span)
    (scope : Telemetry.Scope) (r : Telemetry.Report) :
    Utters provider s (s.report provider span scope r) [(scope, r)] ∧
      (s.report provider span scope r).reporters = s.reporters := by
  cases provider with
  | silent => exact ⟨⟨by simp [report], by simp [report]⟩, rfl⟩
  | recorder =>
    refine ⟨⟨?_, ?_⟩, rfl⟩
    · simp [report, State.recorded, note, Note.report?]
    · simp [report, note]
  | tracing =>
    simp only [report]
    split
    · exact ⟨⟨by simp, by simp⟩, rfl⟩
    · exact ⟨⟨by simp [State.recorded, emit, record], by simp [emit, record]⟩, rfl⟩
  | metrics =>
    refine ⟨⟨?_, ?_⟩, rfl⟩
    · simp [report, State.recorded]
    · simp [report, Telemetry.sampled]

/-- A mode is asked without a report. -/
theorem silent_afterAsking (s : State) (r : Registration) (method : String) (mode : Mode) :
    s.Silent (s.afterAsking r method mode) := by
  have asked : s.Silent { s with selector := s.selector.afterAsking mode } :=
    silent_of_same rfl rfl rfl
  cases mode with
  | custom m => exact asked.trans (silent_note _ _ rfl)
  | booleanFlag => exact asked
  | configurationValue => exact asked
  | random => exact asked

/-- A key is asked for without a report. The gate and the mode are asked, and random selection draws
from its generator; the selection is reported once there is a scope to report it to. -/
theorem silent_choose (s : State) (r : Registration) (method : String) :
    s.Silent (s.choose r method).1 := by
  have gated : s.Silent (s.afterGate (r.predicateCalls s.wallClock)) := silent_of_same rfl rfl rfl
  simp only [choose]
  split
  · exact gated.trans (silent_emit _ _ _)
  · refine gated.trans ?_
    simp only [ask]
    split
    · exact silent_emit _ _ _
    · split
      · exact (silent_afterAsking _ _ _ _).trans (silent_emit _ _ _)
      · exact silent_afterAsking _ _ _ _

/-- A launched attempt opens its scope and resolves its implementation without a report. Both are
written in the journal, as lines about scopes and constructions. -/
theorem silent_opened (course : Course) (trial : Trial) (s : State) :
    s.Silent (Router.opened course trial s) := by
  have opened : s.Silent s.issueToken.openScope :=
    (silent_note s (.scopeOpened s.catalog.nextScope) rfl).trans (silent_of_same rfl rfl rfl)
  have asked : s.issueToken.openScope.Silent (s.issueToken.openScope.note
      (.resolving s.catalog.nextScope course.progress.current trial.implementation)) :=
    silent_note _ _ rfl
  have built (s : State) (r : Resolution) : s.Silent (s.afterResolution r) := by
    refine (silent_notes s _ ?_).trans (silent_of_same rfl rfl rfl)
    intro n member
    obtain ⟨_, -, rfl⟩ := List.mem_map.mp member
    rfl
  exact (opened.trans asked).trans (built _ _)

end State

/-- Nothing an attempt does is a report. Decorators and implementations write lines, open spans,
change circuits and permits and cancel tokens, but telemetry is not in their hands. -/
theorem Invocation.Effect.silent {inv : Invocation} {s s' : State} (effect : inv.Effect s s') :
    s.Silent s' := by
  cases effect with
  | noted ns own =>
    refine State.silent_notes s ns ?_
    intro n member
    rcases own n member with rfl | rfl | ⟨text, rfl⟩
    · cases inv.work <;> rfl
    · cases inv.work <;> rfl
    · rfl
  | _ => exact State.silent_of_same rfl rfl rfl

theorem Invocation.Reaches.silent {inv : Invocation} {s s' : State} (reaches : inv.Reaches s s') :
    s.Silent s' :=
  reaches.along .refl (fun one two => one.trans two) (fun _ _ effect => effect.silent)

namespace Router

variable {router : Router} {call : Call} {course : Course} {s s' : State}

/-- A call arrives and asks for its key without a report. -/
theorem silent_receive {r : Outcome ⊕ Asked} (answer : router.receive call s = (s', r)) :
    s.Silent s' := by
  have told : s.Silent (router.receive call s).1 := by
    simp only [receive]
    split
    · exact State.silent_emit s _ _
    · exact State.silent_choose s _ _
  rw [answer] at told
  exact told

/-- An attempt is launched without a report, whatever becomes of it. The cases are those of
launching: the call has been stopped, its key has no trial, its implementation cannot be resolved,
or the decorators are entered. -/
theorem silent_launch {r : Ending ⊕ Attempt} (launched : router.launch call course s = (s', r)) :
    s.Silent s' := by
  have issued : s.Silent s.issueToken := State.silent_of_same rfl rfl rfl
  cases r with
  | inr attempt =>
    obtain ⟨-, trial, made, flight, -, -, reaches, -⟩ := waits_of_launch launched
    exact (State.silent_opened course trial s).trans reaches.silent
  | inl ending =>
    cases free : call.isStopped s with
    | true =>
      rw [launch_of_stopped course free, Prod.mk.injEq] at launched
      exact launched.1 ▸ issued
    | false =>
      cases listed : router.registration.trial? course.progress.current with
      | none =>
        rw [launch_of_unlisted free listed, Prod.mk.injEq] at launched
        exact launched.1 ▸ issued
      | some trial =>
        obtain ⟨inv, -, last, reaches, rfl⟩ := ended_of_launch free listed launched
        exact ((State.silent_opened course trial s).trans reaches.silent).trans
          (State.silent_dropGuard _ _)

/-- An attempt goes on without a report, whatever becomes of it. Either it has been cut off and is
taken down, or its decorators are resumed; both are sequences of silent effects. -/
theorem silent_resume {attempt : Attempt} {r : Ending ⊕ Attempt}
    (issued : attempt.flight.Issued s.tokens) (known : attempt.token.id < s.tokens.issued)
    (resumed : resumeAttempt course attempt s = (s', r)) : s.Silent s' := by
  cases r with
  | inr rest =>
    obtain ⟨flight, -, reaches, -⟩ := waits_of_resume issued resumed
    exact reaches.silent
  | inl ending =>
    obtain ⟨last, reaches, rfl⟩ := ended_of_resume issued known resumed
    exact reaches.silent.trans (State.silent_dropGuard _ _)

/-- A missed deadline only shows in the trace. It is reported once the call knows whether another
attempt follows. -/
theorem silent_noteExpiry (course : Course) (ending : Ending) (s : State) :
    s.Silent (noteExpiry course ending s) := by
  unfold noteExpiry
  split
  · exact State.silent_emit s _ _
  · exact .refl s

end Router

/-- Whatever happens outside the calls is silent. -/
theorem State.Outside.silent {s s' : State} (change : s.Outside s') : s.Silent s' := by
  cases change <;> exact State.silent_of_same rfl rfl rfl

end TrialRouting
