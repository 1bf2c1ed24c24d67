import TrialRouting.Router

/-!
# What a call does besides its attempts

Between its attempts a call asks for a key, reports to its telemetry and writes to the
trace. None of that touches what the attempts share: the clock, the tokens, circuits,
permits and the catalog stay as they are, and the journal only gets lines of telemetry
and of the selection modes.
-/

namespace TrialRouting

/-- A line that no attempt has written: a report to the telemetry, or a question to a mode. -/
def Note.IsAside : Note → Prop
  | .telemetry _ _ => True
  | .modeAsked _ _ _ _ _ _ => True
  | _ => False

/-- A change that leaves alone everything attempts work with, and adds no line to the journal but
those of telemetry and modes. -/
structure State.Aside (s s' : State) : Prop where
  now : s'.now = s.now
  tokens : s'.tokens = s.tokens
  handedOut : s'.handedOut = s.handedOut
  circuits : s'.circuits = s.circuits
  limiters : s'.limiters = s.limiters
  catalog : s'.catalog = s.catalog
  journal : ∃ lines, s'.journal = s.journal ++ lines ∧ ∀ n ∈ lines, n.IsAside

namespace State

variable {s s' s'' : State}

theorem Aside.refl (s : State) : s.Aside s :=
  ⟨rfl, rfl, rfl, rfl, rfl, rfl, [], (List.append_nil _).symm,
    fun _ impossible => absurd impossible List.not_mem_nil⟩

theorem Aside.trans (first : s.Aside s') (second : s'.Aside s'') : s.Aside s'' := by
  obtain ⟨lines, written, aside⟩ := first.journal
  obtain ⟨more, writtenToo, asideToo⟩ := second.journal
  refine ⟨second.now.trans first.now, second.tokens.trans first.tokens,
    second.handedOut.trans first.handedOut, second.circuits.trans first.circuits,
    second.limiters.trans first.limiters, second.catalog.trans first.catalog,
    lines ++ more, ?_, ?_⟩
  · rw [writtenToo, written, List.append_assoc]
  · intro n member
    rcases List.mem_append.mp member with early | late
    · exact aside n early
    · exact asideToo n late

/-- The same tokens are cancelled. So a call that only asks or reports stops nobody. -/
theorem Aside.isCancelled (aside : s.Aside s') (t : Token) :
    s'.isCancelled t = s.isCancelled t := by
  rw [State.isCancelled, aside.tokens, State.isCancelled]

/-- A line that is no attempt's. -/
theorem aside_note (s : State) (n : Note) (aside : n.IsAside) : s.Aside (s.note n) :=
  ⟨rfl, rfl, rfl, rfl, rfl, rfl, [n], rfl, fun _ member => List.mem_singleton.mp member ▸ aside⟩

/-- A change of the trace, the metrics, the counters or the modes is none of the attempts'
business. -/
theorem aside_of_unwritten (now : s'.now = s.now) (tokens : s'.tokens = s.tokens)
    (handedOut : s'.handedOut = s.handedOut) (circuits : s'.circuits = s.circuits)
    (limiters : s'.limiters = s.limiters) (catalog : s'.catalog = s.catalog)
    (journal : s'.journal = s.journal) : s.Aside s' :=
  ⟨now, tokens, handedOut, circuits, limiters, catalog, [],
    journal.trans (List.append_nil _).symm, fun _ impossible => absurd impossible List.not_mem_nil⟩

theorem aside_emit (s : State) (span : Option Trace.Span) (e : Trace.Event) :
    s.Aside (s.emit span e) :=
  aside_of_unwritten rfl rfl rfl rfl rfl rfl rfl

/-- A report goes to the journal, the trace or the metrics, after the provider. Of these only the
journal is looked at here, and it gets a line of telemetry. -/
theorem aside_report (s : State) (provider : Telemetry.Provider) (span : Option Trace.Span)
    (scope : Telemetry.Scope) (r : Telemetry.Report) :
    s.Aside (s.report provider span scope r) := by
  cases provider with
  | silent => exact .refl s
  | recorder => exact aside_note s _ trivial
  | tracing =>
    simp only [report]
    split
    · exact .refl s
    · exact aside_emit s _ _
  | metrics => exact aside_of_unwritten rfl rfl rfl rfl rfl rfl rfl

/-- A mode has been asked. -/
theorem aside_afterAsking (s : State) (r : Registration) (method : String) (mode : Mode) :
    s.Aside (s.afterAsking r method mode) := by
  have asked : s.Aside { s with selector := s.selector.afterAsking mode } :=
    aside_of_unwritten rfl rfl rfl rfl rfl rfl rfl
  cases mode with
  | custom m => exact asked.trans (aside_note _ _ trivial)
  | booleanFlag => exact asked
  | configurationValue => exact asked
  | random => exact asked

/-- An opinion has become a selection. -/
theorem aside_settle (s : State) (r : Registration) (opinion : Opinion) :
    s.Aside (s.settle r opinion).1 :=
  aside_emit s _ _

/-- A key has been asked for. -/
theorem aside_choose (s : State) (r : Registration) (method : String) :
    s.Aside (s.choose r method).1 := by
  have gated : s.Aside (s.afterGate (r.predicateCalls s.wallClock)) :=
    aside_of_unwritten rfl rfl rfl rfl rfl rfl rfl
  simp only [choose]
  split
  · exact gated.trans (aside_emit _ _ _)
  · refine gated.trans ?_
    simp only [ask]
    split
    · exact aside_emit _ _ _
    · split
      · exact (aside_afterAsking _ _ _ _).trans (aside_settle _ _ _)
      · exact aside_afterAsking _ _ _ _

end State

namespace Router

variable (router : Router)

/-- A call has arrived. It has a span, may be refused for the type of its request, and otherwise
asks for its key. -/
theorem aside_receive {call : Call} {s s' : State} {r : Outcome ⊕ Asked}
    (answer : router.receive call s = (s', r)) : s.Aside s' := by
  have told : s.Aside (router.receive call s).1 := by
    simp only [receive]
    split
    · exact State.aside_emit s _ _
    · exact State.aside_choose s _ _
  rw [answer] at told
  exact told

/-- A report of the call has been made. -/
theorem aside_report (course : Course) (r : Telemetry.Report) (s : State) :
    s.Aside (router.report course r s) :=
  State.aside_report s _ _ _ _

/-- A selected call has set out. Its selection is reported, and nothing has been attempted yet. -/
theorem aside_embark (call : Call) (selection : Selection) (s : State) :
    s.Aside (router.embark call selection s).1 := by
  have counted : s.Aside { { s with invocations := s.invocations + 1 }.openSpan
      (s.nextSpan "invocation" s.invocations)
      [Trace.text "service" router.registration.service, Trace.text "method" call.method,
        Trace.text "key" selection.key, Trace.text "source" selection.source.text] with
      reporters := s.reporters + 1 } :=
    State.aside_of_unwritten rfl rfl rfl rfl rfl rfl rfl
  exact counted.trans ((router.aside_report _ _ _).trans (router.aside_report _ _ _))

/-- The last reports of a call. -/
theorem aside_finish (course : Course) (r : Telemetry.Report) (s : State) :
    s.Aside (router.finish course r s) :=
  (router.aside_report course r s).trans (router.aside_report course .disposed _)

/-- A missed deadline only shows in the trace. -/
theorem aside_noteExpiry (course : Course) (ending : Ending) (s : State) :
    s.Aside (noteExpiry course ending s) := by
  unfold noteExpiry
  split
  · exact State.aside_emit s _ _
  · exact .refl s

/-- An attempt that has ended is dealt with. What follows from it is written and reported, whatever
it is. -/
theorem aside_conclude {call : Call} {course : Course} {ending : Ending} {s s' : State}
    {r : Outcome ⊕ Course} (answer : router.conclude call course ending s = (s', r)) :
    s.Aside s' := by
  have reported (o : Outcome) (s : State) : s.Aside (router.reportFailure course o s) := by
    cases o with
    | ok v => exact .refl s
    | error f => exact router.aside_report course _ s
  have told : s.Aside (router.conclude call course ending s).1 := by
    simp only [conclude]
    split
    · exact .refl s
    · next o trigger deadline verdict =>
      refine (aside_noteExpiry course ending s).trans ?_
      split
      · exact router.aside_finish _ _ _
      · have failing := reported o (noteExpiry course ending s)
        split
        · exact failing.trans (router.aside_finish _ _ _)
        · exact failing.trans ((State.aside_emit _ _ _).trans (router.aside_finish _ _ _))
        · exact failing.trans ((State.aside_emit _ _ _).trans (router.aside_report _ _ _))
  rw [answer] at told
  exact told

/-- Unless its caller has cancelled it, a call goes on as its fallback plan says: it succeeds, gives
up, or attempts the next key. -/
theorem conclude_of_free {call : Call} {course : Course} {ending : Ending} {s : State}
    {o : Outcome} {trigger : Trigger} {deadline : Option (Instant × TimeoutPolicy)}
    (verdict : router.verdict? course ending = some (o, trigger, deadline))
    (free : s.isCancelled call.token = false) :
    (router.conclude call course ending s).2 =
      match course.progress.advance router.registration o trigger with
      | (_, .succeed v) => .inl (.ok v)
      | (_, .giveUp f) => .inl (.error f)
      | (progress, .attempt _) => .inr { course with progress, deadline } := by
  have still : (noteExpiry course ending s).isCancelled call.token = false :=
    ((aside_noteExpiry course ending s).isCancelled call.token).trans free
  simp only [conclude, verdict, still, Bool.and_false, Bool.false_eq_true, if_false]
  obtain ⟨progress, move⟩ := course.progress.advance router.registration o trigger
  cases move with
  | succeed v => rfl
  | giveUp f => rfl
  | attempt next => rfl

end Router

end TrialRouting
