import TrialRouting.Proofs.Call.Reports
import TrialRouting.Proofs.Call.Traces

/-!
# The story of a call

A call that has got its key opens a span, and from then on its story in the trace is that of its
attempts, in order: the trail of each, and what the router says once it has ended, up to the one
that the call has come to. What there is to say about that one depends on the phase of the call.

`Journey.Narrates` is that story for a journey. Each step of a call only writes what its own story
goes on with, and a call that has not got its key, or never gets one, writes outside all spans.
-/

namespace TrialRouting

open Trace (Entry Event Span Story openings inside mem_inside)

namespace Router

variable {router : Router} {call : Call} {selection : Selection} {span : Span}

/-- The ending of the attempt that a call has come to, and what the attempt has written. -/
inductive Arrived (router : Router) (span : Span) (e : Ending) :
    Option Leg → List Entry → Prop where
  | attempted {leg : Leg} {mine : List Entry} (ending : leg.ending = some e)
      (number : leg.context.invocation = span.invocation) (wrote : router.Wrote span leg mine) :
      Arrived router span e (some leg) mine
  /-- The attempt has not started, since its token is cancelled. -/
  | withheld (ending : e = .completed (.error cancelledFailure)) : Arrived router span e none []

/-- What a call has written by the time it has come to another attempt: its opening, and then for
each attempt the trail and what the router has said of it. -/
inductive Followed (router : Router) (call : Call) (selection : Selection) (span : Span) :
    List Leg → List Entry → Prop where
  | embarked (scope : Telemetry.Scope) : Followed router call selection span []
      (.opened span (router.callFields call selection) :: inside span
        (router.told scope .started ++
          router.told scope (.variant selection.key selection.source)))
  | next {made : List Leg} {before mine : List Entry} {e : Ending} {leg? : Option Leg}
      {c next : Course} {events : List Event}
      (followed : Followed router call selection span made before)
      (arrived : router.Arrived span e leg? mine)
      (remarks : router.Remarks c e (.inr next) events) :
      Followed router call selection span (made ++ leg?.toList)
        (before ++ mine ++ inside span events)

/-- What a call has written about the attempt it has come to: the attempt itself, and then the
router. -/
inductive Latest (router : Router) (span : Span) :
    Phase → Option Leg → List Entry → List Event → Prop where
  | launching (c : Course) : Latest router span (.launching c) none [] []
  | attempting {attempt : Attempt} {mine : List Entry} (c : Course)
      (number : attempt.invocation.context.invocation = span.invocation)
      (trail : attempt.flight.Trail attempt.invocation.context (some span) router.pipeline mine) :
      Latest router span (.attempting c attempt) (some (attempt.leg none)) mine []
  | concluding {e : Ending} {leg? : Option Leg} {mine : List Entry} (c : Course)
      (arrived : router.Arrived span e leg? mine) :
      Latest router span (.concluding c e) leg? mine []
  | ended {c : Course} {e : Ending} {o : Outcome} {leg? : Option Leg} {mine : List Entry}
      {events : List Event} (arrived : router.Arrived span e leg? mine)
      (remarks : router.Remarks c e (.inl o) events) :
      Latest router span (.ended o) leg? mine events
  | takenDown {leg : Leg} {mine : List Entry} (scope : Telemetry.Scope)
      (ending : leg.ending = none) (number : leg.context.invocation = span.invocation)
      (wrote : router.Wrote span leg mine) :
      Latest router span .takenDown (some leg) mine (router.told scope .disposed)

end Router

namespace Journey

/-- The story of a call that has got its key. The attempts `made` have been followed by others. -/
structure Narrates (router : Router) (j : Journey) (a : Story) (selection : Selection)
    (made : List Leg) (leg? : Option Leg) (before mine : List Entry) (closing : List Event) :
    Prop where
  selected : j.selection = some selection
  legs : j.legs = made ++ leg?.toList
  name : a.span.name = "invocation"
  entries : a.entries = before ++ mine ++ inside a.span closing
  followed : router.Followed j.call selection a.span made before
  latest : router.Latest a.span j.phase leg? mine closing
  course : ∀ c, j.phase.course? = some c →
    c.span = a.span ∧ c.context.invocation = a.span.invocation

/-- The story of a call. It has none before it sets out with its key. -/
def Recounts (router : Router) (j : Journey) : Option Story → Prop
  | none => j.phase.course? = none ∧ j.legs = [] ∧
      ∀ selection, j.selection = some selection ↔ j.phase = .selected selection
  | some a => ∃ selection made leg? before mine closing,
      j.Narrates router a selection made leg? before mine closing

end Journey

/-- What becomes of the story of a call when the state changes. -/
inductive Trace.Continues (s s' : State) : Option Story → Option Story → Prop where
  | aside (adds : s.AddsOutside s') : Continues s s' none none
  | opens {a : Story} (traces : s.Traces s' a.entries)
      (number : a.span.invocation = s.invocations) (count : s'.invocations = s.invocations + 1)
      (own : ∀ x ∈ a.entries, x.IsOf a.span.invocation) : Continues s s' none (some a)
  | adds {a : Story} {added : List Entry} (adds : s.Adds s' added)
      (own : ∀ x ∈ added, x.IsOf a.span.invocation) :
      Continues s s' (some a) (some { a with entries := a.entries ++ added })

/-! ### All of a story is about its call -/

/-- What the router itself says about a call. -/
def routerMessages : List String :=
  ["trial deadline exceeded", "fallbacks exhausted", "falling back",
    "implementation resolution failed"]

/-- Everything in a part of the story of a call is about the span of the call, or about a span that
logging has opened in that part. -/
def Trace.Contained (span : Span) (entries : List Entry) : Prop :=
  ∀ x ∈ entries, x.span? = some span ∨ ∃ own ∈ openings entries, x.span? = some own ∧
    own.name = "attempt" ∧ own.invocation = span.invocation ∧
      ∀ e current, x = .event e current → e.message ∉ routerMessages

/-- What is said inside of an attempt is not what the router says. -/
theorem not_mem_routerMessages {message : String}
    (known : message ∈ decoratorMessages ∨ message ∈ completionMessages) :
    message ∉ routerMessages := by
  have apart : ∀ m ∈ decoratorMessages ++ completionMessages, m ∉ routerMessages := by decide
  exact apart message (List.mem_append.mpr known)

namespace Trace

variable {span : Span} {first second entries : List Entry}

/-- So all of it is about the call, whose number its spans carry. -/
theorem Contained.isOf (contained : Contained span entries) :
    ∀ x ∈ entries, x.IsOf span.invocation := by
  intro x member
  rcases contained x member with around | ⟨own, -, here, -, call, -⟩
  · exact ⟨span, around, rfl⟩
  · exact ⟨own, here, call⟩

theorem Contained.append (one : Contained span first) (two : Contained span second) :
    Contained span (first ++ second) := by
  intro x member
  rw [openings_append]
  rcases List.mem_append.mp member with early | late
  · rcases one x early with around | ⟨own, opened, about⟩
    · exact .inl around
    · exact .inr ⟨own, List.mem_append_left _ opened, about⟩
  · rcases two x late with around | ⟨own, opened, about⟩
    · exact .inl around
    · exact .inr ⟨own, List.mem_append_right _ opened, about⟩

/-- Events inside the span of a call. -/
theorem contained_inside (span : Span) (events : List Event) :
    Contained span (inside span events) := by
  intro x member
  obtain ⟨e, -, rfl⟩ := mem_inside.mp member
  exact .inl rfl

/-- The opening of the span of a call. -/
theorem contained_opened (span : Span) (fields : List Field) :
    Contained span [.opened span fields] :=
  fun _ member => .inl (List.mem_singleton.mp member ▸ rfl)

end Trace

/-- What an attempt has written is contained in the span of its call. Its spans are opened further
inside. -/
theorem Context.Trail.contained {c : Context} {span : Span} {decorators : List Decorator}
    {entries : List Entry} {o? : Option Outcome}
    (trail : c.Trail (some span) decorators entries o?) (number : c.invocation = span.invocation) :
    Trace.Contained span entries := by
  intro x member
  have nested := trail.nested
  rcases nested.mem_cases x member with ⟨e, rfl, -⟩ | ⟨own, opened, here⟩
  · exact .inl rfl
  · obtain ⟨name, call⟩ := nested.openings_eq own opened
    refine .inr ⟨own, opened, here, name, call.trans number, ?_⟩
    rintro e current rfl
    exact not_mem_routerMessages (nested.message_mem member)

theorem Router.Wrote.contained {router : Router} {span : Span} {leg : Leg} {mine : List Entry}
    (wrote : router.Wrote span leg mine)
    (number : leg.context.invocation = span.invocation) : Trace.Contained span mine := by
  cases wrote with
  | unlisted ending => exact fun _ impossible => absurd impossible List.not_mem_nil
  | unresolved source ending => exact Trace.contained_inside span _
  | completed trail ending => exact trail.contained number
  | unfinished trail ending => exact trail.contained number

namespace Journey

variable {router : Router} {s s' : State} {j j' : Journey} {story? : Option Story} {a : Story}
  {c : Course}

/-- A call that has not set out yet has no story. There is no phase before that in which something
could have been written inside its span. -/
theorem Recounts.eq_none (recounts : j.Recounts router story?)
    (early : ∀ span leg? mine closing, ¬ router.Latest span j.phase leg? mine closing) :
    story? = none := by
  cases story? with
  | none => rfl
  | some a =>
    obtain ⟨selection, made, leg?, before, mine, closing, narrates⟩ := recounts
    exact absurd narrates.latest (early _ _ _ _)

/-- A call on a course has one, and the course is inside the span of the story. So what it writes
next goes there. -/
theorem Recounts.eq_some (recounts : j.Recounts router story?)
    (onCourse : j.phase.course? = some c) :
    ∃ a selection made leg? before mine closing, story? = some a ∧
      j.Narrates router a selection made leg? before mine closing ∧
      c.span = a.span ∧ c.context.invocation = a.span.invocation := by
  cases story? with
  | none => cases recounts.1.symm.trans onCourse
  | some a =>
    obtain ⟨selection, made, leg?, before, mine, closing, narrates⟩ := recounts
    exact ⟨a, selection, made, leg?, before, mine, closing, rfl, narrates,
      narrates.course c onCourse⟩

/-- After a step the story of a call goes on: the step has written what comes next in it, and has
written nothing else. A call without a story either begins one or writes outside all spans. -/
def GoesOnRecounting (router : Router) (s s' : State) (story? : Option Story) (j' : Journey) :
    Prop :=
  ∃ story?', j'.Recounts router story?' ∧ Trace.Continues s s' story? story?'

/-- A call that has no key yet has no story. -/
theorem Recounts.keyless (recounts : j.Recounts router story?) (waiting : j.AwaitsKey) :
    story? = none ∧ j.selection = none ∧ j.finished = [] := by
  obtain rfl : story? = none := by
    rcases waiting with phase | ⟨due, opinion, phase⟩
    · exact recounts.eq_none (by rw [phase]; rintro _ _ _ _ ⟨⟩)
    · exact recounts.eq_none (by rw [phase]; rintro _ _ _ _ ⟨⟩)
  refine ⟨rfl, ?_, (List.append_eq_nil_iff.mp recounts.2.1).1⟩
  cases selected : j.selection with
  | none => rfl
  | some selection =>
    have phase := (recounts.2.2 selection).mp selected
    rcases waiting with early | ⟨due, opinion, early⟩
    · cases early.symm.trans phase
    · cases early.symm.trans phase

/-- Whatever such a call does without getting a key is written outside all spans, and so it still
has no story. -/
theorem Recounts.stillKeyless (recounts : j.Recounts router story?) (waiting : j.AwaitsKey)
    (adds : s.AddsOutside s') (phase : Phase) (after : phase.course? = none)
    (idle : ({ j with phase } : Journey).underway = [])
    (unselected : ∀ selection, phase ≠ .selected selection) :
    GoesOnRecounting router s s' story? { j with phase } := by
  obtain ⟨rfl, selection, finished⟩ := recounts.keyless waiting
  refine ⟨none, ⟨after, ?_, fun key => ⟨fun selected => ?_, fun same => ?_⟩⟩, .aside adds⟩
  · rw [legs, idle, List.append_nil]
    exact finished
  · cases selection.symm.trans selected
  · exact absurd same (unselected key)

/-- Nor has it one when it has got its key, as long as it has not set out. -/
theorem Recounts.chosen (recounts : j.Recounts router story?) (waiting : j.AwaitsKey)
    (adds : s.AddsOutside s') (selection : Selection) :
    GoesOnRecounting router s s' story?
      { j with phase := .selected selection, selection := some selection } := by
  obtain ⟨rfl, -, finished⟩ := recounts.keyless waiting
  exact ⟨none, ⟨rfl, by simp [legs, underway, finished], fun key => by simp⟩, .aside adds⟩

/-- A call that goes on with its story. What is asked for is the story after the step, in all its
parts; that the step has written no more than that is the last of it. -/
theorem Narrates.continues {selection : Selection} {made : List Leg} {leg? : Option Leg}
    {before mine added : List Entry} {closing : List Event} (made' : List Leg)
    (leg?' : Option Leg) (before' mine' : List Entry) (closing' : List Event)
    (narrates : j.Narrates router a selection made leg? before mine closing)
    (adds : s.Adds s' added) (own : ∀ x ∈ added, x.IsOf a.span.invocation)
    (selected : j'.selection = j.selection) (call : j'.call = j.call)
    (legs : j'.legs = made' ++ leg?'.toList)
    (entries : a.entries ++ added = before' ++ mine' ++ inside a.span closing')
    (followed : router.Followed j.call selection a.span made' before')
    (latest : router.Latest a.span j'.phase leg?' mine' closing')
    (course : ∀ c, j'.phase.course? = some c →
      c.span = a.span ∧ c.context.invocation = a.span.invocation) :
    GoesOnRecounting router s s' (some a) j' :=
  ⟨some { a with entries := a.entries ++ added },
    ⟨selection, made', leg?', before', mine', closing', selected.trans narrates.selected, legs,
      narrates.name, entries, call ▸ followed, latest, course⟩, .adds adds own⟩

/-- The same, when the router has said nothing yet about the attempt that the call has come to. -/
theorem Narrates.proceeds {selection : Selection} {made : List Leg} {leg? : Option Leg}
    {before mine added : List Entry} {closing : List Event} (made' : List Leg)
    (leg?' : Option Leg) (before' mine' : List Entry)
    (narrates : j.Narrates router a selection made leg? before mine closing)
    (adds : s.Adds s' added) (own : ∀ x ∈ added, x.IsOf a.span.invocation)
    (selected : j'.selection = j.selection) (call : j'.call = j.call)
    (legs : j'.legs = made' ++ leg?'.toList) (entries : a.entries ++ added = before' ++ mine')
    (followed : router.Followed j.call selection a.span made' before')
    (latest : router.Latest a.span j'.phase leg?' mine' []) (course : j'.phase.course? = some c)
    (span : c.span = a.span) (number : c.context.invocation = a.span.invocation) :
    GoesOnRecounting router s s' (some a) j' := by
  refine narrates.continues made' leg?' before' mine' [] adds own selected call legs ?_ followed
    latest ?_
  · rw [entries]
    exact (List.append_nil _).symm
  · intro c' same
    obtain rfl := Option.some.inj (course.symm.trans same)
    exact ⟨span, number⟩

/-- What a call on the point of starting an attempt has written is about those behind it, and
nothing is open inside its span. -/
theorem Narrates.of_launching {selection : Selection} {made : List Leg} {leg? : Option Leg}
    {before mine : List Entry} {closing : List Event}
    (narrates : j.Narrates router a selection made leg? before mine closing)
    (phase : j.phase = .launching c) :
    a.entries = before ∧ router.Followed j.call selection a.span j.finished before := by
  have latest := narrates.latest
  have entries := narrates.entries
  have legs := narrates.legs
  rw [phase] at latest
  cases latest
  rw [Journey.legs, underway, phase] at legs
  simp only [List.append_nil, Option.toList_none] at legs
  simp only [List.append_nil, Trace.inside_nil] at entries
  exact ⟨entries, legs ▸ narrates.followed⟩

/-- What a call in an attempt has written is about those that are behind it, and then the trail of
that one. -/
theorem Narrates.of_attempting {attempt : Attempt} {selection : Selection} {made : List Leg}
    {leg? : Option Leg} {before mine : List Entry} {closing : List Event}
    (narrates : j.Narrates router a selection made leg? before mine closing)
    (phase : j.phase = .attempting c attempt) :
    a.entries = before ++ mine ∧ router.Followed j.call selection a.span j.finished before ∧
      attempt.invocation.context.invocation = a.span.invocation ∧
      attempt.flight.Trail attempt.invocation.context (some a.span) router.pipeline mine := by
  have latest := narrates.latest
  have entries := narrates.entries
  have legs := narrates.legs
  rw [phase] at latest
  cases latest with
  | attempting c number trail =>
    rw [Journey.legs, underway, phase] at legs
    have made : j.finished = made := List.append_cancel_right legs
    simp only [List.append_nil, Trace.inside_nil] at entries
    exact ⟨entries, made ▸ narrates.followed, number, trail⟩

/-- What a call whose attempt has ended has written is about those before, and then about that
one. -/
theorem Narrates.of_concluding {e : Ending} {selection : Selection} {made : List Leg}
    {leg? : Option Leg} {before mine : List Entry} {closing : List Event}
    (narrates : j.Narrates router a selection made leg? before mine closing)
    (phase : j.phase = .concluding c e) :
    a.entries = before ++ mine ∧ j.finished = made ++ leg?.toList ∧
      router.Arrived a.span e leg? mine := by
  have latest := narrates.latest
  have entries := narrates.entries
  have legs := narrates.legs
  rw [phase] at latest
  cases latest with
  | concluding c arrived =>
    rw [Journey.legs, underway, phase] at legs
    simp only [List.append_nil] at legs
    simp only [List.append_nil, Trace.inside_nil] at entries
    exact ⟨entries, legs, arrived⟩

/-- The attempt that a call has come to waits, with all that it has written so far. -/
theorem Narrates.waits {attempt : Attempt} {selection : Selection} {made : List Leg}
    {leg? : Option Leg} {before mine before' mine' added : List Entry} {closing : List Event}
    (narrates : j.Narrates router a selection made leg? before mine closing)
    (entries : a.entries = before' ++ mine')
    (followed : router.Followed j.call selection a.span j.finished before')
    (adds : s.Adds s' added)
    (trail : attempt.flight.Trail attempt.invocation.context (some a.span) router.pipeline
      (mine' ++ added))
    (same : attempt.invocation.context.invocation = a.span.invocation)
    (span : c.span = a.span) (number : c.context.invocation = a.span.invocation) :
    GoesOnRecounting router s s' (some a) { j with phase := .attempting c attempt } := by
  have own : ∀ x ∈ added, x.IsOf a.span.invocation := fun x member =>
    (trail.unfinished.contained same).isOf x (List.mem_append_right _ member)
  refine narrates.proceeds j.finished (some (attempt.leg none)) before' (mine' ++ added) adds own
    rfl rfl rfl ?_ followed (.attempting c same trail) rfl span number
  rw [entries, List.append_assoc]

/-- It has ended, with all that it has written. -/
theorem Narrates.lands {leg : Leg} {e : Ending} {selection : Selection} {made : List Leg}
    {leg? : Option Leg} {before mine before' mine' added : List Entry} {closing : List Event}
    (narrates : j.Narrates router a selection made leg? before mine closing)
    (entries : a.entries = before' ++ mine')
    (followed : router.Followed j.call selection a.span j.finished before')
    (adds : s.Adds s' added) (wrote : router.Wrote a.span leg (mine' ++ added))
    (ending : leg.ending = some e) (same : leg.context.invocation = a.span.invocation)
    (span : c.span = a.span) (number : c.context.invocation = a.span.invocation) :
    GoesOnRecounting router s s' (some a)
      { j with phase := .concluding c e, finished := j.finished ++ [leg] } := by
  have own : ∀ x ∈ added, x.IsOf a.span.invocation := fun x member =>
    (wrote.contained same).isOf x (List.mem_append_right _ member)
  refine narrates.proceeds j.finished (some leg) before' (mine' ++ added) adds own rfl rfl
    (List.append_nil _) ?_ followed (.concluding c (.attempted ending same wrote)) rfl span number
  rw [entries, List.append_assoc]

/-! ### What each step writes

There is one lemma for each step, named for it. -/

section Cases

variable {next : Course} {e : Ending} {attempt rest : Attempt} {selection : Selection}

/-- A call that sets out opens its span and begins its story there. The span has the next number,
which no other call will have. -/
theorem Recounts.embarked (recounts : j.Recounts router story?)
    (phase : j.phase = .selected selection) (s : State) :
    GoesOnRecounting router s (router.embark j.call selection s).1 story?
      { j with phase := .launching (router.embark j.call selection s).2 } := by
  obtain rfl := recounts.eq_none (by rw [phase]; rintro _ _ _ _ ⟨⟩)
  obtain ⟨traces, count⟩ := router.traces_embark j.call selection s
  have none' : j.finished = [] := (List.append_eq_nil_iff.mp recounts.2.1).1
  refine ⟨some ⟨(router.embark j.call selection s).2.span, _⟩, ⟨selection, [], none, _, [], [],
    (recounts.2.2 selection).mpr phase, ?_, rfl, ?_,
    .embarked (router.embark j.call selection s).2.reporter, .launching _, ?_⟩,
    .opens traces rfl count ?_⟩
  · rw [legs, none']
    rfl
  · rw [List.append_nil]
    exact (List.append_nil _).symm
  · rintro c ⟨⟩
    exact ⟨rfl, rfl⟩
  · exact ((Trace.contained_opened _ _).append (Trace.contained_inside _ _)).isOf

/-- An attempt that does not start, since the call has been stopped, writes nothing. -/
theorem Recounts.withheld (recounts : j.Recounts router story?) (phase : j.phase = .launching c)
    (stopped : j.call.isStopped s = true)
    (launched : router.launch j.call c s = (s', .inl e)) :
    GoesOnRecounting router s s' story? { j with phase := .concluding c e } := by
  obtain ⟨a, selection, made, leg?, before, mine, closing, rfl, narrates, span, number⟩ :=
    recounts.eq_some (c := c) (by rw [phase]; rfl)
  obtain ⟨entries, followed⟩ := narrates.of_launching phase
  rw [Router.launch_of_stopped c stopped, Prod.mk.injEq, Sum.inl.injEq] at launched
  obtain ⟨rfl, rfl⟩ := launched
  exact narrates.proceeds j.finished none before [] (State.adds_of_same rfl rfl rfl)
    (fun _ impossible => absurd impossible List.not_mem_nil) rfl rfl rfl
    (congrArg (· ++ []) entries) followed (.concluding c (.withheld rfl)) rfl span number

/-- An attempt that ends without waiting writes its whole trail at once, from the outermost
decorator in and out again. -/
theorem Recounts.sped (recounts : j.Recounts router story?)
    (builtIn : ∀ d ∈ router.pipeline, d.isBuiltIn = true) (phase : j.phase = .launching c)
    (free : j.call.isStopped s = false) (launched : router.launch j.call c s = (s', .inl e)) :
    GoesOnRecounting router s s' story?
      { j with
        phase := .concluding c e
        finished := j.finished ++
          [⟨c.attemptContext, router.scopeFor c.progress.current s, some e⟩] } := by
  obtain ⟨a, selection, made, leg?, before, mine, closing, rfl, narrates, span, number⟩ :=
    recounts.eq_some (c := c) (by rw [phase]; rfl)
  obtain ⟨entries, followed⟩ := narrates.of_launching phase
  obtain ⟨added, adds, ended, -⟩ := router.wrote_of_launch builtIn free launched
  have wrote := ended e rfl (router.scopeFor c.progress.current s)
  rw [span] at wrote
  exact narrates.lands (entries.trans (List.append_nil _).symm) followed adds wrote rfl number
    span number

/-- One that waits writes the beginning of its trail, -/
theorem Recounts.launched (recounts : j.Recounts router story?)
    (builtIn : ∀ d ∈ router.pipeline, d.isBuiltIn = true) (phase : j.phase = .launching c)
    (launched : router.launch j.call c s = (s', .inr attempt)) :
    GoesOnRecounting router s s' story? { j with phase := .attempting c attempt } := by
  obtain ⟨a, selection, made, leg?, before, mine, closing, rfl, narrates, span, number⟩ :=
    recounts.eq_some (c := c) (by rw [phase]; rfl)
  obtain ⟨entries, followed⟩ := narrates.of_launching phase
  obtain ⟨free, -⟩ := Router.waits_of_launch launched
  obtain ⟨added, adds, -, waits⟩ := router.wrote_of_launch builtIn free launched
  obtain ⟨context, trail⟩ := waits attempt rfl
  rw [span, ← context] at trail
  exact narrates.waits (entries.trans (List.append_nil _).symm) followed adds trail
    (context ▸ number) span number

/-- goes on with it each time it is resumed, -/
theorem Recounts.waited (recounts : j.Recounts router story?)
    (phase : j.phase = .attempting c attempt)
    (resumed : Router.resumeAttempt c attempt s = (s', .inr rest)) :
    GoesOnRecounting router s s' story? { j with phase := .attempting c rest } := by
  obtain ⟨a, selection, made, leg?, before, mine, closing, rfl, narrates, span, number⟩ :=
    recounts.eq_some (c := c) (by rw [phase]; rfl)
  obtain ⟨entries, followed, same, trail⟩ := narrates.of_attempting phase
  obtain ⟨added, adds, -, waits⟩ := Router.wrote_of_resume trail span resumed
  obtain ⟨unchanged, longer⟩ := waits rest rfl
  rw [← unchanged] at longer same
  exact narrates.waits entries followed adds longer same span number

/-- and writes the rest of it when it ends. -/
theorem Recounts.left (recounts : j.Recounts router story?)
    (phase : j.phase = .attempting c attempt)
    (resumed : Router.resumeAttempt c attempt s = (s', .inl e)) :
    GoesOnRecounting router s s' story?
      { j with phase := .concluding c e, finished := j.finished ++ [attempt.leg (some e)] } := by
  obtain ⟨a, selection, made, leg?, before, mine, closing, rfl, narrates, span, number⟩ :=
    recounts.eq_some (c := c) (by rw [phase]; rfl)
  obtain ⟨entries, followed, same, trail⟩ := narrates.of_attempting phase
  obtain ⟨added, adds, ended, -⟩ := Router.wrote_of_resume trail span resumed
  exact narrates.lands entries followed adds (ended e rfl) rfl same span number

/-- The story of a call that ends closes with what the router says of its last attempt. The span of
the call is left without an entry of its own. -/
theorem Recounts.concluded {o : Outcome} (recounts : j.Recounts router story?)
    (phase : j.phase = .concluding c e) (answer : router.conclude j.call c e s = (s', .inl o)) :
    GoesOnRecounting router s s' story? { j with phase := .ended o } := by
  obtain ⟨a, selection, made, leg?, before, mine, closing, rfl, narrates, span, -⟩ :=
    recounts.eq_some (c := c) (by rw [phase]; rfl)
  obtain ⟨entries, finished, arrived⟩ := narrates.of_concluding phase
  obtain ⟨events, remarks, adds⟩ := router.remarks_of_conclude answer
  rw [span] at adds
  refine narrates.continues made leg? before mine events adds (Trace.contained_inside _ _).isOf
    rfl rfl ?_ (by rw [entries]) narrates.followed (.ended arrived remarks) (by rintro c ⟨⟩)
  rw [legs, finished]
  exact List.append_nil _

/-- If the call falls back, its story goes on with that, and the attempt it had come to is one of
those behind it. -/
theorem Recounts.fellBack (recounts : j.Recounts router story?)
    (phase : j.phase = .concluding c e)
    (answer : router.conclude j.call c e s = (s', .inr next)) :
    GoesOnRecounting router s s' story? { j with phase := .launching next } := by
  obtain ⟨a, selection, made, leg?, before, mine, closing, rfl, narrates, span, number⟩ :=
    recounts.eq_some (c := c) (by rw [phase]; rfl)
  obtain ⟨entries, finished, arrived⟩ := narrates.of_concluding phase
  obtain ⟨events, remarks, adds⟩ := router.remarks_of_conclude answer
  rw [span] at adds
  have onwards : next.span = c.span ∧ next.context.invocation = c.context.invocation := by
    cases remarks with
    | fellBack verdict progress => exact ⟨rfl, rfl⟩
  have followed := narrates.followed.next arrived remarks
  rw [← finished] at followed
  refine narrates.proceeds j.finished none (before ++ mine ++ inside a.span events) [] adds
    (Trace.contained_inside _ _).isOf rfl rfl rfl ?_ followed (.launching next) rfl
    (onwards.1.trans span) (onwards.2.trans number)
  rw [entries, List.append_nil]

/-- The story of a call that is taken down with its attempt breaks off there, and only the disposal
of its scope may follow. -/
theorem Recounts.droppedInFlight (recounts : j.Recounts router story?)
    (phase : j.phase = .attempting c attempt) (s : State) :
    GoesOnRecounting router s (router.abandon (.attempting c attempt) s) story?
      { j with phase := .takenDown, finished := j.finished ++ [attempt.leg none] } := by
  obtain ⟨a, selection, made, leg?, before, mine, closing, rfl, narrates, span, -⟩ :=
    recounts.eq_some (c := c) (by rw [phase]; rfl)
  obtain ⟨entries, followed, number, trail⟩ := narrates.of_attempting phase
  have takenDown : s.Adds ((attempt.invocation.abandon attempt.flight s).dropGuard
      (.holding attempt.scope)) [] :=
    (Invocation.adds_abandon _ _ s).after (State.adds_dropGuard _ _)
  have adds := takenDown.after (router.adds_report c .disposed _)
  rw [span] at adds
  exact narrates.continues j.finished (some (attempt.leg none)) before mine
    (router.told c.reporter .disposed) adds (Trace.contained_inside _ _).isOf rfl rfl
    (List.append_nil _) (by rw [entries]) followed
    (.takenDown c.reporter rfl number (.unfinished trail.unfinished (.inr (.inr rfl))))
    (by rintro c ⟨⟩)

end Cases

/-- Each step of a call goes on with its story, and writes nothing else. There is one case for each
kind of step, and a lemma for each case. -/
theorem Step.recounts (builtIn : ∀ d ∈ router.pipeline, d.isBuiltIn = true)
    (step : Step router s j s' j') (recounts : j.Recounts router story?) :
    ∃ story?', j'.Recounts router story?' ∧ Trace.Continues s s' story? story?' := by
  cases step with
  | refused phase answer =>
    exact recounts.stillKeyless (.inl phase) (router.addsOutside_receive answer) (.ended _) rfl rfl
      (by rintro _ ⟨⟩)
  | chosen phase answer => exact recounts.chosen (.inl phase) (router.addsOutside_receive answer) _
  | asked phase answer =>
    exact recounts.stillKeyless (.inl phase) (router.addsOutside_receive answer) (.selecting _ _)
      rfl rfl (by rintro _ ⟨⟩)
  | answered phase isDue =>
    exact recounts.chosen (.inr ⟨_, _, phase⟩) (State.addsOutside_emit _ _) _
  | dropped phase =>
    exact recounts.stillKeyless (.inr ⟨_, _, phase⟩) (State.Adds.refl s).outside .takenDown rfl rfl
      (by rintro _ ⟨⟩)
  | embarked phase => exact recounts.embarked phase _
  | withheld phase stopped launched => exact recounts.withheld phase stopped launched
  | sped phase free launched => exact recounts.sped builtIn phase free launched
  | launched phase launched => exact recounts.launched builtIn phase launched
  | waited phase resumed => exact recounts.waited phase resumed
  | left phase resumed => exact recounts.left phase resumed
  | concluded phase answer => exact recounts.concluded phase answer
  | fellBack phase answer => exact recounts.fellBack phase answer
  | droppedInFlight phase => exact recounts.droppedInFlight phase _

end Journey

end TrialRouting
