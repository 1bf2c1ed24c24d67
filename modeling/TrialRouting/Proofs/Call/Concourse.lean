import Mathlib.Data.List.ReduceOption
import TrialRouting.Proofs.Call.Scopes
import TrialRouting.Proofs.Call.Spans

/-!
# A trace that many calls write to

On one thread calls of any number of routers overlap: any of them may take its next step at any
moment, and in between the rest of the program may do what it likes, as long as it writes outside
the spans. All of them write to one trace.

What each call writes is a story of its own, and the trace is sorted into these stories, however
the calls overlap: every step adds to the story of one call. So every span in the trace belongs to
one attempt of one call or is the span around a call, and what the trace has about it comes from
there.
-/

namespace TrialRouting

open Trace (Entry Event Span Story openings)

/-- The shared state and calls on their way, each of a router. Several routers may write to the same
trace, and their pipelines need not be alike. -/
structure Concourse where
  state : State
  calls : List (Router × Journey) := []

namespace Concourse

/-- One thing that happens in a concourse. It is as in a world, but for what may happen outside:
anything that writes nothing inside a span. -/
inductive Moves : Concourse → Concourse → Prop where
  | joined (m : Concourse) (router : Router) (call : Call) :
      Moves m { m with calls := m.calls ++ [(router, { call })] }
  | stepped {m : Concourse} {n : Nat} {router : Router} {j j' : Journey} {s' : State}
      (here : m.calls[n]? = some (router, j)) (step : j.Step router m.state s' j') :
      Moves m ⟨s', m.calls.set n (router, j')⟩
  | outside {m : Concourse} {s' : State} (change : m.state.AddsOutside s') :
      Moves m { m with state := s' }

/-- A history of a concourse. -/
abbrev Becomes : Concourse → Concourse → Prop :=
  Relation.ReflTransGen Moves

/-- All decorators around the attempts of the calls come with the router. What another decorator
writes, and in what span, is not known. -/
def BuiltIn (m : Concourse) : Prop :=
  ∀ one ∈ m.calls, ∀ d ∈ one.1.pipeline, d.isBuiltIn = true

/-- The stories of the calls, in agreement with all that has been written since the start. -/
structure Told (s : State) (m : Concourse) (added : List Entry)
    (stories : List (Option Story)) : Prop where
  traces : s.Traces m.state added
  recounts : List.Forall₂ (fun story? one => one.2.Recounts one.1 story?) stories m.calls
  sorted : Trace.Sorted s.invocations m.state.invocations added stories.reduceOption

variable {s s' : State} {m m' : Concourse} {added : List Entry} {stories : List (Option Story)}
  {router : Router} {j : Journey} {n : Nat}

/-- A history of the calls of one router is one of a concourse. So what is proved here is true of
every world. -/
theorem becomes_of_world {w w' : World} (becomes : World.Becomes router w w') :
    Becomes ⟨w.state, w.journeys.map (router, ·)⟩ ⟨w'.state, w'.journeys.map (router, ·)⟩ := by
  induction becomes with
  | refl => exact .refl
  | @tail w₁ w₂ _ moves ih =>
    refine ih.tail ?_
    cases moves with
    | @joined call caller =>
      rw [List.map_append]
      exact .joined ⟨w₁.state, w₁.journeys.map (router, ·)⟩ router call
    | @stepped n j j' s' here step =>
      rw [List.map_set]
      exact .stepped (by rw [List.getElem?_map, here]; rfl) step
    | outside change => exact .outside change.addsOutside

/-- The decorators around earlier calls are still there. So the assumption need only be made of the
last moment. -/
theorem Moves.builtIn (moves : Moves m m') (builtIn : m'.BuiltIn) : m.BuiltIn := by
  intro one member
  cases moves with
  | joined router call => exact builtIn one (List.mem_append_left _ member)
  | @stepped n router j j' s' here step =>
    obtain ⟨i, there⟩ := List.mem_iff_getElem?.mp member
    by_cases same : n = i
    · subst same
      obtain rfl := Option.some.inj (here.symm.trans there)
      exact builtIn (router, j') (List.mem_of_getElem?
        (List.getElem?_set_self (List.getElem?_eq_some_iff.mp here).1))
    · exact builtIn one (List.mem_of_getElem? ((List.getElem?_set_ne same).trans there))
  | outside change => exact builtIn one member

/-- The story of a call, with those of the calls before and after it. A step of the call leaves
these others as they are. -/
theorem Told.split {one : Router × Journey} {before after : List (Router × Journey)}
    (told : Told s m added stories) (calls : m.calls = before ++ one :: after) :
    ∃ others story? rest, stories = others ++ story? :: rest ∧
      List.Forall₂ (fun story? one => one.2.Recounts one.1 story?) others before ∧
      one.2.Recounts one.1 story? ∧
      List.Forall₂ (fun story? one => one.2.Recounts one.1 story?) rest after := by
  have recounts := told.recounts
  rw [calls] at recounts
  have first := List.forall₂_take_append stories before (one :: after) recounts
  have last := List.forall₂_drop_append stories before (one :: after) recounts
  obtain ⟨story?, rest, this, others, dropped⟩ := List.forall₂_cons_right_iff.mp last
  exact ⟨_, story?, rest, by rw [← dropped, List.take_append_drop], first, this, others⟩

/-- What is written outside all spans leaves the stories as they are. It belongs to nobody. -/
theorem Told.aside (told : Told s m added stories) (change : m.state.AddsOutside s') :
    ∃ more, Told s { m with state := s' } (added ++ more) stories := by
  obtain ⟨more, adds, outside⟩ := change
  refine ⟨more, told.traces.trans adds.toTraces, told.recounts, ?_⟩
  rw [adds.invocations]
  exact told.sorted.aside outside

/-- What a step writes goes into the story of its call. If the call has only now got its span, its
story begins there, with the next number. -/
theorem sorted_of_continues {before after : List (Option Story)} {story? story?' : Option Story}
    {first : Nat} (sorted : Trace.Sorted first s.invocations added
      (before ++ story? :: after).reduceOption) (continues : Trace.Continues s s' story? story?') :
    ∃ more, s.Traces s' more ∧ Trace.Sorted first s'.invocations (added ++ more)
      (before ++ story?' :: after).reduceOption := by
  cases continues with
  | aside change =>
    obtain ⟨more, adds, outside⟩ := change
    refine ⟨more, adds.toTraces, ?_⟩
    rw [adds.invocations]
    exact sorted.aside outside
  | @opens a traces number count own =>
    refine ⟨a.entries, traces, ?_⟩
    simp only [List.reduceOption_append, List.reduceOption_cons_of_some,
      List.reduceOption_cons_of_none] at sorted ⊢
    rw [count]
    exact sorted.opens a number (number ▸ own)
  | @adds a more adds own =>
    refine ⟨more, adds.toTraces, ?_⟩
    simp only [List.reduceOption_append, List.reduceOption_cons_of_some] at sorted ⊢
    rw [adds.invocations]
    exact sorted.adds own

/-- Whatever happens in a concourse, each call goes on with its own story. A call that has just
joined has no story until it sets out. -/
theorem Moves.told (moves : Moves m m') (builtIn : m'.BuiltIn) (told : Told s m added stories) :
    ∃ added' stories', Told s m' added' stories' := by
  have known : m.BuiltIn := moves.builtIn builtIn
  cases moves with
  | joined router call =>
    refine ⟨added, stories ++ [none], told.traces, ?_, ?_⟩
    · refine List.rel_append told.recounts (.cons ⟨rfl, rfl, ?_⟩ .nil)
      intro selection
      simp
    · simpa only [List.reduceOption_append, List.reduceOption_cons_of_none,
        List.reduceOption_nil, List.append_nil] using told.sorted
  | @stepped n router j j' s' here step =>
    obtain ⟨before, after, split, replaced⟩ := World.exists_middle here
    obtain ⟨others, story?, rest, rfl, first, recounts, last⟩ := told.split split
    obtain ⟨story?', now, continues⟩ :=
      step.recounts (known _ (List.mem_of_getElem? here)) recounts
    obtain ⟨more, traces, sorted⟩ := sorted_of_continues told.sorted continues
    refine ⟨added ++ more, _, told.traces.trans traces, ?_, sorted⟩
    rw [replaced]
    exact List.rel_append first (.cons now last)
  | outside change =>
    obtain ⟨more, still⟩ := told.aside change
    exact ⟨_, _, still⟩

/-- Every concourse that calls have joined has stories, by induction on its history. -/
theorem Becomes.told (builtIn : m.BuiltIn) (becomes : Becomes ⟨s, []⟩ m) :
    ∃ added stories, Told s m added stories := by
  induction becomes with
  | refl => exact ⟨[], [], .refl s, .nil, .nil _⟩
  | @tail m₁ m₂ before moves ih =>
    obtain ⟨added, stories, told⟩ := ih (moves.builtIn builtIn)
    exact moves.told builtIn told

/-- What the trace of a concourse that began with a given state is, by its calls. -/
structure Attributes (s : State) (m : Concourse) (added : List Entry)
    (stories : List (Option Story)) : Prop where
  /-- This is all that has been written, and no span is opened twice. -/
  traces : s.Traces m.state added
  distinct : (openings added).Nodup
  /-- What each call has written follows the order of its attempts, and of the decorators around
  them. -/
  recounts : List.Forall₂ (fun story? one => one.2.Recounts one.1 story?) stories m.calls
  /-- No two calls share a number, and all that is inside a span is in the story of a call. -/
  numbers : (stories.reduceOption.map (·.span.invocation)).Nodup
  whole : ∀ x ∈ added, x.span? = none ∨ ∃ a ∈ stories.reduceOption, x ∈ a.entries
  /-- Each story is attributed to its call, and its spans to the attempts of the call. -/
  attributed : List.Forall₂ (fun story? one => ∀ a ∈ story?, one.2.Attributed one.1 added a)
    stories m.calls
  /-- Whatever a call writes next, while it is on a course, is about a span of its own. -/
  next : ∀ (n : Nat) (router : Router) (j : Journey) (c : Course),
    m.calls[n]? = some (router, j) → j.phase.course? = some c →
    ∀ s' j', j.Step router m.state s' j' →
      ∃ more, m.state.Adds s' more ∧ ∀ x ∈ more, x.IsOf c.span.invocation

/-- However calls overlap whose attempts pass any stack of built-in decorators, all that is written
inside a span belongs to one call. Each event of an attempt is in the span of its call or in that of
the innermost logging around it in that very attempt; what the router says is in the span of the
call. About each span of logging the trace has the opening, and if its inside has come to an outcome
also, once, the duration, that outcome, and one event that says so.

Proof: the trace is sorted into the stories of the calls by induction on the history, as each step
continues the story of one call. A story follows the attempts of its call, and what an attempt
writes is its trail, whose spans are nested as the decorators are. Since no span is opened twice,
what the whole trace has about a span is what the one trail has about it. -/
theorem attributes_every_entry (builtIn : m.BuiltIn) (becomes : Becomes ⟨s, []⟩ m) :
    ∃ added stories, Attributes s m added stories := by
  obtain ⟨added, stories, told⟩ := becomes.told builtIn
  have sorted := told.sorted
  have distinct : (openings added).Nodup := told.traces.nodup
  refine ⟨added, stories, told.traces, distinct, told.recounts, sorted.distinct, sorted.whole,
    ?_, ?_⟩
  · have owned : ∀ story? ∈ stories, ∀ a ∈ story?,
        Trace.ofCall a.span.invocation added = a.entries := by
      rintro _ member a rfl
      exact sorted.own a (List.reduceOption_mem_iff.mpr member)
    refine ((List.forall₂_and_left _ _).mpr ⟨owned, told.recounts⟩).imp ?_
    rintro _ one ⟨own, recounts⟩ a rfl
    exact recounts.attributed distinct (own a rfl)
  · intro n router j c here onCourse s' j' step
    obtain ⟨before, after, split, -⟩ := World.exists_middle here
    obtain ⟨others, story?, rest, rfl, -, recounts, -⟩ := told.split split
    have known := builtIn _ (List.mem_of_getElem? here)
    obtain ⟨a, selection, made, leg?, earlier, mine, closing, rfl, -, span, -⟩ :=
      recounts.eq_some onCourse
    obtain ⟨story?', -, continues⟩ := step.recounts known recounts
    cases continues with
    | @adds _ more adds own =>
      rw [span]
      exact ⟨more, adds, own⟩

/-- Two calls of the trial with a spare as a concourse, each a number of steps on its way. -/
def spare (turns : List Nat) : Concourse :=
  ⟨(spareWorld turns).state, (spareWorld turns).journeys.map (spareRouter, ·)⟩

/-- While the first call waits inside the logging around its second attempt, the second call has
come back from there: in between the entries of both, the trace has about the one span its opening,
and about the other also the duration, the outcome and the completion. -/
theorem spare_calls_attributed :
    Trace.about ⟨2, "attempt", 0⟩ (spare [1, 1, 0, 1, 0, 1, 0, 1, 0, 0]).state.trace =
        [.opened ⟨2, "attempt", 0⟩ [Trace.text "router" "spare", Trace.text "service" "greeter",
          Trace.text "method" "call", Trace.text "key" "spare", Trace.number "attempt" 1]] ∧
      Trace.about ⟨3, "attempt", 1⟩ (spare [1, 1, 0, 1, 0, 1, 0, 1, 0, 0]).state.trace =
        [.opened ⟨3, "attempt", 1⟩ [Trace.text "router" "spare", Trace.text "service" "greeter",
            Trace.text "method" "call", Trace.text "key" "spare", Trace.number "attempt" 1],
          .recorded ⟨3, "attempt", 1⟩ [Trace.number "duration_ms" 0],
          .recorded ⟨3, "attempt", 1⟩ [Trace.text "outcome" "ok"],
          .event ⟨.info, "attempt complete", [Trace.text "service" "greeter",
            Trace.text "method" "call", Trace.text "key" "spare",
            Trace.number "duration_ms" 0]⟩ (some ⟨3, "attempt", 1⟩)] ∧
      ∃ added stories,
        Attributes spareStart (spare [1, 1, 0, 1, 0, 1, 0, 1, 0, 0]) added stories := by
  have builtIn : (spare [1, 1, 0, 1, 0, 1, 0, 1, 0, 0]).BuiltIn := by
    intro one member
    obtain ⟨j, -, rfl⟩ := List.mem_map.mp member
    exact (by decide : ∀ d ∈ spareRouter.pipeline, d.isBuiltIn = true)
  refine ⟨by decide +kernel, by decide +kernel, ?_⟩
  exact attributes_every_entry builtIn (becomes_of_world (becomes_spareWorld _))

end Concourse

end TrialRouting
