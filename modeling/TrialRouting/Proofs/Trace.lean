import Mathlib.Data.List.Nodup
import Mathlib.Data.List.Range
import TrialRouting.State

/-!
# Growing traces

A trace only grows. What is added to it is read off here in three ways: by the spans it opens,
which are numbered one after another and so are never opened twice; by the span that each entry is
about; and by the call that this span belongs to.

Calls that overlap write into one trace. A story is what a single call has written, and a trace
is sorted into stories when each of them is exactly what the trace has about its call, and
everything else in the trace is outside all spans.
-/

namespace TrialRouting

namespace Trace

/-- The span that an entry is about; none for an event outside all spans. -/
def Entry.span? : Entry → Option Span
  | .opened span _ => some span
  | .recorded span _ => some span
  | .event _ current => current

/-- The span that an entry opens. -/
def Entry.opened? : Entry → Option Span
  | .opened span _ => some span
  | _ => none

/-- An entry is about a span of a call. -/
def Entry.IsOf (number : Nat) (x : Entry) : Prop :=
  ∃ span, x.span? = some span ∧ span.invocation = number

/-- The spans that are opened, in order. -/
def openings (entries : List Entry) : List Span :=
  entries.filterMap Entry.opened?

/-- What is about a span. -/
def about (own : Span) (entries : List Entry) : List Entry :=
  entries.filter (·.span? == some own)

/-- What is about the spans of a call. -/
def ofCall (number : Nat) (entries : List Entry) : List Entry :=
  entries.filter (·.span?.any (·.invocation == number))

/-- Events inside a span. -/
def inside (span : Span) (events : List Event) : List Entry :=
  events.map (.event · (some span))

@[simp] theorem openings_nil : openings [] = [] := rfl

@[simp] theorem inside_nil (span : Span) : inside span [] = [] := rfl

@[simp] theorem openings_append (first second : List Entry) :
    openings (first ++ second) = openings first ++ openings second :=
  List.filterMap_append ..

@[simp] theorem openings_inside (span : Span) (events : List Event) :
    openings (inside span events) = [] := by
  simp [openings, inside, List.filterMap_map, Function.comp_def, Entry.opened?]

@[simp] theorem about_append (own : Span) (first second : List Entry) :
    about own (first ++ second) = about own first ++ about own second :=
  List.filter_append ..

@[simp] theorem inside_append (span : Span) (first second : List Event) :
    inside span (first ++ second) = inside span first ++ inside span second :=
  List.map_append ..

/-- A span that is opened is so by some entry, which also carries the fields that the span starts
with. -/
theorem mem_openings {own : Span} {entries : List Entry} :
    own ∈ openings entries ↔ ∃ fields, .opened own fields ∈ entries := by
  simp only [openings, List.mem_filterMap]
  constructor
  · rintro ⟨x, member, opens⟩
    cases x with
    | opened span fields => exact ⟨fields, Option.some.inj opens ▸ member⟩
    | recorded span fields => cases opens
    | event e current => cases opens
  · rintro ⟨fields, member⟩
    exact ⟨_, member, rfl⟩

theorem mem_inside {span : Span} {events : List Event} {x : Entry} :
    x ∈ inside span events ↔ ∃ e ∈ events, x = .event e (some span) := by
  simp [inside, eq_comm]

/-- Nothing is about a span that no entry is about. -/
theorem about_eq_nil {own : Span} {entries : List Entry}
    (others : ∀ x ∈ entries, x.span? ≠ some own) : about own entries = [] :=
  List.filter_eq_nil_iff.mpr fun x member => by simpa using others x member

theorem about_singleton {own : Span} {x : Entry} (here : x.span? = some own) :
    about own [x] = [x] :=
  List.filter_cons_of_pos (by simp [here])

theorem about_singleton_of_ne {own : Span} {x : Entry} (other : x.span? ≠ some own) :
    about own [x] = [] :=
  List.filter_cons_of_neg (by simpa using other)

theorem mem_ofCall {number : Nat} {entries : List Entry} {x : Entry} :
    x ∈ ofCall number entries ↔ x ∈ entries ∧ x.IsOf number := by
  simp [ofCall, Entry.IsOf, Option.any_eq_true]

/-- All that a call writes is about it. -/
theorem ofCall_self {number : Nat} {entries : List Entry} (own : ∀ x ∈ entries, x.IsOf number) :
    ofCall number entries = entries := by
  refine List.filter_eq_self.mpr ?_
  intro x member
  obtain ⟨span, here, rfl⟩ := own x member
  simp [here]

/-- Nothing that a call writes is about another one: an entry is about one span, and a span belongs
to one call. -/
theorem ofCall_of_ne {number other : Nat} {entries : List Entry} (ne : number ≠ other)
    (own : ∀ x ∈ entries, x.IsOf number) : ofCall other entries = [] := by
  refine List.filter_eq_nil_iff.mpr ?_
  intro x member
  obtain ⟨span, here, rfl⟩ := own x member
  simpa [here] using ne

/-- Nor is what is outside all spans. -/
theorem ofCall_of_outside {number : Nat} {entries : List Entry}
    (outside : ∀ x ∈ entries, x.span? = none) : ofCall number entries = [] :=
  List.filter_eq_nil_iff.mpr fun x member => by simp [outside x member]

theorem ofCall_append (number : Nat) (first second : List Entry) :
    ofCall number (first ++ second) = ofCall number first ++ ofCall number second :=
  List.filter_append ..

end Trace

open Trace (Entry Event Span openings about ofCall)

/-! ### What a change of the state writes -/

/-- What is written from one state to another. The spans that it opens have the next numbers. -/
structure State.Traces (s s' : State) (added : List Entry) : Prop where
  trace : s'.trace = s.trace ++ added
  numbers : (openings added).map (·.id) = List.range' s.spans (openings added).length
  spans : s'.spans = s.spans + (openings added).length

/-- The same, when no further call gets its number meanwhile. -/
structure State.Adds (s s' : State) (added : List Entry) : Prop extends s.Traces s' added where
  invocations : s'.invocations = s.invocations

namespace State

variable {s s' s'' : State} {first second : List Entry}

theorem Traces.refl (s : State) : s.Traces s [] :=
  ⟨(List.append_nil _).symm, rfl, rfl⟩

theorem Traces.trans (one : s.Traces s' first) (two : s'.Traces s'' second) :
    s.Traces s'' (first ++ second) := by
  refine ⟨?_, ?_, ?_⟩
  · rw [two.trace, one.trace, List.append_assoc]
  · rw [Trace.openings_append, List.map_append, one.numbers, two.numbers, one.spans,
      List.length_append, List.range'_append_1]
  · rw [two.spans, one.spans, Trace.openings_append, List.length_append, Nat.add_assoc]

/-- No span is opened twice. Spans are numbered in the order in which they are opened, so that their
numbers are a range. -/
theorem Traces.nodup (traces : s.Traces s' first) : (openings first).Nodup := by
  have numbers : ((openings first).map (·.id)).Nodup := by
    rw [traces.numbers]
    exact List.nodup_range'
  exact numbers.of_map _

theorem Adds.trans (one : s.Adds s' first) (two : s'.Adds s'' second) :
    s.Adds s'' (first ++ second) :=
  ⟨one.toTraces.trans two.toTraces, two.invocations.trans one.invocations⟩

/-- What leaves the trace and the counts of spans and calls alone writes nothing. Most changes of
the state are of this kind, as far as the trace can tell. -/
theorem adds_of_same (trace : s'.trace = s.trace) (spans : s'.spans = s.spans)
    (invocations : s'.invocations = s.invocations) : s.Adds s' [] :=
  ⟨⟨by rw [trace, List.append_nil], rfl, spans⟩, invocations⟩

theorem Adds.refl (s : State) : s.Adds s [] := adds_of_same rfl rfl rfl

/-- What is written between changes that write nothing. -/
theorem Adds.after (quiet : s.Adds s' []) (adds : s'.Adds s'' first) : s.Adds s'' first :=
  quiet.trans adds

theorem Adds.before (adds : s.Adds s' first) (quiet : s'.Adds s'' []) : s.Adds s'' first := by
  have whole := adds.trans quiet
  rwa [List.append_nil] at whole

/-- An entry is written that opens no span. -/
theorem adds_record (s : State) (x : Entry) (opens : x.opened? = none) :
    s.Adds (s.record x) [x] := by
  have nothing : openings [x] = [] := by simp [openings, opens]
  exact ⟨⟨rfl, by simp [nothing], by simp [nothing, record]⟩, rfl⟩

/-- An event is written. -/
theorem adds_emit (s : State) (current : Option Span) (e : Event) :
    s.Adds (s.emit current e) [.event e current] :=
  adds_record s _ rfl

/-- The next span is opened. -/
theorem adds_openSpan (s : State) {span : Span} (number : span.id = s.spans)
    (fields : List Trace.Field) : s.Adds (s.openSpan span fields) [.opened span fields] :=
  ⟨⟨rfl, by simp [openings, Trace.Entry.opened?, number], rfl⟩, rfl⟩

end State

/-! ### Sorting a trace by call -/

namespace Trace

/-- What one call has written, and the span around all of it. -/
structure Story where
  span : Span
  entries : List Entry

/-- A trace is sorted into the stories of the calls that have got the numbers from `first` on,
when `next` is the number of the next one. -/
structure Sorted (first next : Nat) (entries : List Entry) (stories : List Story) : Prop where
  onwards : first ≤ next
  distinct : (stories.map (·.span.invocation)).Nodup
  numbers : ∀ a ∈ stories, first ≤ a.span.invocation ∧ a.span.invocation < next
  own : ∀ a ∈ stories, ofCall a.span.invocation entries = a.entries
  whole : ∀ x ∈ entries, x.span? = none ∨ ∃ a ∈ stories, x ∈ a.entries

namespace Sorted

variable {first next : Nat} {entries added : List Entry} {stories before after : List Story}
  {a : Story}

/-- No call has got its number yet. -/
theorem nil (first : Nat) : Sorted first first [] [] where
  onwards := Nat.le_refl _
  distinct := List.nodup_nil
  numbers := fun _ impossible => absurd impossible List.not_mem_nil
  own := fun _ impossible => absurd impossible List.not_mem_nil
  whole := fun _ impossible => absurd impossible List.not_mem_nil

/-- All that is in the story of a call is about it, since a story is what the trace has about the
number of its call. -/
theorem isOf (sorted : Sorted first next entries stories) (member : a ∈ stories) :
    ∀ x ∈ a.entries, x.IsOf a.span.invocation := by
  intro x here
  rw [← sorted.own a member] at here
  exact (mem_ofCall.mp here).2

/-- Nothing has been written about a call that has not got its number. Every entry is outside all
spans or in a story, and all stories have smaller numbers. -/
theorem ofCall_next (sorted : Sorted first next entries stories) : ofCall next entries = [] := by
  refine List.eq_nil_iff_forall_not_mem.mpr ?_
  intro x member
  obtain ⟨written, span, here, number⟩ := mem_ofCall.mp member
  rcases sorted.whole x written with outside | ⟨a, known, told⟩
  · cases here.symm.trans outside
  · obtain ⟨span', here', number'⟩ := sorted.isOf known x told
    obtain rfl : span = span' := Option.some.inj (here.symm.trans here')
    have early := (sorted.numbers a known).2
    omega

/-- Something is written outside all spans. It belongs to no call, and leaves all stories as they
are. -/
theorem aside (sorted : Sorted first next entries stories)
    (outside : ∀ x ∈ added, x.span? = none) : Sorted first next (entries ++ added) stories := by
  refine ⟨sorted.onwards, sorted.distinct, sorted.numbers, ?_, ?_⟩
  · intro a member
    rw [ofCall_append, ofCall_of_outside outside, List.append_nil, sorted.own a member]
  · intro x member
    rcases List.mem_append.mp member with old | new
    · exact sorted.whole x old
    · exact .inl (outside x new)

/-- A call gets its number and begins its story. The number is new, so that nothing so far is about
this call, and what it writes is about no other one. -/
theorem opens (sorted : Sorted first next entries (before ++ after)) (a : Story)
    (number : a.span.invocation = next) (own : ∀ x ∈ a.entries, x.IsOf next) :
    Sorted first (next + 1) (entries ++ a.entries) (before ++ a :: after) := by
  have inserted : (before ++ a :: after).Perm (a :: (before ++ after)) := List.perm_middle
  have onwards := sorted.onwards
  refine ⟨Nat.le_succ_of_le onwards, ?_, ?_, ?_, ?_⟩
  · refine ((inserted.map _).nodup_iff).mpr (List.nodup_cons.mpr ⟨?_, sorted.distinct⟩)
    intro used
    obtain ⟨b, member, same⟩ := List.mem_map.mp used
    have early : b.span.invocation < next := (sorted.numbers b member).2
    have same : b.span.invocation = a.span.invocation := same
    omega
  · intro b member
    rcases List.mem_cons.mp (inserted.subset member) with rfl | old
    · omega
    · have bounds := sorted.numbers b old
      omega
  · intro b member
    rw [ofCall_append]
    rcases List.mem_cons.mp (inserted.subset member) with rfl | old
    · rw [number, sorted.ofCall_next, ofCall_self own, List.nil_append]
    · have other : next ≠ b.span.invocation := by
        have early := (sorted.numbers b old).2
        omega
      rw [sorted.own b old, ofCall_of_ne other own, List.append_nil]
  · intro x member
    rcases List.mem_append.mp member with old | new
    · rcases sorted.whole x old with outside | ⟨b, known, told⟩
      · exact .inl outside
      · exact .inr ⟨b, inserted.symm.subset (List.mem_cons_of_mem _ known), told⟩
    · exact .inr ⟨a, List.mem_append_right _ List.mem_cons_self, new⟩

/-- A call goes on with its story. What it writes is about its own number, which no other story has;
so it comes at the end of this story and changes none of the others. -/
theorem adds (sorted : Sorted first next entries (before ++ a :: after))
    (own : ∀ x ∈ added, x.IsOf a.span.invocation) :
    Sorted first next (entries ++ added)
      (before ++ { a with entries := a.entries ++ added } :: after) := by
  have mine : a ∈ before ++ a :: after := List.mem_append_right _ List.mem_cons_self
  have others {b : Story} (old : b ∈ before ∨ b ∈ after) :
      a.span.invocation ≠ b.span.invocation ∧ b ∈ before ++ a :: after := by
    have distinct : ((a :: (before ++ after)).map (·.span.invocation)).Nodup :=
      ((List.perm_middle.map _).nodup_iff).mp sorted.distinct
    have apart := (List.nodup_cons.mp distinct).1
    refine ⟨fun same => apart ?_, by simpa using old.imp_right .inr⟩
    exact List.mem_map.mpr ⟨b, List.mem_append.mpr old, same.symm⟩
  have cases_ {b : Story}
      (member : b ∈ before ++ { a with entries := a.entries ++ added } :: after) :
      b = { a with entries := a.entries ++ added } ∨ b ∈ before ∨ b ∈ after := by
    simpa [or_left_comm] using member
  refine ⟨sorted.onwards, by simpa using sorted.distinct, ?_, ?_, ?_⟩
  · intro b member
    rcases cases_ member with rfl | old
    · exact sorted.numbers a mine
    · exact sorted.numbers b (others old).2
  · intro b member
    rw [ofCall_append]
    rcases cases_ member with rfl | old
    · rw [sorted.own a mine, ofCall_self own]
    · rw [sorted.own b (others old).2, ofCall_of_ne (others old).1 own, List.append_nil]
  · intro x member
    rcases List.mem_append.mp member with old | new
    · rcases sorted.whole x old with outside | ⟨b, known, told⟩
      · exact .inl outside
      · rcases List.mem_append.mp known with early | late
        · exact .inr ⟨b, List.mem_append_left _ early, told⟩
        · rcases List.mem_cons.mp late with rfl | late
          · exact .inr ⟨_, List.mem_append_right _ List.mem_cons_self,
              List.mem_append_left _ told⟩
          · exact .inr ⟨b, List.mem_append_right _ (List.mem_cons_of_mem _ late), told⟩
    · exact .inr ⟨_, List.mem_append_right _ List.mem_cons_self, List.mem_append_right _ new⟩

end Sorted

end Trace

end TrialRouting
