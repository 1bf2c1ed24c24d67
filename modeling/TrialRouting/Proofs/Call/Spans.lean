import TrialRouting.Proofs.Call.Stories

/-!
# The spans of a call

Whatever is in the story of a call is about the span around the call, or about a span that logging
has opened in one of its attempts. Each of its attempts has a part of the story to itself: no other
part is about the spans that this one has opened. So what the whole trace has about such a span is
what its own attempt has written about it, and that is what logging writes: the opening alone if
what it is around was cut off, and otherwise once the duration, the outcome and one event.
-/

namespace TrialRouting

open Trace (Entry Event Span Story openings about ofCall inside)

namespace Trace

variable {span own : Span} {entries : List Entry}

/-- A span that a part of a story has not opened, other than the span of the call, is not what that
part is about. -/
theorem Contained.about_eq_nil (contained : Contained span entries) (older : own ∉ openings entries)
    (other : own ≠ span) : about own entries = [] := by
  refine Trace.about_eq_nil fun x member here => ?_
  rcases contained x member with around | ⟨inner, opened, there, -⟩
  · exact other (Option.some.inj (here.symm.trans around))
  · obtain rfl : own = inner := Option.some.inj (here.symm.trans there)
    exact older opened

/-- All that the trace has about a span of a call is in what it has about the call, since a span
carries the number of its call. -/
theorem about_ofCall (own : Span) (entries : List Entry) :
    about own (ofCall own.invocation entries) = about own entries := by
  rw [about, about, ofCall, List.filter_filter]
  refine List.filter_congr fun x _ => ?_
  cases here : x.span? with
  | none => simp
  | some span =>
    by_cases same : span = own
    · simp [same]
    · simp [same]

end Trace

/-- The outcome that logging has been left with in an attempt inside the span of a call: that of the
attempt; or none if the attempt has come to none of its own, and then it has only opened spans; or
none if a time bound around that logging has run out. -/
inductive Leg.Left (leg : Leg) (span own : Span) (mine : List Entry) : Option Outcome → Prop where
  | outcome {o : Outcome} (ending : leg.ending = some (.completed o)) :
      Left leg span own mine (some o)
  | unfinished (ending : leg.ending = some .expired ∨
      leg.ending = some (.completed (.error cancelledFailure)) ∨ leg.ending = none)
      (only : ∀ x ∈ mine, x.opened?.isSome = true) : Left leg span own mine none
  | cutOff {o : Outcome} (ending : leg.ending = some (.completed o))
      (cut : leg.context.CutOff own (some span) mine) : Left leg span own mine none

namespace Router

variable {router : Router} {call : Call} {selection : Selection} {span : Span} {leg : Leg}
  {leg? : Option Leg} {legs made : List Leg} {entries mine more : List Entry}

/-- The part of a story that is an attempt's own. What stands before and after it is about the call
or about spans of other attempts. -/
structure Attempted (router : Router) (span : Span) (entries : List Entry) (leg : Leg)
    (mine : List Entry) : Prop where
  part : ∃ before after, entries = before ++ mine ++ after ∧
    Trace.Contained span before ∧ Trace.Contained span after
  number : leg.context.invocation = span.invocation
  wrote : router.Wrote span leg mine

/-- The attempts of a call have parts of its story to themselves, and open all spans in it but the
span of the call. -/
structure Chapters (router : Router) (span : Span) (entries : List Entry) (legs : List Leg) :
    Prop where
  contained : Trace.Contained span entries
  attempts : ∀ leg ∈ legs, ∃ mine, router.Attempted span entries leg mine
  spans : ∀ own ∈ openings entries, own = span ∨
    ∃ leg ∈ legs, ∃ mine, router.Attempted span entries leg mine ∧ own ∈ openings mine

/-- The logging of an attempt writes what it should about its spans, in whichever way the attempt
has ended. -/
theorem Wrote.logged (wrote : router.Wrote span leg mine) (distinct : (openings mine).Nodup)
    (older : span ∉ openings mine) : ∀ own ∈ openings mine,
    ∃ own?, leg.context.Logged own (about own mine) own? ∧ leg.Left span own mine own? := by
  have outside : ∀ own ∈ openings mine, some span ≠ some own :=
    fun own opened same => older (Option.some.inj same ▸ opened)
  intro own opened
  cases wrote with
  | unlisted ending => exact absurd opened List.not_mem_nil
  | unresolved source ending =>
    rw [Trace.openings_inside] at opened
    exact absurd opened List.not_mem_nil
  | completed trail ending =>
    obtain ⟨own?, logged, rfl | ⟨rfl, cut⟩⟩ := trail.nested.logged distinct outside own opened
    · exact ⟨_, logged, .outcome ending⟩
    · exact ⟨none, logged, .cutOff ending cut⟩
  | unfinished trail ending =>
    have only := trail.nested.opened_of_unfinished
    obtain ⟨own?, logged, rfl | ⟨rfl, -⟩⟩ := trail.nested.logged distinct outside own opened
    · exact ⟨none, logged, .unfinished ending only⟩
    · exact ⟨none, logged, .unfinished ending only⟩

/-- The story of a call goes on, and the part of an attempt stays its own. -/
theorem Attempted.append (attempted : router.Attempted span entries leg mine)
    (contained : Trace.Contained span more) : router.Attempted span (entries ++ more) leg mine := by
  obtain ⟨⟨before, after, rfl, first, last⟩, number, wrote⟩ := attempted
  exact ⟨⟨before, after ++ more, by simp only [List.append_assoc], first, last.append contained⟩,
    number, wrote⟩

/-- What the whole story has about a span that an attempt has opened is the attempt's own. The parts
before and after do not open that span again, and so are not about it. -/
theorem Attempted.about_eq (attempted : router.Attempted span entries leg mine)
    (distinct : (openings entries).Nodup) {own : Span} (opened : own ∈ openings mine)
    (other : own ≠ span) : about own entries = about own mine := by
  obtain ⟨⟨before, after, rfl, first, last⟩, -, -⟩ := attempted
  simp only [Trace.openings_append] at distinct
  obtain ⟨early, -, late⟩ := List.nodup_append.mp distinct
  obtain ⟨-, -, apart⟩ := List.nodup_append.mp early
  have unopened : own ∉ openings before := fun before => apart own before own opened rfl
  have unopened' : own ∉ openings after :=
    fun after => late own (List.mem_append_right _ opened) own after rfl
  rw [Trace.about_append, Trace.about_append, first.about_eq_nil unopened other,
    last.about_eq_nil unopened' other, List.nil_append, List.append_nil]

/-- The spans that an attempt opens are those of logging, and of its own call. -/
theorem Wrote.openings_eq (wrote : router.Wrote span leg mine) : ∀ own ∈ openings mine,
    own.name = "attempt" ∧ own.invocation = leg.context.invocation := by
  intro own opened
  cases wrote with
  | unlisted ending => exact absurd opened List.not_mem_nil
  | unresolved source ending =>
    rw [Trace.openings_inside] at opened
    exact absurd opened List.not_mem_nil
  | completed trail ending => exact trail.nested.openings_eq own opened
  | unfinished trail ending => exact trail.nested.openings_eq own opened

/-- Logging opens one span for an attempt, as far as the attempt gets. The first fields tell which
attempt it is. -/
theorem Wrote.opens_each (wrote : router.Wrote span leg mine) : ∃ reached,
    reached <+: router.pipeline ∧ Trace.firstFields mine =
      (reached.filterMap (·.logs?)).map leg.context.attemptFields := by
  cases wrote with
  | unlisted ending => exact ⟨[], List.nil_prefix, rfl⟩
  | unresolved source ending => exact ⟨[], List.nil_prefix, rfl⟩
  | completed trail ending => exact trail.opens_each
  | unfinished trail ending => exact trail.opens_each

namespace Chapters

/-- A call has opened its span. -/
theorem opened (router : Router) (span : Span) (fields : List Trace.Field) :
    router.Chapters span [.opened span fields] [] := by
  refine ⟨Trace.contained_opened span fields,
    fun _ impossible => absurd impossible List.not_mem_nil, ?_⟩
  intro own opened
  exact .inl (List.mem_singleton.mp opened)

/-- The router says something. That is in the span of the call, and belongs to no attempt. -/
theorem remarks (chapters : router.Chapters span entries legs) (events : List Event) :
    router.Chapters span (entries ++ inside span events) legs := by
  have contained : Trace.Contained span (inside span events) := Trace.contained_inside span events
  refine ⟨chapters.contained.append contained, ?_, ?_⟩
  · intro leg member
    obtain ⟨mine, attempted⟩ := chapters.attempts leg member
    exact ⟨mine, attempted.append contained⟩
  · intro own opened
    rw [Trace.openings_append, Trace.openings_inside, List.append_nil] at opened
    rcases chapters.spans own opened with around | ⟨leg, member, mine, attempted, known⟩
    · exact .inl around
    · exact .inr ⟨leg, member, mine, attempted.append contained, known⟩

/-- An attempt is made. Its part is what it has written, and all parts before stay what they
were. -/
theorem attempt (chapters : router.Chapters span entries legs)
    (number : leg.context.invocation = span.invocation) (wrote : router.Wrote span leg mine) :
    router.Chapters span (entries ++ mine) (legs ++ [leg]) := by
  have contained : Trace.Contained span mine := wrote.contained number
  have latest : router.Attempted span (entries ++ mine) leg mine :=
    ⟨⟨entries, [], (List.append_nil _).symm, chapters.contained,
      fun _ impossible => absurd impossible List.not_mem_nil⟩, number, wrote⟩
  refine ⟨chapters.contained.append contained, ?_, ?_⟩
  · intro leg' member
    rcases List.mem_append.mp member with old | new
    · obtain ⟨mine', attempted⟩ := chapters.attempts leg' old
      exact ⟨mine', attempted.append contained⟩
    · rw [List.mem_singleton.mp new]
      exact ⟨mine, latest⟩
  · intro own opened
    rw [Trace.openings_append] at opened
    rcases List.mem_append.mp opened with old | new
    · rcases chapters.spans own old with around | ⟨leg', member, mine', attempted, known⟩
      · exact .inl around
      · exact .inr ⟨leg', List.mem_append_left _ member, mine', attempted.append contained, known⟩
    · exact .inr ⟨leg, List.mem_append_right _ List.mem_cons_self, mine, latest, new⟩

/-- The attempt that a call has come to has ended, if it has started. -/
theorem arrived {e : Ending} (chapters : router.Chapters span entries legs)
    (arrived : router.Arrived span e leg? mine) :
    router.Chapters span (entries ++ mine) (legs ++ leg?.toList) := by
  cases arrived with
  | attempted ending number wrote => exact chapters.attempt number wrote
  | withheld ending => simpa using chapters

end Chapters

/-- The attempts that have been followed by others have parts of the story to themselves, by
induction on how often the call has gone on. -/
theorem Followed.chapters (followed : router.Followed call selection span made entries) :
    router.Chapters span entries made := by
  induction followed with
  | embarked scope => exact (Chapters.opened router span _).remarks _
  | next _ arrived remarks ih => exact (ih.arrived arrived).remarks _

end Router

namespace Journey

variable {router : Router} {j : Journey} {a : Story} {added : List Entry}

/-- So has the one that a call has come to. -/
theorem Narrates.chapters {selection : Selection} {made : List Leg} {leg? : Option Leg}
    {before mine : List Entry} {closing : List Event}
    (narrates : j.Narrates router a selection made leg? before mine closing) :
    router.Chapters a.span a.entries j.legs := by
  have earlier := narrates.followed.chapters
  have latest := narrates.latest
  rw [narrates.entries, narrates.legs]
  generalize j.phase = phase at latest
  cases latest with
  | launching c => exact (earlier.arrived (.withheld rfl)).remarks []
  | attempting c number trail =>
    exact (earlier.attempt number (.unfinished trail.unfinished (.inr (.inr rfl)))).remarks []
  | concluding c arrived => exact (earlier.arrived arrived).remarks []
  | ended arrived remarks => exact (earlier.arrived arrived).remarks closing
  | takenDown scope ending number wrote => exact (earlier.attempt number wrote).remarks _

/-- What a trace has about a call is attributed to it and to its attempts. All of it is said of the
trace as a whole, in which other calls may write in between. -/
structure Attributed (router : Router) (j : Journey) (added : List Entry) (a : Story) : Prop where
  /-- The story of the call is what the trace has about it, and it is told around a span for the
  whole call. -/
  name : a.span.name = "invocation"
  own : ofCall a.span.invocation added = a.entries
  /-- Each event in it is in the span of the call or in one that logging has opened in one of its
  attempts, and what the router itself has to say is in the span of the call. -/
  events : ∀ e current, .event e current ∈ a.entries → current = some a.span ∨
    e.message ∉ routerMessages ∧ ∃ own ∈ openings a.entries,
      current = some own ∧ own.name = "attempt" ∧ own.invocation = a.span.invocation
  /-- Each attempt has a part of the story to itself, and the spans are opened there. -/
  attempts : ∀ leg ∈ j.legs, ∃ mine, router.Attempted a.span a.entries leg mine
  spans : ∀ own ∈ openings a.entries, own = a.span ∨ ∃ leg ∈ j.legs, ∃ mine,
    router.Attempted a.span a.entries leg mine ∧ own ∈ openings mine
  /-- Each event of an attempt is in the span of the call or in one that this very attempt has
  opened. -/
  within : ∀ leg mine, router.Attempted a.span a.entries leg mine →
    ∀ e current, .event e current ∈ mine →
      current = some a.span ∨ ∃ own ∈ openings mine, current = some own
  /-- The decorators that an attempt has come to are the first of all, and those of them that are
  logging have opened one span each, in order. -/
  opens : ∀ leg mine, router.Attempted a.span a.entries leg mine → ∃ reached,
    reached <+: router.pipeline ∧ Trace.firstFields mine =
      (reached.filterMap (·.logs?)).map leg.context.attemptFields
  /-- About each span that an attempt has opened the trace has what logging writes, given the
  outcome it has been left with. -/
  logged : ∀ leg mine, router.Attempted a.span a.entries leg mine → ∀ own ∈ openings mine,
    ∃ own?, leg.context.Logged own (about own added) own? ∧ leg.Left a.span own mine own?

/-- In a trace that opens no span twice, the story of a call is attributed to it. The story has a
part for each attempt, and that is all the trace has about the spans of that attempt. -/
theorem Recounts.attributed (recounts : j.Recounts router (some a))
    (distinct : (openings added).Nodup) (own : ofCall a.span.invocation added = a.entries) :
    j.Attributed router added a := by
  obtain ⟨selection, made, leg?, before, mine, closing, narrates⟩ := recounts
  have chapters := narrates.chapters
  have fewer : (openings a.entries).Nodup := by
    rw [← own]
    exact distinct.sublist (List.filter_sublist.filterMap _)
  refine ⟨narrates.name, own, ?_, chapters.attempts, chapters.spans, ?_,
    fun leg mine attempted => attempted.wrote.opens_each, ?_⟩
  · intro e current member
    rcases chapters.contained _ member with around | ⟨span, opened, here, name, call, unsaid⟩
    · exact .inl around
    · exact .inr ⟨unsaid e current rfl, span, opened, here, name, call⟩
  · intro leg mine attempted e current member
    rcases attempted.wrote.contained attempted.number _ member with
      around | ⟨span, opened, here, -⟩
    · exact .inl around
    · exact .inr ⟨span, opened, here⟩
  · intro leg mine attempted span opened
    obtain ⟨name, call⟩ := attempted.wrote.openings_eq span opened
    have other : span ≠ a.span := fun same =>
      absurd (name.symm.trans (same ▸ narrates.name)) (by decide)
    have older : a.span ∉ openings mine := fun known =>
      absurd ((attempted.wrote.openings_eq _ known).1.symm.trans narrates.name) (by decide)
    have ownPart : (openings mine).Nodup := by
      obtain ⟨before, after, split, -⟩ := attempted.part
      rw [split, Trace.openings_append, Trace.openings_append] at fewer
      exact (List.nodup_append.mp (List.nodup_append.mp fewer).1).2.1
    obtain ⟨own?, logged, left⟩ := attempted.wrote.logged ownPart older span opened
    have found : about span added = about span mine := by
      rw [← Trace.about_ofCall, call, attempted.number, own]
      exact attempted.about_eq fewer opened other
    exact ⟨own?, found ▸ logged, left⟩

end Journey

end TrialRouting
