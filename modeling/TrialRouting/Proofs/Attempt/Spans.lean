import TrialRouting.Proofs.Attempt.Trails

/-!
# The spans of an attempt

Logging opens a span for each attempt it sees. What a trail has about that span is the opening,
then whatever the decorators directly inside of it have to say, and then, if its inside has come to
an outcome, the duration, the outcome and one event, in this order and once. If the inside was cut
off by a time bound, or the attempt as a whole was, there is only the opening.

Only logging opens spans, so `Context.Nested` forgets the other decorators of a trail and keeps
what they say. The properties of spans follow by induction on that.
-/

namespace TrialRouting

open Trace (Entry Event Span openings about inside mem_openings)

/-- What built-in decorators other than logging say. -/
def decoratorMessages : List String :=
  ["attempt deadline exceeded", "circuit open, attempt rejected", "circuit opened",
    "concurrency limit reached, attempt rejected"]

/-- What logging says. -/
def completionMessages : List String :=
  ["attempt complete", "attempt failed"]

/-- What logging writes about its own span, and the outcome it has been left with, if it has.
Between the opening and the farewell stand the events of the decorators directly inside it. -/
inductive Context.Logged (c : Context) (own : Span) : List Entry → Option Outcome → Prop where
  | unfinished (router : String) : Logged c own [.opened own (c.attemptFields router)] none
  | finished {events : List Event} (router : String) (millis : Nat) (o : Outcome)
      (others : ∀ e ∈ events, e.message ∈ decoratorMessages) :
      Logged c own (.opened own (c.attemptFields router) :: (inside own events
        ++ c.farewell own millis o)) (some o)

/-- Logging inside a time bound has opened a span, and then the time bound has run out and has said
so in the span around itself. -/
inductive Context.CutOff (c : Context) (own : Span) : Option Span → List Entry → Prop where
  | here {span : Option Span} {cut : List Entry} (limit : Duration) (after : List Entry)
      (opened : own ∈ openings cut) (only : ∀ x ∈ cut, x.opened?.isSome = true) :
      CutOff c own span (cut ++ .event (c.deadlineEvent limit) span :: after)
  | inside {span : Option Span} {inner : Span} {entries : List Entry} (fields : List Trace.Field)
      (after : List Entry) (within : CutOff c own (some inner) entries) :
      CutOff c own span (.opened inner fields :: (entries ++ after))

/-- A trail as far as spans go: nested spans with what is said between them. Decorators that are not
logging are forgotten, and only their events are kept. -/
inductive Context.Nested (c : Context) : Option Span → List Entry → Option Outcome → Prop where
  | nothing (span : Option Span) (o? : Option Outcome) : Nested c span [] o?
  | speaks {span : Option Span} {entries : List Entry} {o : Outcome} {e : Event}
      (within : Nested c span entries (some o)) (known : e.message ∈ decoratorMessages) :
      Nested c span (entries ++ [.event e span]) (some o)
  | expires {span : Option Span} {entries : List Entry} (within : Nested c span entries none)
      (limit : Duration) (o : Outcome) :
      Nested c span (entries ++ [.event (c.deadlineEvent limit) span]) (some o)
  | opens {span : Option Span} {own : Span} {entries : List Entry} (router : String)
      (name : own.name = "attempt") (call : own.invocation = c.invocation)
      (within : Nested c (some own) entries none) :
      Nested c span (.opened own (c.attemptFields router) :: entries) none
  | closes {span : Option Span} {own : Span} {entries : List Entry} {o : Outcome}
      (router : String) (name : own.name = "attempt") (call : own.invocation = c.invocation)
      (millis : Nat) (within : Nested c (some own) entries (some o)) :
      Nested c span (.opened own (c.attemptFields router) :: (entries
        ++ c.farewell own millis o)) (some o)

variable {c : Context} {span : Option Span} {own : Span} {decorators : List Decorator}
  {entries : List Entry} {o? : Option Outcome}

/-- A decorator that turns an attempt away says so, in one of the messages that are not those of
logging. -/
theorem Decorator.Rejects.message {d : Decorator} {e : Event} {f : Failure}
    (rejects : d.Rejects c e f) : e.message ∈ decoratorMessages := by
  cases rejects with
  | circuit slot => simp [decoratorMessages]
  | limit slot => simp [decoratorMessages]

/-- The spans of a trail are nested. Each decorator that is entered adds a level or none, and each
that is left closes its own. -/
theorem Context.Trail.nested (trail : c.Trail span decorators entries o?) :
    c.Nested span entries o? := by
  induction trail with
  | work span o? => exact .nothing span o?
  | @rejected span d rest e f rejects => exact .speaks (.nothing span _) rejects.message
  | unfinished enters _ ih =>
    cases enters with
    | logging router since name call => exact .opens router name call ih
    | timeout token due limit => exact ih
    | circuit slot a => exact ih
    | permit slot => exact ih
  | @finished span d rest frame first inner last o enters _ leaves ih =>
    cases enters with
    | logging router since name call =>
      cases leaves with
      | logging _ _ millis _ => exact .closes router name call millis ih
    | timeout token due limit =>
      cases leaves with
      | timeout _ _ _ _ => simpa [Frame.span] using ih
    | circuit slot a =>
      cases leaves with
      | circuit _ _ _ => simpa [Frame.span] using ih
      | circuitOpens _ _ f resetMillis =>
        exact .speaks ih (by simp [openedEvent, decoratorMessages])
    | permit slot =>
      cases leaves with
      | permit _ _ => simpa [Frame.span] using ih
  | expired _ ih => exact .expires ih _ _

/-- What follows does not undo that a time bound has run out. -/
theorem Context.CutOff.append (cut : c.CutOff own span entries)
    (more : List Entry) : c.CutOff own span (entries ++ more) := by
  cases cut with
  | here limit after opened only =>
    rw [List.append_assoc]
    exact .here limit (after ++ more) opened only
  | inside fields after within =>
    rw [List.cons_append, List.append_assoc]
    exact .inside fields (after ++ more) within

/-! ### One span for each logging -/

/-- The first fields of the spans that are opened, in order. -/
def Trace.firstFields (entries : List Entry) : List (List Trace.Field) :=
  entries.filterMap fun
    | .opened _ fields => some fields
    | _ => none

/-- The router whose attempts a decorator opens spans for. -/
def Decorator.logs? : Decorator → Option String
  | .logging router => some router
  | _ => none

theorem Trace.firstFields_append (first second : List Entry) :
    Trace.firstFields (first ++ second) = Trace.firstFields first ++ Trace.firstFields second :=
  List.filterMap_append ..

/-- A decorator that an attempt gets inside of opens one span if it is logging, and none otherwise.
The first fields of the span name the router, the service, the method, the key and the number of the
attempt. -/
theorem Frame.Enters.firstFields {d : Decorator} {frame : Frame} {first : List Entry}
    (enters : frame.Enters c d first) :
    Trace.firstFields first = d.logs?.toList.map c.attemptFields := by
  cases enters with
  | logging router since name call => rfl
  | timeout token due limit => rfl
  | circuit slot a => rfl
  | permit slot => rfl

/-- A decorator that is left opens none. -/
theorem Frame.Leaves.firstFields {frame : Frame} {o : Outcome} {last : List Entry}
    (leaves : frame.Leaves c span o last) : Trace.firstFields last = [] := by
  cases leaves with
  | logging own since millis o => rfl
  | timeout token due limit o => rfl
  | circuit slot a o => rfl
  | circuitOpens slot a f resetMillis => rfl
  | permit slot o => rfl

/-- The decorators that an attempt has come to are the first of all, and those of them that are
logging have opened one span each, in order. An attempt that is turned away never comes to those
further inside; otherwise one decorator is reached before those inside of it. -/
theorem Context.Trail.opens_each (trail : c.Trail span decorators entries o?) :
    ∃ reached, reached <+: decorators ∧
      Trace.firstFields entries = (reached.filterMap (·.logs?)).map c.attemptFields := by
  have further {d : Decorator} {rest reached : List Decorator} {first inner : List Entry}
      {frame : Frame} (enters : frame.Enters c d first) (before : reached <+: rest)
      (opened : Trace.firstFields inner = (reached.filterMap (·.logs?)).map c.attemptFields) :
      d :: reached <+: d :: rest ∧ Trace.firstFields (first ++ inner) =
        ((d :: reached).filterMap (·.logs?)).map c.attemptFields := by
    refine ⟨(List.prefix_cons_inj d).mpr before, ?_⟩
    rw [Trace.firstFields_append, enters.firstFields, opened, ← List.map_append]
    cases here : d.logs? with
    | none => simp [here]
    | some router => simp [here]
  induction trail with
  | work span o? => exact ⟨[], List.nil_prefix, rfl⟩
  | rejected rejects => exact ⟨[], List.nil_prefix, rfl⟩
  | unfinished enters _ ih =>
    obtain ⟨reached, before, opened⟩ := ih
    exact ⟨_, further enters before opened⟩
  | finished enters _ leaves ih =>
    obtain ⟨reached, before, opened⟩ := ih
    obtain ⟨longer, opened'⟩ := further enters before opened
    refine ⟨_, longer, ?_⟩
    rw [Trace.firstFields_append, opened', leaves.firstFields, List.append_nil]
  | @expired span limit rest inner _ ih =>
    obtain ⟨reached, before, opened⟩ := ih
    obtain ⟨longer, opened'⟩ := further (.timeout ⟨0, []⟩ none limit) before opened
    exact ⟨_, longer, by rw [Trace.firstFields_append, ← opened']; exact List.append_nil _⟩

/-! ### What is about a span -/

namespace Context.Nested

/-- What has been left with an outcome has said so in its own span. -/
theorem mem_farewell {millis : Nat} {o : Outcome} {x : Entry}
    (member : x ∈ c.farewell own millis o) : x.span? = some own ∧ x.opened? = none := by
  simp only [farewell, List.mem_cons, List.not_mem_nil, or_false] at member
  rcases member with rfl | rfl | rfl
  · exact ⟨rfl, rfl⟩
  · exact ⟨rfl, rfl⟩
  · exact ⟨rfl, rfl⟩

/-- Leaving logging opens no span. -/
theorem openings_farewell (own : Span) (millis : Nat) (o : Outcome) :
    openings (c.farewell own millis o) = [] :=
  List.filterMap_eq_nil_iff.mpr fun _ member => (mem_farewell member).2

/-- Nor does an event. -/
theorem openings_event (e : Event) (span : Option Span) : openings [.event e span] = [] := rfl

/-- Entering it opens one. -/
theorem openings_opened (own : Span) (fields : List Trace.Field) (entries : List Entry) :
    openings (.opened own fields :: entries) = own :: openings entries := rfl

/-- An attempt opens spans of logging, and they are of its own call. -/
theorem openings_eq (nested : c.Nested span entries o?) :
    ∀ own ∈ openings entries, own.name = "attempt" ∧ own.invocation = c.invocation := by
  induction nested with
  | nothing span o? => exact fun _ impossible => absurd impossible List.not_mem_nil
  | speaks _ known ih => simpa [openings_event] using ih
  | expires _ limit o ih => simpa [openings_event] using ih
  | opens router name call _ ih =>
    rw [openings_opened]
    exact List.forall_mem_cons.mpr ⟨⟨name, call⟩, ih⟩
  | closes router name call millis _ ih =>
    rw [openings_opened, Trace.openings_append, openings_farewell, List.append_nil]
    exact List.forall_mem_cons.mpr ⟨⟨name, call⟩, ih⟩

/-- Whatever an attempt writes is about a span that it has opened, or it is an event of a decorator
outside of which there is no logging, in the span around the whole attempt. So nothing is written
about a span of another attempt. -/
theorem mem_cases (nested : c.Nested span entries o?) : ∀ x ∈ entries,
    (∃ e : Event, x = .event e span ∧ e.message ∈ decoratorMessages) ∨
      ∃ own ∈ openings entries, x.span? = some own := by
  induction nested with
  | nothing span o? => exact fun _ impossible => absurd impossible List.not_mem_nil
  | @speaks span entries o e _ known ih =>
    intro x member
    rw [Trace.openings_append, openings_event, List.append_nil]
    rcases List.mem_append.mp member with old | new
    · exact ih x old
    · exact .inl ⟨e, List.mem_singleton.mp new, known⟩
  | expires _ limit o ih =>
    intro x member
    rw [Trace.openings_append, openings_event, List.append_nil]
    rcases List.mem_append.mp member with old | new
    · exact ih x old
    · exact .inl ⟨_, List.mem_singleton.mp new, by simp [deadlineEvent, decoratorMessages]⟩
  | @opens span own entries router name call _ ih =>
    intro x member
    refine .inr ?_
    rw [openings_opened]
    rcases List.mem_cons.mp member with rfl | inner
    · exact ⟨own, List.mem_cons_self, rfl⟩
    · rcases ih x inner with ⟨e, rfl, -⟩ | ⟨deeper, known, here⟩
      · exact ⟨own, List.mem_cons_self, rfl⟩
      · exact ⟨deeper, List.mem_cons_of_mem _ known, here⟩
  | @closes span own entries o router name call millis _ ih =>
    intro x member
    refine .inr ?_
    rw [openings_opened, Trace.openings_append, openings_farewell, List.append_nil]
    rcases List.mem_cons.mp member with rfl | later
    · exact ⟨own, List.mem_cons_self, rfl⟩
    · rcases List.mem_append.mp later with inner | left
      · rcases ih x inner with ⟨e, rfl, -⟩ | ⟨deeper, known, here⟩
        · exact ⟨own, List.mem_cons_self, rfl⟩
        · exact ⟨deeper, List.mem_cons_of_mem _ known, here⟩
      · exact ⟨own, List.mem_cons_self, (mem_farewell left).1⟩

/-- Only decorators speak in an attempt: every event has one of the few messages of logging or of
the other decorators. -/
theorem message_mem (nested : c.Nested span entries o?) {e : Event} {current : Option Span}
    (member : .event e current ∈ entries) :
    e.message ∈ decoratorMessages ∨ e.message ∈ completionMessages := by
  induction nested with
  | nothing span o? => exact absurd member List.not_mem_nil
  | speaks _ known ih =>
    rcases List.mem_append.mp member with old | new
    · exact ih old
    · cases List.mem_singleton.mp new
      exact .inl known
  | expires _ limit o ih =>
    rcases List.mem_append.mp member with old | new
    · exact ih old
    · cases List.mem_singleton.mp new
      exact .inl (by simp [deadlineEvent, decoratorMessages])
  | opens router name call _ ih =>
    rcases List.mem_cons.mp member with impossible | inner
    · cases impossible
    · exact ih inner
  | @closes span own entries o router name call millis _ ih =>
    rcases List.mem_cons.mp member with impossible | later
    · cases impossible
    · rcases List.mem_append.mp later with inner | left
      · exact ih inner
      · simp only [farewell, List.mem_cons, List.not_mem_nil, or_false, reduceCtorEq, false_or,
          Entry.event.injEq] at left
        obtain ⟨rfl, -⟩ := left
        cases o with
        | ok v => exact .inr (by simp [completion, completionMessages])
        | error f => exact .inr (by simp [completion, completionMessages])

/-- An attempt that has come to no outcome has only opened spans. Everything else is written by a
decorator on the way out. -/
theorem opened_of_unfinished (nested : c.Nested span entries none) :
    ∀ x ∈ entries, x.opened?.isSome = true := by
  generalize unfinished : (none : Option Outcome) = o? at nested
  induction nested with
  | nothing span o? => exact fun _ impossible => absurd impossible List.not_mem_nil
  | speaks _ known ih => cases unfinished
  | expires _ limit o ih => cases unfinished
  | @opens span own entries router name call _ ih =>
    exact List.forall_mem_cons.mpr ⟨rfl, ih rfl⟩
  | closes router name call millis _ ih => cases unfinished

/-- What has been said in the span around an attempt, which the attempt has not opened itself, has
been said by decorators other than logging. By its own account the attempt writes about that span in
events only. -/
theorem about_outer (nested : c.Nested (some own) entries o?) (older : own ∉ openings entries) :
    ∃ events : List Event, about own entries = inside own events ∧
      ∀ e ∈ events, e.message ∈ decoratorMessages := by
  have spoken : ∀ x ∈ about own entries,
      ∃ e : Event, x = .event e (some own) ∧ e.message ∈ decoratorMessages := by
    intro x member
    obtain ⟨written, here⟩ := List.mem_filter.mp member
    rcases nested.mem_cases x written with said | ⟨deeper, known, there⟩
    · exact said
    · simp only [there, beq_iff_eq, Option.some.injEq] at here
      exact absurd (here ▸ known) older
  generalize about own entries = found at spoken
  clear nested older
  induction found with
  | nil => exact ⟨[], rfl, fun _ impossible => absurd impossible List.not_mem_nil⟩
  | cons x found ih =>
    obtain ⟨⟨e, rfl, known⟩, others⟩ := List.forall_mem_cons.mp spoken
    obtain ⟨events, rfl, rest⟩ := ih others
    exact ⟨e :: events, rfl, List.forall_mem_cons.mpr ⟨known, rest⟩⟩

/-- What has only opened spans is about those, and about no other. -/
theorem about_of_unfinished (nested : c.Nested span entries none) (older : own ∉ openings entries) :
    about own entries = [] := by
  refine Trace.about_eq_nil fun x written here => ?_
  have opens := nested.opened_of_unfinished x written
  cases x with
  | opened deeper fields =>
    obtain rfl : deeper = own := Option.some.inj here
    exact older (mem_openings.mpr ⟨fields, written⟩)
  | recorded deeper fields => cases opens
  | event e current => cases opens

/-- Leaving logging is about its own span. -/
theorem about_farewell (own : Span) (millis : Nat) (o : Outcome) :
    about own (c.farewell own millis o) = c.farewell own millis o :=
  List.filter_eq_self.mpr fun _ left => by simp [(mem_farewell left).1]

/-- It is about no other span. -/
theorem about_farewell_of_ne {other : Span} (apart : own ≠ other) (millis : Nat) (o : Outcome) :
    about other (c.farewell own millis o) = [] :=
  Trace.about_eq_nil fun _ left => by simpa [(mem_farewell left).1] using apart

/-- What is about a span, once another or that one has been opened. An opening is about the span
that it opens, and what follows is as before. -/
theorem about_opened (own other : Span) (fields : List Trace.Field) (entries : List Entry) :
    about other (.opened own fields :: entries) =
      about other [.opened own fields] ++ about other entries :=
  Trace.about_append other [_] entries

/-- Each span that an attempt opens is written about as logging does. Unless a time bound around it
has run out, it has been left with the outcome of the whole attempt, if that has one.

Proof: induction follows the nesting. What is said further outside is about no span opened inside,
since no span is opened twice. Where a span closes, what it encloses is written about as before, and
its own account is completed by the farewell. -/
theorem logged (nested : c.Nested span entries o?) (distinct : (openings entries).Nodup)
    (outside : ∀ own ∈ openings entries, span ≠ some own) :
    ∀ own ∈ openings entries, ∃ own?, c.Logged own (about own entries) own? ∧
      (own? = o? ∨ own? = none ∧ c.CutOff own span entries) := by
  induction nested with
  | nothing span o? => exact fun _ impossible => absurd impossible List.not_mem_nil
  | @speaks span entries o e _ known ih =>
    rw [Trace.openings_append, openings_event, List.append_nil] at distinct outside ⊢
    intro own member
    obtain ⟨own?, logged, how⟩ := ih distinct outside own member
    have other : about own [.event e span] = [] :=
      Trace.about_singleton_of_ne (outside own member)
    refine ⟨own?, by rwa [Trace.about_append, other, List.append_nil], how.imp id ?_⟩
    exact fun ⟨none', cut⟩ => ⟨none', cut.append _⟩
  | @expires span entries within limit o ih =>
    rw [Trace.openings_append, openings_event, List.append_nil] at distinct outside ⊢
    intro own member
    obtain ⟨own?, logged, how⟩ := ih distinct outside own member
    have other : about own [.event (c.deadlineEvent limit) span] = [] :=
      Trace.about_singleton_of_ne (outside own member)
    have cut : c.CutOff own span (entries ++ [.event (c.deadlineEvent limit) span]) :=
      .here limit [] member within.opened_of_unfinished
    exact ⟨own?, by rwa [Trace.about_append, other, List.append_nil],
      .inr ⟨how.elim id (·.1), cut⟩⟩
  | @opens span own entries router name call within ih =>
    rw [openings_opened] at distinct outside ⊢
    obtain ⟨fresh, others⟩ := List.nodup_cons.mp distinct
    intro span' member
    rw [about_opened]
    rcases List.mem_cons.mp member with rfl | inner
    · refine ⟨none, ?_, .inl rfl⟩
      rw [within.about_of_unfinished fresh, List.append_nil, Trace.about_singleton rfl]
      exact .unfinished router
    · have apart : own ≠ span' := fun same => fresh (same ▸ inner)
      obtain ⟨own?, logged, how⟩ :=
        ih others (fun deeper known same => fresh (Option.some.inj same ▸ known)) span' inner
      have other : about span' [.opened own (c.attemptFields router)] = [] :=
        Trace.about_singleton_of_ne fun here => apart (Option.some.inj here)
      exact ⟨own?, by rwa [other, List.nil_append], .inl (how.elim id (·.1))⟩
  | @closes span own entries o router name call millis within ih =>
    rw [openings_opened, Trace.openings_append, openings_farewell, List.append_nil]
      at distinct outside ⊢
    obtain ⟨fresh, others⟩ := List.nodup_cons.mp distinct
    intro span' member
    rw [about_opened, Trace.about_append]
    rcases List.mem_cons.mp member with rfl | inner
    · obtain ⟨events, said, known⟩ := within.about_outer fresh
      refine ⟨some o, ?_, .inl rfl⟩
      rw [Trace.about_singleton rfl, said, about_farewell]
      exact .finished router millis o known
    · have apart : own ≠ span' := fun same => fresh (same ▸ inner)
      obtain ⟨own?, logged, how⟩ :=
        ih others (fun deeper known same => fresh (Option.some.inj same ▸ known)) span' inner
      have other : about span' [.opened own (c.attemptFields router)] = [] :=
        Trace.about_singleton_of_ne fun here => apart (Option.some.inj here)
      refine ⟨own?, ?_, how.imp id fun ⟨none', cut⟩ => ⟨none', .inside _ _ cut⟩⟩
      rwa [other, about_farewell_of_ne apart, List.nil_append, List.append_nil]

end Context.Nested

end TrialRouting
