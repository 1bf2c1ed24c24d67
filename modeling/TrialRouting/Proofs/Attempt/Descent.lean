import Mathlib.Logic.Relation
import TrialRouting.Attempt.Flight

/-!
# The way in

An attempt goes through its decorators from the outside in. At each of them it is inside of
those it has entered and has the others still before it; the next one lets it through at once,
or answers by itself, or makes it wait. `Invocation.next?` is one such step on the way in, and
`Invocation.Descends` a sequence of them.

What is entered last is left first: the answer to the whole attempt is the answer of the rest
of the chain, passed through the decorators around it from the inside out. `enter_eq_enclose`
says so of an attempt that has just been started, and `resume_eq_enclose` of one that had
waited on its way in.
-/

namespace TrialRouting

/-- How far an attempt has come on its way in. -/
structure Approach where
  /-- The innermost span around the attempt. -/
  outer : Option Trace.Span
  /-- The decorators it is inside of, outermost first. -/
  frames : List Frame
  /-- The decorators that are still to be entered. -/
  rest : List Decorator
  token : Token
  state : State

namespace Approach

/-- The innermost span around what comes next. -/
def span (a : Approach) : Option Trace.Span :=
  a.frames.foldl (fun span frame => frame.span span) a.outer

/-- The attempt has entered one more decorator. -/
def within (a : Approach) (frame : Frame) (token : Token) (state : State) : Approach :=
  { a with frames := a.frames ++ [frame], token, state }

/-- The span inside the decorator that has been entered last. Only logging changes it. -/
@[simp] theorem span_within (a : Approach) (frame : Frame) (token : Token) (state : State) :
    (a.within frame token state).span = frame.span a.span := by
  simp [span, within]

end Approach

/-- A flight inside decorators, outermost first. It is what an attempt leaves behind that waits at
its innermost place. -/
def Flight.nested (frames : List Frame) (flight : Flight) : Flight :=
  frames.foldr .within flight

namespace Invocation

/-- The answer of the decorators that are still to be entered, and of the work. Those that have been
entered have no part in it yet. -/
def answer (inv : Invocation) (a : Approach) : State × Reply :=
  inv.enter a.span a.rest a.token a.state

/-- What decorators, outermost first, make of what their inside has come to. The innermost is asked
first. -/
def enclose (inv : Invocation) : Option Trace.Span → List Frame → State × Reply → State × Reply
  | _, [], r => r
  | span, frame :: frames, r =>
      inv.around span frame (inv.enclose (frame.span span) frames r)

/-- An interceptor that has had its say lets the attempt go on inside it, unless it answers. -/
def inside? (inv : Invocation) (i : Interceptor) (a : Approach) : Option Approach :=
  match i.answer inv.context with
  | some _ => none
  | none =>
      let own := a.state.tokens.nextRoot
      if i.detaches then
        some (a.within (.intercepted i) own (a.state.issueToken.cancel own))
      else some (a.within (.intercepted i) a.token a.state)

/-- An interceptor is met on the way in. -/
def meet? (inv : Invocation) (i : Interceptor) (a : Approach) : Option Approach :=
  if i.applies inv.context then
    let s := a.state.notes ((i.enterRemarks inv.context (a.state.isCancelled a.token)).map .remark)
    let s := if i.cancelsCaller then s.cancel inv.caller else s
    if i.pauseBefore = 0 then inv.inside? i { a with state := s } else none
  else some a

/-- The next step on the way in. There is none if all decorators have been entered, and none past a
decorator that answers by itself or makes the attempt wait. -/
def next? (inv : Invocation) (a : Approach) : Option Approach :=
  let c := inv.context
  let s := a.state
  match a.rest with
  | [] => none
  | .logging router :: rest =>
      let own := s.nextSpan "attempt" c.invocation
      let s := s.openSpan own
        [Trace.text "router" router, Trace.text "service" c.service,
          Trace.text "method" c.method, Trace.text "key" c.key,
          Trace.number "attempt" c.attempt.toNat]
      some ({ a with rest }.within (.logging own s.now) a.token s)
  | .timeout limit :: rest =>
      let own := s.tokens.nextChild a.token
      some ({ a with rest }.within (.timeout own (s.timer.due? s.now limit) limit) own
        s.issueToken)
  | .circuitBreaker slot :: rest =>
      ((s.circuitsAt slot).admission? c.key s.now).map fun admission =>
        { a with rest }.within (.circuit slot admission) a.token
          (s.updateCircuits slot (·.arrive c.key s.now))
  | .concurrencyLimit slot :: rest =>
      if (s.limiterAt slot).isExhausted then none
      else some ({ a with rest }.within (.permit slot) a.token (s.updateLimiter slot (·.take)))
  | .interceptor i :: rest => inv.meet? i { a with rest }

/-- An attempt comes from one place on its way in to another. -/
abbrev Descends (inv : Invocation) : Approach → Approach → Prop :=
  Relation.ReflTransGen fun a b => inv.next? a = some b

/-- Where an attempt that had waited on its way in goes on, if it does so now. -/
def resumption? (inv : Invocation) (span : Option Trace.Span) : Flight → State → Option Approach
  | .within frame inner, s =>
      (inv.resumption? (frame.span span) inner s).map fun a =>
        { a with outer := span, frames := frame :: a.frames }
  | .entering due i token rest, s =>
      if due ≤ s.now then inv.inside? i ⟨span, [], rest, token, s⟩ else none
  | .working _ _ _, _ => none
  | .leaving _ _ _, _ => none

variable {inv : Invocation} {a b : Approach}

/-- The decorator that has been entered last is the first to be left. What the others make of it is
the same as before. -/
theorem enclose_concat (span : Option Trace.Span) (frames : List Frame) (frame : Frame)
    (r : State × Reply) :
    inv.enclose span (frames ++ [frame]) r =
      inv.enclose span frames
        (inv.around (frames.foldl (fun span frame => frame.span span) span) frame r) := by
  induction frames generalizing span with
  | nil => rfl
  | cons first frames ih => simp only [List.cons_append, enclose, ih, List.foldl_cons]

/-- What the attempt as a whole comes to from a place on its way in: the answer of the rest, passed
through the decorators around it. It does not change on the way. -/
def whole (inv : Invocation) (a : Approach) : State × Reply :=
  inv.enclose a.outer a.frames (inv.answer a)

/-- Once a decorator has been entered, it makes its part of the answer of the rest. So entering one
moves it from the recursion of `enter` to the frames of `enclose`. -/
theorem whole_within (frame : Frame) (token : Token) (s : State) :
    inv.whole (a.within frame token s) =
      inv.enclose a.outer a.frames
        (inv.around a.span frame (inv.enter (frame.span a.span) a.rest token s)) := by
  simp only [whole, answer, Approach.span_within]
  exact enclose_concat _ _ _ _

/-- Going on inside an interceptor does not change what the attempt comes to. The interceptor gets
its say on the way out either way. -/
theorem proceed_eq_of_inside {i : Interceptor} (goesOn : inv.inside? i a = some b) :
    inv.enclose a.outer a.frames (inv.proceed a.span i a.token
      (fun token s => inv.enter a.span a.rest token s) a.state) = inv.whole b := by
  simp only [inside?] at goesOn
  split at goesOn
  · cases goesOn
  · next silent =>
    split at goesOn
    · next detaches =>
      rw [← Option.some.inj goesOn, whole_within]
      simp only [proceed, silent, detaches, if_true, Frame.span]
    · next keeps =>
      rw [← Option.some.inj goesOn, whole_within]
      simp only [proceed, silent, keeps, if_false, Frame.span, Bool.false_eq_true]

/-- Nor does meeting one that lets the attempt on at once. One that does not apply is passed without
being entered. -/
theorem meet_eq_of_meet {i : Interceptor} (goesOn : inv.meet? i a = some b) :
    inv.enclose a.outer a.frames (inv.meet a.span i a.token a.rest
      (fun token s => inv.enter a.span a.rest token s) a.state) = inv.whole b := by
  simp only [meet?] at goesOn
  split at goesOn
  · next applies =>
    split at goesOn
    · next atOnce =>
      rw [← proceed_eq_of_inside goesOn]
      simp only [meet, applies, atOnce, if_true]
      rfl
    · cases goesOn
  · next passes =>
    rw [← Option.some.inj goesOn]
    simp only [meet, passes, if_false, Bool.false_eq_true]
    rfl

/-- A step on the way in does not change what the attempt comes to. There is one case for each kind
of decorator. -/
theorem whole_next (step : inv.next? a = some b) : inv.whole b = inv.whole a := by
  obtain ⟨outer, frames, rest, token, s⟩ := a
  cases rest with
  | nil => cases step
  | cons d rest =>
    cases d with
    | logging router =>
      rw [← Option.some.inj step, whole_within]
      rfl
    | timeout limit =>
      rw [← Option.some.inj step, whole_within]
      rfl
    | circuitBreaker slot =>
      simp only [next?] at step
      obtain ⟨admission, admitted, rfl⟩ := Option.map_eq_some_iff.mp step
      rw [whole_within]
      simp only [whole, answer, enter, admitted]
      rfl
    | concurrencyLimit slot =>
      simp only [next?] at step
      split at step
      · cases step
      · next free =>
        rw [← Option.some.inj step, whole_within]
        simp only [whole, answer, enter, free, if_false, Bool.false_eq_true]
        rfl
    | interceptor i =>
      simp only [next?] at step
      rw [← meet_eq_of_meet step]
      rfl

/-- Nor does the way from one place to another, by induction on its steps. -/
theorem Descends.whole_eq (way : inv.Descends a b) : inv.whole b = inv.whole a := by
  induction way with
  | refl => rfl
  | tail _ step ih => exact (whole_next step).trans ih

/-- Wherever an attempt comes to on its way in, its answer is that of the rest of the chain, passed
through the decorators it is inside of. So an attempt can be followed inwards first and outwards
afterwards. -/
theorem enter_eq_enclose {span : Option Trace.Span} {decorators : List Decorator} {token : Token}
    {s : State} (way : inv.Descends ⟨span, [], decorators, token, s⟩ a) :
    inv.enter span decorators token s = inv.enclose a.outer a.frames (inv.answer a) :=
  way.whole_eq.symm

/-- An attempt that goes on is in the span that it had waited in. The spans inside that one are kept
by its frames. -/
theorem outer_of_resumption {span : Option Trace.Span} {flight : Flight} {s : State}
    (again : inv.resumption? span flight s = some a) : a.outer = span := by
  cases flight with
  | within frame inner =>
    simp only [resumption?] at again
    obtain ⟨deeper, -, rfl⟩ := Option.map_eq_some_iff.mp again
    rfl
  | entering due i token rest =>
    simp only [resumption?] at again
    split at again
    · simp only [inside?] at again
      split at again
      · cases again
      · split at again
        · rw [← Option.some.inj again]
          rfl
        · rw [← Option.some.inj again]
          rfl
    · cases again
  | working due token o => cases again
  | leaving due i o => cases again

/-- An attempt that had waited on its way in answers what the rest of the chain does where it goes
on, passed through the decorators it is inside of. The induction follows the decorators that it had
waited in. -/
theorem resume_eq_enclose {span : Option Trace.Span} {flight : Flight} {s : State}
    (again : inv.resumption? span flight s = some a) (way : inv.Descends a b) :
    inv.resume span flight s = inv.enclose b.outer b.frames (inv.answer b) := by
  refine Eq.trans ?_ way.whole_eq.symm
  clear way
  induction flight generalizing span a with
  | within frame inner ih =>
    simp only [resumption?] at again
    obtain ⟨deeper, found, rfl⟩ := Option.map_eq_some_iff.mp again
    have outer : deeper.outer = frame.span span := outer_of_resumption found
    have same : inv.answer { deeper with outer := span, frames := frame :: deeper.frames } =
        inv.answer deeper := by
      simp only [answer, Approach.span, List.foldl_cons, outer]
    rw [resume, ih found, whole, whole, same, outer]
    rfl
  | entering due i token rest =>
    simp only [resumption?] at again
    split at again
    · next isDue =>
      rw [← proceed_eq_of_inside again]
      simp only [resume, isDue, if_true]
      rfl
    · cases again
  | working due token o => cases again
  | leaving due i o => cases again

/-- While no time bound runs out, decorators wait with their inside. What waits outside is then the
same work in the same frames. -/
theorem enclose_waits {s : State} {frames : List Frame} (span : Option Trace.Span)
    (flight : Flight) (inTime : ∀ frame ∈ frames, frame.isExpired s.now = false) :
    inv.enclose span frames (s, .pending flight) = (s, .pending (flight.nested frames)) := by
  induction frames generalizing span with
  | nil => rfl
  | cons frame frames ih =>
    obtain ⟨own, others⟩ := List.forall_mem_cons.mp inTime
    rw [enclose, ih (frame.span span) others]
    simp only [around, own]
    rfl

/-- An attempt that waits inside decorators is resumed from the inside, and what its inside comes to
is passed outwards. -/
theorem resume_nested (span : Option Trace.Span) (frames : List Frame) (flight : Flight)
    (s : State) : inv.resume span (flight.nested frames) s =
      inv.enclose span frames
        (inv.resume (frames.foldl (fun span frame => frame.span span) span) flight s) := by
  induction frames generalizing span with
  | nil => rfl
  | cons frame frames ih => exact congrArg (inv.around span frame) (ih (frame.span span))

end Invocation

end TrialRouting
