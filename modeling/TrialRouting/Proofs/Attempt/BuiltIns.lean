import TrialRouting.Proofs.Attempt.Effects
import TrialRouting.Proofs.Attempt.Runs
import TrialRouting.Router

/-!
# Built-in decorators keep results

Logging, time bounds, circuits and limits never make a result of their own out of the one that the
implementation has returned. A whole run of an attempt inside them ends in one of few ways: with
the very result of the work, which has then been called once and has not been dropped; with the
failure of a time bound, or of a cancelled token, for which the work was dropped; or with a failure
that a circuit, a limit or the check before the call has raised, without any call.

The proof first follows the attempt on its way in, on which nothing is written, and then what the
decorators it is inside of make of the work, from the inside out.
-/

namespace TrialRouting

/-- Whether a decorator is one of those that come with the router. -/
def Decorator.isBuiltIn : Decorator → Bool
  | .interceptor _ => false
  | _ => true

/-- A frame of one of some built-in decorators. -/
def Frame.Of (decorators : List Decorator) : Frame → Prop
  | .timeout _ _ limit => .timeout limit ∈ decorators
  | .intercepted _ => False
  | _ => True

/-- A flight inside frames of built-in decorators, around work that comes to an outcome. The outcome
is settled when the work starts; whether the attempt ever gets it depends on the time. -/
inductive Flight.WorksTo (decorators : List Decorator) (o : Outcome) : Flight → Prop where
  | working (due : Option Instant) (token : Token) : WorksTo decorators o (.working due token o)
  | within {frame : Frame} {inner : Flight} (own : frame.Of decorators)
      (inside : inner.WorksTo decorators o) : WorksTo decorators o (.within frame inner)

/-- An attempt on its way in that has written nothing beyond some lines. -/
structure Approach.Quiet (decorators : List Decorator) (lines : List Note) (a : Approach) :
    Prop where
  frames : ∀ frame ∈ a.frames, frame.Of decorators
  rest : ∀ d ∈ a.rest, d ∈ decorators
  journal : a.state.journal = lines

namespace Invocation

variable {inv : Invocation} {decorators : List Decorator} {lines : List Note} {o : Outcome}
  {a b : Approach} {s : State} {frame : Frame} {span : Option Trace.Span}

/-! ### The way in -/

/-- Entering a built-in decorator writes nothing in the journal. Only interceptors make remarks. -/
theorem quiet_next (builtIn : ∀ d ∈ decorators, d.isBuiltIn = true)
    (quiet : a.Quiet decorators lines) (step : inv.next? a = some b) :
    b.Quiet decorators lines := by
  obtain ⟨outer, frames, rest, token, s⟩ := a
  have entered {frame : Frame} {inner : Token} {s' : State} {rest' : List Decorator}
      (own : frame.Of decorators) (same : s'.journal = s.journal) (fewer : rest' ⊆ rest) :
      (Approach.within ⟨outer, frames, rest', token, s⟩ frame inner s').Quiet decorators lines := by
    refine ⟨?_, fun d member => quiet.rest d (fewer member), same.trans quiet.journal⟩
    intro f member
    rcases List.mem_append.mp member with before | new
    · exact quiet.frames f before
    · rw [List.mem_singleton.mp new]
      exact own
  cases rest with
  | nil => cases step
  | cons d rest =>
    have mem : d ∈ decorators := quiet.rest d List.mem_cons_self
    have fewer : rest ⊆ d :: rest := List.subset_cons_self d rest
    cases d with
    | logging router =>
      rw [← Option.some.inj step]
      exact entered trivial rfl fewer
    | timeout limit =>
      rw [← Option.some.inj step]
      have own : Frame.Of decorators
          (.timeout (s.tokens.nextChild token) (s.timer.due? s.now limit) limit) := mem
      exact entered own rfl fewer
    | circuitBreaker slot =>
      simp only [next?] at step
      obtain ⟨admission, -, rfl⟩ := Option.map_eq_some_iff.mp step
      exact entered trivial rfl fewer
    | concurrencyLimit slot =>
      simp only [next?] at step
      split at step
      · cases step
      · rw [← Option.some.inj step]
        exact entered trivial rfl fewer
    | interceptor i => cases builtIn _ mem

/-- So does the whole way through built-in decorators: as long as the work has not begun, the
journal is what it was. -/
theorem quiet_of_descends (builtIn : ∀ d ∈ decorators, d.isBuiltIn = true)
    (quiet : a.Quiet decorators lines) (way : inv.Descends a b) : b.Quiet decorators lines := by
  induction way with
  | refl => exact quiet
  | tail _ step ih => exact quiet_next builtIn ih step

/-! ### The way out -/

/-- A built-in decorator passes on what its inside has come to, and writes nothing. It may settle at
its circuit or give back a permit; neither is seen by the caller. -/
theorem leave_of_builtIn (own : frame.Of decorators) (span : Option Trace.Span) (o : Outcome)
    (s : State) : ∃ t, inv.leave span frame o s = (t, .done o) ∧ t.journal = s.journal := by
  cases frame with
  | logging own since => cases o <;> exact ⟨_, rfl, rfl⟩
  | timeout token due limit => exact ⟨s, rfl, rfl⟩
  | circuit slot admission =>
    obtain ⟨entries, settled⟩ := inv.settleCircuit_eq span slot admission o s
    exact ⟨_, congrArg (·, Reply.done o) settled, rfl⟩
  | permit slot => exact ⟨_, rfl, rfl⟩
  | intercepted i => cases own

/-- So do all of them, from the inside out. The outcome of the work is that of the attempt, if the
work comes to it. -/
theorem enclose_done {frames : List Frame} (own : ∀ frame ∈ frames, frame.Of decorators)
    (span : Option Trace.Span) (o : Outcome) (s : State) :
    ∃ t, inv.enclose span frames (s, .done o) = (t, .done o) ∧ t.journal = s.journal := by
  induction frames generalizing span with
  | nil => exact ⟨s, rfl, rfl⟩
  | cons frame frames ih =>
    obtain ⟨own, others⟩ := List.forall_mem_cons.mp own
    obtain ⟨t, inside, same⟩ := ih others (frame.span span)
    obtain ⟨u, left, same'⟩ := inv.leave_of_builtIn own span o t
    refine ⟨u, ?_, same'.trans same⟩
    rw [enclose, inside]
    exact left

/-- Taking down an attempt whose work goes on writes that the work is dropped, and nothing else,
however many decorators are around it. -/
theorem journal_abandon {flight : Flight} (works : flight.WorksTo decorators o) (s : State) :
    (inv.abandon flight s).journal = s.journal ++ [inv.work.dropped] := by
  induction works with
  | working due token => rfl
  | @within frame inner own inside ih =>
    rw [← ih]
    cases frame <;> rfl

/-- What has become of work that comes to an outcome, some lines having been written since it
started. -/
inductive Continues (inv : Invocation) (decorators : List Decorator) (o : Outcome)
    (lines : List Note) : State × Reply → Prop where
  /-- It is done, and the outcome is what the attempt has come to. -/
  | answered {t : State} (journal : t.journal = lines) :
      Continues inv decorators o lines (t, .done o)
  | cancelled {t : State} (journal : t.journal = lines ++ [inv.work.dropped]) :
      Continues inv decorators o lines (t, .done (.error cancelledFailure))
  /-- One of the time bounds has run out. -/
  | expired {t : State} {limit : Duration} (bound : .timeout limit ∈ decorators)
      (journal : t.journal = lines ++ [inv.work.dropped]) :
      Continues inv decorators o lines
        (t, .done (.error (.routing (.timeout inv.context.key limit.millis))))
  | waits {t : State} {flight : Flight} (journal : t.journal = lines)
      (works : flight.WorksTo decorators o) :
      Continues inv decorators o lines (t, .pending flight)

/-- What has become of the work inside a decorator has become of it outside, unless the decorator is
a time bound that has run out. Then the work has been dropped, and the failure is the bound's. -/
theorem Continues.around {r : State × Reply} (inside : inv.Continues decorators o lines r)
    (own : frame.Of decorators) (span : Option Trace.Span) :
    inv.Continues decorators o lines (inv.around span frame r) := by
  have passes (o' : Outcome) (t : State) :
      ∃ u, inv.around span frame (t, .done o') = (u, .done o') ∧ u.journal = t.journal :=
    inv.leave_of_builtIn own span o' t
  cases inside with
  | @answered t journal =>
    obtain ⟨u, left, same⟩ := passes o t
    rw [left]
    exact .answered (same.trans journal)
  | @cancelled t journal =>
    obtain ⟨u, left, same⟩ := passes (.error cancelledFailure) t
    rw [left]
    exact .cancelled (same.trans journal)
  | @expired t limit bound journal =>
    obtain ⟨u, left, same⟩ := passes (.error (.routing (.timeout inv.context.key limit.millis))) t
    rw [left]
    exact .expired bound (same.trans journal)
  | @waits t flight journal works =>
    have waiting : inv.Continues decorators o lines (t, .pending (.within frame flight)) :=
      .waits journal (.within own works)
    simp only [Invocation.around]
    split
    · cases frame with
      | timeout token due limit =>
        exact .expired own ((journal_abandon works t).trans (by rw [journal]))
      | _ => exact waiting
    · exact waiting

/-- The same goes for all decorators around the work, from the inside out. At most one of them cuts
it off, since after that nothing waits. -/
theorem Continues.enclose {r : State × Reply} (inside : inv.Continues decorators o lines r)
    {frames : List Frame} (own : ∀ frame ∈ frames, frame.Of decorators)
    (span : Option Trace.Span) :
    inv.Continues decorators o lines (inv.enclose span frames r) := by
  induction frames generalizing span with
  | nil => exact inside
  | cons frame frames ih =>
    obtain ⟨own, others⟩ := List.forall_mem_cons.mp own
    exact (ih others (frame.span span)).around own span

/-- Work that has been going on is done, dropped, or goes on. The induction follows the flight from
the outside to the work. -/
theorem continues_resume {flight : Flight} (works : flight.WorksTo decorators o)
    (span : Option Trace.Span) (s : State) :
    inv.Continues decorators o s.journal (inv.resume span flight s) := by
  induction works generalizing span with
  | working due token =>
    simp only [resume]
    split
    · exact .cancelled rfl
    · split
      · exact .answered rfl
      · exact .waits rfl (.working due token)
  | within own inside ih => exact (ih _).around own span

/-- Work that is started comes to what it would come to, at once if it takes no time, and otherwise
when it is due. -/
theorem continues_begin {token : Token} (live : s.isCancelled token = false) :
    inv.Continues decorators (inv.work.behavior s).outcome (s.journal ++ [inv.work.began])
      (inv.begin token s) := by
  have started : (inv.work.start s inv.caller token).journal =
      s.journal ++ [inv.work.began] := by
    have handed (t : State) :
        (if inv.work.handsOut then t.handOut token else t).journal = t.journal := by
      split <;> rfl
    have cancelled (b : Bool) (t : State) :
        (if b then t.cancel inv.caller else t).journal = t.journal := by
      split <;> rfl
    simp only [Work.start, cancelled, handed]
    cases inv.work <;> rfl
  simp only [begin, live, if_false, Bool.false_eq_true]
  split
  · exact .waits started (.working none token)
  · split
    · exact .answered started
    · exact .waits started (.working _ token)

/-! ### Whole runs -/

/-- How an attempt that is let in as far as a place comes to its outcome, and what it writes. -/
inductive Verdict (inv : Invocation) (decorators : List Decorator) (a : Approach) :
    List Note → Outcome → Prop where
  /-- The work is called, once, and its own result is the attempt's. -/
  | own (reached : a.rest = []) (live : a.state.isCancelled a.token = false) :
      Verdict inv decorators a [inv.work.began] (inv.work.behavior a.state).outcome
  /-- The work is called, and dropped when a time bound runs out. -/
  | expired {limit : Duration} (reached : a.rest = [])
      (live : a.state.isCancelled a.token = false) (bound : .timeout limit ∈ decorators) :
      Verdict inv decorators a [inv.work.began, inv.work.dropped]
        (.error (.routing (.timeout inv.context.key limit.millis)))
  /-- The work is called, and dropped when its token is cancelled. -/
  | cancelled (reached : a.rest = []) (live : a.state.isCancelled a.token = false) :
      Verdict inv decorators a [inv.work.began, inv.work.dropped] (.error cancelledFailure)
  /-- The work is not called, since its token has been cancelled before. -/
  | stopped (reached : a.rest = []) (dead : a.state.isCancelled a.token = true) :
      Verdict inv decorators a [] (.error cancelledFailure)
  /-- The work is not called, since a circuit is open. -/
  | circuitOpen {slot : Nat} {rest : List Decorator}
      (next : a.rest = .circuitBreaker slot :: rest) :
      Verdict inv decorators a []
        (.error (.routing (.circuitOpen inv.context.service inv.context.key)))
  /-- The work is not called, since a limit has been reached. -/
  | overloaded {slot : Nat} {rest : List Decorator}
      (next : a.rest = .concurrencyLimit slot :: rest) :
      Verdict inv decorators a [] (.error (.routing .overloaded))

/-- What has become of an attempt in the course of a run. -/
inductive Stands (inv : Invocation) (decorators : List Decorator) (a : Approach) :
    List Note → Reply → Prop where
  | done {lines : List Note} {o : Outcome} (verdict : inv.Verdict decorators a lines o) :
      Stands inv decorators a lines (.done o)
  | pending {flight : Flight} (reached : a.rest = [])
      (live : a.state.isCancelled a.token = false)
      (works : flight.WorksTo decorators (inv.work.behavior a.state).outcome) :
      Stands inv decorators a [inv.work.began] (.pending flight)

/-- What has become of the work is what has become of the attempt, which has got as far as the
work. -/
theorem Continues.stands {r : State × Reply} (reached : a.rest = [])
    (live : a.state.isCancelled a.token = false)
    (continues : inv.Continues decorators (inv.work.behavior a.state).outcome lines r) :
    ∃ more, r.1.journal = lines ++ more ∧
      inv.Stands decorators a (inv.work.began :: more) r.2 := by
  cases continues with
  | answered journal =>
    exact ⟨[], by rw [List.append_nil, journal], .done (.own reached live)⟩
  | cancelled journal => exact ⟨_, journal, .done (.cancelled reached live)⟩
  | expired bound journal => exact ⟨_, journal, .done (.expired reached live bound)⟩
  | waits journal works =>
    exact ⟨[], by rw [List.append_nil, journal], .pending reached live works⟩

/-- Where an attempt stands once it has been entered: it has been turned away on the way in, without
a call, or the work has been called and its outcome is on its way out. -/
theorem stands_enter (builtIn : ∀ d ∈ decorators, d.isBuiltIn = true) {token : Token}
    (way : inv.Descends ⟨span, [], decorators, token, s⟩ a) (innermost : inv.next? a = none) :
    inv.Stands decorators a (s.added (inv.enter span decorators token s).1)
      (inv.enter span decorators token s).2 := by
  have quiet : a.Quiet decorators s.journal :=
    quiet_of_descends builtIn ⟨fun _ none => absurd none List.not_mem_nil, fun _ mem => mem, rfl⟩
      way
  have refused {e : Failure} {t : State} (answer : inv.answer a = (t, .done (.error e)))
      (silent : t.journal = a.state.journal) (verdict : inv.Verdict decorators a [] (.error e)) :
      inv.Stands decorators a (s.added (inv.enter span decorators token s).1)
        (inv.enter span decorators token s).2 := by
    obtain ⟨u, out, same⟩ := inv.enclose_done quiet.frames a.outer (.error e) t
    have unwritten : u.journal = s.journal ++ [] := by
      rw [same, silent, quiet.journal, List.append_nil]
    rw [enter_eq_enclose way, answer, out, State.added_eq unwritten]
    exact .done verdict
  cases reached : a.rest with
  | nil =>
    have begins : inv.answer a = inv.begin a.token a.state := by rw [answer, reached, enter]
    cases live : a.state.isCancelled a.token with
    | true =>
      refine refused ?_ rfl (.stopped reached live)
      simp only [begins, begin, live, if_true]
    | false =>
      have begun : inv.Continues decorators (inv.work.behavior a.state).outcome
        (a.state.journal ++ [inv.work.began]) (inv.begin a.token a.state) := continues_begin live
      obtain ⟨more, journal, stands⟩ := (begun.enclose quiet.frames a.outer).stands reached live
      rw [quiet.journal, List.append_assoc, List.singleton_append] at journal
      rw [enter_eq_enclose way, begins, State.added_eq journal]
      exact stands
  | cons d rest =>
    have mem : d ∈ decorators := quiet.rest d (reached ▸ List.mem_cons_self)
    cases d with
    | logging router => simp only [next?, reached, reduceCtorEq] at innermost
    | timeout limit => simp only [next?, reached, reduceCtorEq] at innermost
    | circuitBreaker slot =>
      simp only [next?, reached, Option.map_eq_none_iff] at innermost
      have answer := inv.enter_of_rejected a.span slot rest a.token a.state innermost
      rw [← reached] at answer
      exact refused answer rfl (.circuitOpen reached)
    | concurrencyLimit slot =>
      simp only [next?, reached] at innermost
      split at innermost
      · next exhausted =>
        have answer : inv.answer a =
            (a.state.emit a.span
              ⟨.debug, "concurrency limit reached, attempt rejected", inv.serviceAndKey⟩,
              .done (.error (.routing .overloaded))) := by
          simp only [answer, reached, enter, exhausted, if_true]
        exact refused answer rfl (.overloaded reached)
      · cases innermost
    | interceptor i => cases builtIn _ mem

/-- Where a run of an attempt stands, by induction on its turns. Each turn finds the attempt waiting
and leaves it done or waiting as before. -/
theorem Runs.stands (builtIn : ∀ d ∈ decorators, d.isBuiltIn = true) {token : Token}
    {r : State × Reply} (way : inv.Descends ⟨span, [], decorators, token, s⟩ a)
    (innermost : inv.next? a = none) (runs : inv.Runs span decorators token s lines r) :
    inv.Stands decorators a lines r.2 := by
  induction runs with
  | entered => exact stands_enter builtIn way innermost
  | @resumed lines t flight before u ih =>
    cases ih with
    | pending reached live works =>
      obtain ⟨more, journal, stands⟩ := (inv.continues_resume works span u).stands reached live
      rw [State.added_eq journal]
      exact stands

/-! ### What the caller gets -/

/-- A failure that leaves no key to fall back to is the call's outcome as it is, unless the caller
has cancelled the call. Neither the fallback nor the end of the call puts anything else in its
place. -/
theorem outcome_of_conclude {router : Router} {call : Call} {c : Course} {f : Failure}
    {s t : State} {o : Outcome} (live : s.isCancelled call.token = false)
    (last : router.conclude call c (.completed (.error f)) s = (t, .inl o)) : o = .error f := by
  simp only [Router.conclude, Router.verdict?, Router.noteExpiry, Router.isFailure, live,
    Bool.and_false, Bool.false_eq_true, if_false] at last
  cases advanced : (c.progress.advance router.registration (.error f : Outcome)
      (.error router.registration.onError)) with
  | mk progress move =>
    simp only [advanced] at last
    simp only [Progress.advance] at advanced
    split at advanced
    · cases advanced
      cases last
      rfl
    · cases advanced
      cases last

/-- Built-in decorators never alter a result. However a whole run of an attempt through them comes
to its outcome, it is one of the six ways of a verdict: the result that the work's own call has
returned, the work having been called exactly once; or the failure of a time bound or of a cancelled
token, for which the work was dropped; or a failure raised before the call, and then the work has
not been called at all. A fault of the implementation's own kind that leaves no key to fall back to
is handed to the caller as the very same error.

Proof: on its way in the attempt writes nothing, and stops at the decorator that turns it away, or
at the work. From there its outcome goes outwards through one frame after the other, each of which
passes it on or, if it is a time bound that has run out, puts its own failure in its place when the
work has been dropped. So the first turn ends in one of the six ways or waits inside the same
frames, and by induction on the turns so does every run. -/
theorem builtIns_keep_results (builtIn : ∀ d ∈ decorators, d.isBuiltIn = true) {token : Token}
    {t : State} (runs : inv.Runs span decorators token s lines (t, .done o)) :
    (∃ a, inv.Descends ⟨span, [], decorators, token, s⟩ a ∧ inv.next? a = none ∧
      inv.Verdict decorators a lines o) ∧
    ∀ text, o = .error (.implementation (.own text)) →
      ∀ (router : Router) (call : Call) (c : Course) (u v : State) (last : Outcome),
        u.isCancelled call.token = false →
        router.conclude call c (.completed o) u = (v, .inl last) →
        call.result last = .error (.fault text) := by
  constructor
  · obtain ⟨a, way, innermost⟩ := inv.exists_innermost ⟨span, [], decorators, token, s⟩
    have stands := runs.stands builtIn way innermost
    cases stands with
    | done verdict => exact ⟨a, way, innermost, verdict⟩
  · rintro text rfl router call c u v last live concluded
    rw [outcome_of_conclude live concluded]
    rfl

/-- An attempt that takes some time and then fails. -/
def slowFailure : Invocation where
  context := .primary 0 "greeter" "greet" "flag" "true" ["true"]
  caller := ⟨0, []⟩
  work := .bare "true" { pause := 3, outcome := .error (.implementation (.own "no")) } false

/-- One of each built-in decorator. -/
def builtIns : List Decorator :=
  [.logging "demo", .timeout (.ofMillis 5), .circuitBreaker 0, .concurrencyLimit 0]

/-- A closed circuit and a permit for those of the built-in decorators that need them. -/
def builtInsStart : State where
  tokens := { issued := 1 }
  circuits := [{ config := {} }]
  limiters := [.full 1]

/-- The fault that is raised after three milliseconds passes through all built-in decorators. -/
theorem builtIns_keep_slow_failure :
    ∃ lines t o, slowFailure.Runs none builtIns ⟨0, []⟩ builtInsStart lines (t, .done o) ∧
      o = .error (.implementation (.own "no")) ∧
      ∃ a, slowFailure.Descends ⟨none, [], builtIns, ⟨0, []⟩, builtInsStart⟩ a ∧
        slowFailure.next? a = none ∧ slowFailure.Verdict builtIns a lines o := by
  have builtIn : ∀ d ∈ builtIns, d.isBuiltIn = true := by decide
  obtain ⟨t, flight, entered, u, v, resumed⟩ : ∃ t flight,
      slowFailure.enter none builtIns ⟨0, []⟩ builtInsStart = (t, .pending flight) ∧
        ∃ u v, slowFailure.resume none flight u =
          (v, .done (.error (.implementation (.own "no")))) :=
    ⟨_, _, rfl, { builtInsStart with now := 3 }, _, rfl⟩
  have before : slowFailure.Runs none builtIns ⟨0, []⟩ builtInsStart _ _ := .entered
  rw [entered] at before
  have runs := before.resumed u
  rw [resumed] at runs
  exact ⟨_, v, _, runs, rfl, (builtIns_keep_results builtIn runs).1⟩

end Invocation

end TrialRouting
