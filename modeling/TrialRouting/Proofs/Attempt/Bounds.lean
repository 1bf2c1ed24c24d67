import TrialRouting.Proofs.Attempt.Runs
import TrialRouting.Proofs.Tokens

/-!
# Stacked time bounds

Time bounds and logging around a piece of work act like the smallest bound alone, in whatever order
they are stacked. Work that takes no longer than that comes to its own result when it is done.
Otherwise the attempt fails when the smallest bound has run out, the work has been dropped, and its
token is cancelled.

All bounds count from the same instant, since entering them takes no time, and each is due when its
own time is over, as the work is. A run is on time if the clock never passes by something that is
due. So at each turn either nothing is due yet, or the clock stands at the least of these instants:
then the work is done if it is due, and otherwise the innermost bound that is due cuts it off.

How long a bound lasts is for the timer to say. Within the timer's range it is the bound itself.
One that ends beyond the range, such as the longest duration there is, is no obstacle to the
argument: the timer puts some length of its own in its place, or never ends it, and the smallest
bound is the smallest of what the timer keeps.
-/

namespace TrialRouting

/-- How long the work takes, unless it never ends. -/
def Behavior.time? (b : Behavior) : Option Nat :=
  if b.hangs then none else some b.pause

/-- A bound on the time of an attempt: the limit that a decorator sets, and for how many
milliseconds the timer keeps it. -/
structure Bound where
  limit : Duration
  millis : Nat
  deriving DecidableEq

namespace Decorator

/-- A decorator that logs, or bounds the time of an attempt. -/
inductive Timed : Decorator → Prop where
  | logging (router : String) : Timed (.logging router)
  | timeout (limit : Duration) : Timed (.timeout limit)

/-- The bound that a decorator entered now puts on an attempt, if it ever cuts it off. -/
def bound? (timer : Timer) (now : Instant) : Decorator → Option Bound
  | .timeout limit => (timer.lasts? now limit).map fun millis => { limit, millis }
  | _ => none

/-- The bounds of a list of decorators, outermost first. -/
def bounds (timer : Timer) (now : Instant) (decorators : List Decorator) : List Bound :=
  decorators.filterMap (bound? timer now)

variable {timer : Timer} {now : Instant} {d : Decorator} {decorators : List Decorator} {b : Bound}

end Decorator

/-- When a decorator cuts off its inside. -/
def Frame.due? : Frame → Option Instant
  | .timeout _ due _ => due
  | _ => none

/-- A frame of a decorator that logs or bounds the time, entered at an instant around work with a
token. If the timer ever ends its bound, that is one of the given bounds. -/
inductive Frame.Timed (start : Instant) (bounds : List Bound) (token : Token) : Frame → Prop where
  | logging (span : Trace.Span) (since : Instant) : Timed start bounds token (.logging span since)
  | kept {own : Token} {b : Bound} (above : own.id ∈ token.id :: token.above) (known : b ∈ bounds) :
      Timed start bounds token (.timeout own (some (start + b.millis)) b.limit)
  | endless (own : Token) (limit : Duration) :
      Timed start bounds token (.timeout own none limit)

/-- With more bounds around, a frame is what it was. The bounds only grow as further decorators are
entered. -/
theorem Frame.Timed.mono {start : Instant} {bounds more : List Bound} {token : Token}
    {frame : Frame} (timed : frame.Timed start bounds token) (among : bounds ⊆ more) :
    frame.Timed start more token := by
  cases timed with
  | logging span since => exact .logging span since
  | kept above known => exact .kept above (among known)
  | endless own limit => exact .endless own limit

/-- A flight inside decorators waits for what they and its inside wait for. A run on time does not
let the clock pass by any of these. -/
theorem Flight.timers_nested (frames : List Frame) (flight : Flight) :
    (flight.nested frames).timers = frames.filterMap (·.due?) ++ flight.timers := by
  induction frames with
  | nil => rfl
  | cons frame frames ih =>
    have further : (flight.nested (frame :: frames)).timers =
        frame.due?.toList ++ (flight.nested frames).timers := by
      cases frame <;> rfl
    rw [further, ih]
    cases due : frame.due? <;> simp [due]

namespace Invocation

variable {inv : Invocation} {span : Option Trace.Span} {decorators : List Decorator}
  {token : Token} {s t : State} {frames : List Frame} {a : Approach} {lines : List Note}
  {o : Outcome} {start : Instant} {bounds : List Bound}

/-- The turns of an attempt in the course of which the clock never passes by anything that the
attempt waits for, and nobody cancels the token that the work has got. -/
inductive RunsOnTime (inv : Invocation) (span : Option Trace.Span) (decorators : List Decorator)
    (token given : Token) (s : State) : List Note → State × Reply → Prop where
  | entered : RunsOnTime inv span decorators token given s
      (s.added (inv.enter span decorators token s).1) (inv.enter span decorators token s)
  | resumed {lines : List Note} {t : State} {flight : Flight}
      (before : RunsOnTime inv span decorators token given s lines (t, .pending flight)) {u : State}
      (later : t.now ≤ u.now) (onTime : ∀ due ∈ flight.timers, u.now ≤ due)
      (live : u.isCancelled given = false) :
      RunsOnTime inv span decorators token given s
        (lines ++ u.added (inv.resume span flight u).1) (inv.resume span flight u)

/-! ### The way in -/

/-- Decorators that log and bound the time have let an attempt through from one place to the work.
It has taken no time, and the tokens of the bounds are those between the token that the attempt had
there and the one that the work gets. -/
structure Through (inv : Invocation) (a b : Approach) : Prop where
  way : inv.Descends a b
  rest : b.rest = []
  outer : b.outer = a.outer
  held : b.state.tokens.Holds b.token
  below : a.token.id :: a.token.above ⊆ b.token.id :: b.token.above
  now : b.state.now = a.state.now
  journal : b.state.journal = a.state.journal
  catalog : b.state.catalog = a.state.catalog
  frames : ∃ more, b.frames = a.frames ++ more ∧
    (∀ frame ∈ more, frame.Timed a.state.now
      (Decorator.bounds a.state.timer a.state.now a.rest) b.token) ∧
    more.filterMap (·.due?) = (Decorator.bounds a.state.timer a.state.now a.rest).map
      (a.state.now + ·.millis)

/-- The bounds that a whole attempt is inside of are those of all its decorators, each due when its
own time is over, counted from the beginning. -/
theorem Through.frames_eq (through : inv.Through ⟨span, [], decorators, token, s⟩ a) :
    (∀ frame ∈ a.frames, frame.Timed s.now (Decorator.bounds s.timer s.now decorators) a.token) ∧
      a.frames.filterMap (·.due?) =
        (Decorator.bounds s.timer s.now decorators).map (s.now + ·.millis) := by
  obtain ⟨more, frames, timed, due⟩ := through.frames
  rw [frames, List.nil_append]
  exact ⟨timed, due⟩

/-! ### The way out -/

/-- A decorator that logs or bounds the time passes a result on, and at most traces it. A bound that
comes to its result in time has nothing to say. -/
theorem leave_of_timed {frame : Frame} (timed : frame.Timed start bounds token)
    (span : Option Trace.Span) (o : Outcome) (t : State) :
    ∃ entries, inv.leave span frame o t =
      ({ t with trace := t.trace ++ entries }, .done o) := by
  have silent : ({ t with trace := t.trace ++ [] } : State) = t := by rw [List.append_nil]
  cases timed with
  | logging own since =>
    cases o <;> exact ⟨_, by
      simp only [leave, logOutcome, State.emit, State.record, List.append_assoc]
      rfl⟩
  | kept above known => exact ⟨[], by rw [silent]; rfl⟩
  | endless own limit => exact ⟨[], by rw [silent]; rfl⟩

/-- So do all of them, by induction from the inside out. What they trace does not matter to the
caller. -/
theorem enclose_of_timed_done (timed : ∀ frame ∈ frames, frame.Timed start bounds token)
    (span : Option Trace.Span) (o : Outcome) (t : State) :
    ∃ entries, inv.enclose span frames (t, .done o) =
      ({ t with trace := t.trace ++ entries }, .done o) := by
  induction frames generalizing span with
  | nil => exact ⟨[], by rw [List.append_nil]; rfl⟩
  | cons frame frames ih =>
    obtain ⟨own, others⟩ := List.forall_mem_cons.mp timed
    obtain ⟨before, inside⟩ := ih others (frame.span span)
    obtain ⟨after, left⟩ := inv.leave_of_timed own span o { t with trace := t.trace ++ before }
    refine ⟨before ++ after, ?_⟩
    rw [enclose, inside, ← List.append_assoc]
    exact left

/-- If they are taken down, the work is dropped, and that is all. None of them holds anything that
would have to be given back. -/
theorem abandon_nested (timed : ∀ frame ∈ frames, frame.Timed start bounds token)
    (due : Option Instant)
    (given : Token) (o : Outcome) (t : State) :
    inv.abandon ((Flight.working due given o).nested frames) t = t.note inv.work.dropped := by
  induction frames with
  | nil => rfl
  | cons frame frames ih =>
    obtain ⟨own, others⟩ := List.forall_mem_cons.mp timed
    have inside := ih others
    cases own <;> exact inside

/-- Work that goes on goes on inside its decorators, unless one of the bounds is due: the innermost
of those cuts it off. By then those further inside have been asked, and none of them was due. -/
theorem enclose_of_timed_pending (timed : ∀ frame ∈ frames, frame.Timed start bounds token)
    (span : Option Trace.Span) (due : Option Instant) (o : Outcome) (t : State) :
    ((∀ instant ∈ frames.filterMap (·.due?), t.now < instant) ∧
      inv.enclose span frames (t, .pending (.working due token o)) =
        (t, .pending ((Flight.working due token o).nested frames))) ∨
    ∃ own b entries, own.id ∈ token.id :: token.above ∧ b ∈ bounds ∧ start + b.millis ≤ t.now ∧
      inv.enclose span frames (t, .pending (.working due token o)) =
        ({ (t.note inv.work.dropped).cancel own with trace := t.trace ++ entries },
          .done (.error (.routing (.timeout inv.context.key b.limit.millis)))) := by
  induction frames generalizing span with
  | nil => exact .inl ⟨fun _ impossible => absurd impossible List.not_mem_nil, rfl⟩
  | cons frame frames ih =>
    obtain ⟨outermost, others⟩ := List.forall_mem_cons.mp timed
    rcases ih others (frame.span span) with
      ⟨early, waits⟩ | ⟨own, b, entries, above, bound, isDue, expired⟩
    · have unbounded (never : frame.due? = none) (patient : frame.isExpired t.now = false) :
          (∀ instant ∈ (frame :: frames).filterMap (·.due?), t.now < instant) ∧
          inv.enclose span (frame :: frames) (t, .pending (.working due token o)) =
            (t, .pending ((Flight.working due token o).nested (frame :: frames))) := by
        refine ⟨?_, ?_⟩
        · rw [List.filterMap_cons, never]
          exact early
        · rw [enclose, waits, around, patient]
          rfl
      cases outermost with
      | logging own since => exact .inl (unbounded rfl rfl)
      | endless own limit => exact .inl (unbounded rfl rfl)
      | @kept own b above known =>
        by_cases isDue : start + b.millis ≤ t.now
        · have expires : (Frame.timeout own (some (start + b.millis)) b.limit).isExpired t.now =
              true := decide_eq_true isDue
          obtain ⟨entries, expired⟩ : ∃ entries, inv.enclose span
              (.timeout own (some (start + b.millis)) b.limit :: frames)
                (t, .pending (.working due token o)) =
              ({ (t.note inv.work.dropped).cancel own with trace := t.trace ++ entries },
                .done (.error (.routing (.timeout inv.context.key b.limit.millis)))) := by
            rw [enclose, waits, around, expires, if_pos rfl, expire,
              abandon_nested others due token o t]
            exact ⟨_, rfl⟩
          exact .inr ⟨own, b, entries, above, known, isDue, expired⟩
        · refine .inl ⟨?_, ?_⟩
          · exact List.forall_mem_cons.mpr ⟨Nat.lt_of_not_le isDue, early⟩
          · have patient : (Frame.timeout own (some (start + b.millis)) b.limit).isExpired t.now =
                false := decide_eq_false isDue
            rw [enclose, waits, around, patient]
            rfl
    · obtain ⟨more, left⟩ := inv.leave_of_timed outermost span
        (.error (.routing (.timeout inv.context.key b.limit.millis)))
        { (t.note inv.work.dropped).cancel own with trace := t.trace ++ entries }
      refine .inr ⟨own, b, entries ++ more, above, bound, isDue, ?_⟩
      rw [enclose, expired, ← List.append_assoc]
      exact left

/-! ### Whole runs -/

/-- Where an attempt stands that has been started in a state, with some bounds on its time. -/
inductive Settles (inv : Invocation) (s : State) (bounds : List Bound) (a : Approach) :
    List Note → State × Reply → Prop where
  /-- The work takes no longer than the least bound: its result comes when it is done. -/
  | own {t : State} {w : Nat} (takes : (inv.work.behavior s).time? = some w)
      (least : ∀ b ∈ bounds, w ≤ b.millis) (clock : t.now = s.now + w)
      (live : t.isCancelled a.token = false) :
      Settles inv s bounds a [inv.work.began] (t, .done (inv.work.behavior s).outcome)
  /-- It takes longer: the attempt fails when the time of the least bound is over, and nothing is
  left of the work. -/
  | expired {t : State} {b : Bound} (bound : b ∈ bounds)
      (least : ∀ other ∈ bounds, b.millis ≤ other.millis)
      (slower : ∀ w, (inv.work.behavior s).time? = some w → b.millis < w)
      (clock : t.now = s.now + b.millis) (cancelled : t.isCancelled a.token = true) :
      Settles inv s bounds a [inv.work.began, inv.work.dropped]
        (t, .done (.error (.routing (.timeout inv.context.key b.limit.millis))))
  /-- Nothing is due yet: the work goes on inside all the decorators, and what the attempt waits
  for is the end of the work and of each bound. -/
  | waits {t : State} {flight : Flight}
      (early : ∀ due ∈ flight.timers, t.now < due)
      (timers : ∀ due, due ∈ flight.timers ↔ ∃ n,
        ((∃ b ∈ bounds, b.millis = n) ∨ (inv.work.behavior s).time? = some n) ∧
          due = s.now + n)
      (inside : flight = (Flight.working ((inv.work.behavior s).time?.map (s.now + ·)) a.token
        (inv.work.behavior s).outcome).nested a.frames)
      (live : t.isCancelled a.token = false) :
      Settles inv s bounds a [inv.work.began] (t, .pending flight)

/-- Where the work itself stands, before its decorators have a look. -/
inductive Works (inv : Invocation) (s : State) (given : Token) : State × Reply → Prop where
  | ready {t : State} {w : Nat} (takes : (inv.work.behavior s).time? = some w)
      (clock : t.now = s.now + w) (live : t.isCancelled given = false) :
      Works inv s given (t, .done (inv.work.behavior s).outcome)
  | goesOn {t : State} (early : ∀ w, (inv.work.behavior s).time? = some w → t.now < s.now + w)
      (live : t.isCancelled given = false) :
      Works inv s given (t, .pending (.working ((inv.work.behavior s).time?.map (s.now + ·)) given
        (inv.work.behavior s).outcome))

/-- Where the work stands decides where the attempt stands, as long as no bound has been passed by:
a bound that is due is then due right now, and is the least of all. -/
theorem settles_of_works (through : inv.Through ⟨span, [], decorators, token, s⟩ a)
    {r : State × Reply} (works : inv.Works s a.token r)
    (onTime : ∀ b ∈ Decorator.bounds s.timer s.now decorators, r.1.now ≤ s.now + b.millis) :
    ∃ more, (inv.enclose a.outer a.frames r).1.journal = r.1.journal ++ more ∧
      (inv.enclose a.outer a.frames r).1.now = r.1.now ∧
      inv.Settles s (Decorator.bounds s.timer s.now decorators) a (inv.work.began :: more)
        (inv.enclose a.outer a.frames r) := by
  obtain ⟨timed, dues⟩ := through.frames_eq
  cases works with
  | @ready t w takes clock live =>
    obtain ⟨entries, left⟩ := inv.enclose_of_timed_done timed a.outer
      (inv.work.behavior s).outcome t
    rw [left]
    refine ⟨[], (List.append_nil _).symm, rfl, .own takes (fun b bound => ?_) clock live⟩
    exact Nat.le_of_add_le_add_left (clock ▸ onTime b bound)
  | @goesOn t early live =>
    rcases inv.enclose_of_timed_pending timed a.outer
        ((inv.work.behavior s).time?.map (s.now + ·)) (inv.work.behavior s).outcome t with
      ⟨ahead, waits⟩ | ⟨own, b, entries, above, bound, isDue, expired⟩
    · rw [waits]
      have timers (due : Instant) : due ∈ ((Flight.working
          ((inv.work.behavior s).time?.map (s.now + ·)) a.token
            (inv.work.behavior s).outcome).nested a.frames).timers ↔ ∃ n,
          ((∃ b ∈ Decorator.bounds s.timer s.now decorators, b.millis = n) ∨
            (inv.work.behavior s).time? = some n) ∧ due = s.now + n := by
        rw [Flight.timers_nested, dues, List.mem_append, List.mem_map, Flight.timers,
          Option.mem_toList, Option.map_eq_some_iff]
        constructor
        · rintro (⟨b, bound, rfl⟩ | ⟨w, takes, rfl⟩)
          · exact ⟨b.millis, .inl ⟨b, bound, rfl⟩, rfl⟩
          · exact ⟨w, .inr takes, rfl⟩
        · rintro ⟨n, ⟨b, bound, rfl⟩ | takes, rfl⟩
          · exact .inl ⟨b, bound, rfl⟩
          · exact .inr ⟨n, takes, rfl⟩
      refine ⟨[], (List.append_nil _).symm, rfl, .waits (fun due member => ?_) timers rfl live⟩
      obtain ⟨n, ⟨b, bound, rfl⟩ | takes, rfl⟩ := (timers due).mp member
      · refine ahead _ ?_
        rw [dues]
        exact List.mem_map.mpr ⟨b, bound, rfl⟩
      · exact early n takes
    · rw [expired]
      have clock : t.now = s.now + b.millis := Nat.le_antisymm (onTime b bound) isDue
      refine ⟨[inv.work.dropped], rfl, rfl, .expired bound (fun other member => ?_)
        (fun w takes => ?_) clock ?_⟩
      · exact Nat.le_of_add_le_add_left (clock ▸ onTime other member)
      · exact Nat.lt_of_add_lt_add_left (clock ▸ early w takes)
      · have below : t.tokens.isCancelled a.token = false := live
        have cut : (t.tokens.cancel own).isCancelled a.token = true := by
          rw [TokenForest.isCancelled_cancel, below, Bool.false_or, List.contains_iff_mem]
          exact above
        exact cut

/-- Starting work that does not cancel its caller takes no time, and cancels no token. It writes
that it has begun, and counts the call. -/
theorem start_of_silent (work : Work) {u : State} {caller given : Token}
    (silent : (work.behavior u).cancelsCaller = false) :
    (work.start u caller given).now = u.now ∧
      (work.start u caller given).journal = u.journal ++ [work.began] ∧
      (work.start u caller given).isCancelled given = u.isCancelled given := by
  have handed (u : State) :
      (if work.handsOut then u.handOut given else u).now = u.now ∧
      (if work.handsOut then u.handOut given else u).journal = u.journal ∧
      (if work.handsOut then u.handOut given else u).tokens = u.tokens := by
    split <;> exact ⟨rfl, rfl, rfl⟩
  simp only [Work.start, silent, Bool.false_eq_true, if_false, State.isCancelled, handed]
  cases work <;> exact ⟨rfl, rfl, rfl⟩

/-- Work that does not cancel its caller starts, and leaves the tokens as they are. If it takes no
time at all, it is done at once. -/
theorem works_begin (through : inv.Through ⟨span, [], decorators, token, s⟩ a)
    (silent : (inv.work.behavior s).cancelsCaller = false) :
    inv.Works s a.token (inv.begin a.token a.state) ∧
      (inv.begin a.token a.state).1.now = s.now ∧
      (inv.begin a.token a.state).1.journal = s.journal ++ [inv.work.began] := by
  have live : a.state.isCancelled a.token = false := through.held.live
  have same : inv.work.behavior a.state = inv.work.behavior s := by
    cases work : inv.work with
    | bare key behavior lists => rfl
    | serve made request lists => simp only [Work.behavior, through.catalog]
  obtain ⟨t, started⟩ : ∃ t, inv.work.start a.state inv.caller a.token = t := ⟨_, rfl⟩
  obtain ⟨now, journal, unharmed⟩ : t.now = s.now ∧
      t.journal = s.journal ++ [inv.work.began] ∧ t.isCancelled a.token = false := by
    rw [← through.now, ← through.journal, ← live, ← started]
    exact start_of_silent inv.work (same ▸ silent)
  simp only [begin, live, Bool.false_eq_true, if_false, same, started, now]
  cases hangs : (inv.work.behavior s).hangs with
  | true =>
    have takes : (inv.work.behavior s).time? = none := if_pos hangs
    have goesOn := @Works.goesOn inv s a.token t
      (fun w impossible => by rw [takes] at impossible; cases impossible) unharmed
    rw [takes] at goesOn
    exact ⟨goesOn, now, journal⟩
  | false =>
    have takes : (inv.work.behavior s).time? = some (inv.work.behavior s).pause :=
      if_neg (by rw [hangs]; exact Bool.false_ne_true)
    simp only [Bool.false_eq_true, if_false]
    split
    · next atOnce => exact ⟨.ready takes (by rw [now, atOnce]; rfl) unharmed, now, journal⟩
    · next pause =>
      have goesOn := @Works.goesOn inv s a.token t
        (fun w lasts => by
          rw [takes] at lasts
          cases lasts
          rw [now]
          exact Nat.lt_add_of_pos_right (Nat.pos_of_ne_zero pause)) unharmed
      rw [takes] at goesOn
      exact ⟨goesOn, now, journal⟩

/-- Work that goes on and is not passed by by the clock is done when it is due. Before that it goes
on, and nothing changes. -/
theorem works_resume (inv : Invocation) (s : State) (span : Option Trace.Span) {given : Token}
    {u : State} (live : u.isCancelled given = false)
    (onTime : ∀ w, (inv.work.behavior s).time? = some w → u.now ≤ s.now + w) :
    inv.Works s given (inv.resume span (.working
      ((inv.work.behavior s).time?.map (s.now + ·)) given (inv.work.behavior s).outcome) u) ∧
    (inv.resume span (.working ((inv.work.behavior s).time?.map (s.now + ·)) given
      (inv.work.behavior s).outcome) u).1 = u := by
  simp only [resume, live, Bool.false_eq_true, if_false]
  split
  · next isDue =>
    obtain ⟨due, set, passed⟩ := Option.any_eq_true .. |>.mp isDue
    obtain ⟨w, takes, rfl⟩ := Option.map_eq_some_iff.mp set
    exact ⟨.ready takes (Nat.le_antisymm (onTime w takes) (of_decide_eq_true passed)) live, rfl⟩
  · next notYet =>
    refine ⟨.goesOn (fun w takes => ?_) live, rfl⟩
    rw [takes] at notYet
    simpa using notYet

/-- Where an attempt stands that has been entered. A bound of no length is due at once, and cuts off
work that is not done at once. -/
theorem settles_enter (through : inv.Through ⟨span, [], decorators, token, s⟩ a)
    (silent : (inv.work.behavior s).cancelsCaller = false) :
    inv.Settles s (Decorator.bounds s.timer s.now decorators) a
      (s.added (inv.enter span decorators token s).1) (inv.enter span decorators token s) := by
  obtain ⟨works, now, journal⟩ := works_begin through silent
  obtain ⟨more, written, -, settles⟩ := settles_of_works through works
    fun n _ => now ▸ Nat.le_add_right _ _
  have entered : inv.enter span decorators token s =
      inv.enclose a.outer a.frames (inv.begin a.token a.state) := by
    rw [enter_eq_enclose through.way, answer, through.rest]
    rfl
  rw [journal, List.append_assoc, List.singleton_append, ← entered] at written
  rw [State.added_eq written, entered]
  exact settles

/-- Where one stands that is resumed on time; it takes no time to get there. An attempt that waits
has been waiting for the work and the bounds since the beginning, so that what is due is due for the
first time. -/
theorem settles_resume (through : inv.Through ⟨span, [], decorators, token, s⟩ a) {flight : Flight}
    (settled : inv.Settles s (Decorator.bounds s.timer s.now decorators) a lines
      (t, .pending flight))
    {u : State} (onTime : ∀ due ∈ flight.timers, u.now ≤ due)
    (live : u.isCancelled a.token = false) :
    inv.Settles s (Decorator.bounds s.timer s.now decorators) a
        (lines ++ u.added (inv.resume span flight u).1) (inv.resume span flight u) ∧
      (inv.resume span flight u).1.now = u.now := by
  cases settled with
  | waits early timers inside unharmed =>
    have bounded {n : Nat} (bound : (∃ b ∈ Decorator.bounds s.timer s.now decorators,
        b.millis = n) ∨ (inv.work.behavior s).time? = some n) : u.now ≤ s.now + n :=
      onTime _ ((timers _).mpr ⟨n, bound, rfl⟩)
    obtain ⟨works, same⟩ := inv.works_resume s
      (a.frames.foldl (fun span frame => frame.span span) span) live
      fun w takes => bounded (.inr takes)
    obtain ⟨more, written, clock, settles⟩ := settles_of_works through works
      fun b bound => by rw [same]; exact bounded (.inl ⟨b, bound, rfl⟩)
    rw [same, through.outer, ← resume_nested, ← inside] at written clock
    rw [through.outer, ← resume_nested, ← inside] at settles
    rw [State.added_eq written]
    exact ⟨settles, clock⟩

/-- A run on time stands as the work and the least bound decide. -/
theorem RunsOnTime.settles (through : inv.Through ⟨span, [], decorators, token, s⟩ a)
    (silent : (inv.work.behavior s).cancelsCaller = false) {r : State × Reply}
    (runs : inv.RunsOnTime span decorators token a.token s lines r) :
    inv.Settles s (Decorator.bounds s.timer s.now decorators) a lines r := by
  induction runs with
  | entered => exact settles_enter through silent
  | resumed before later onTime live ih => exact (settles_resume through ih onTime live).1

/-- An attempt that never ends by itself. -/
private def endless : Invocation where
  context := .primary 0 "greeter" "greet" "flag" "true" ["true"]
  caller := ⟨0, []⟩
  work := .bare "true" { hangs := true, outcome := .ok .unit } false

end Invocation

end TrialRouting
