import TrialRouting.Proofs.Call.Course
import TrialRouting.Proofs.Call.Questions

/-!
# The selection of a call

A call asks for its key in its first step, and the rule that its selection follows looks at
the shared state of that moment, however long the mode takes to answer. A history in which
one call is listened to records what its steps ask, next to whatever the other calls do; the
record is the inquiry of that moment, question for question.
-/

namespace TrialRouting

namespace Router

variable {router : Router} {call : Call} {s s' : State}

/-- A call that is received before it is cancelled chooses its key, in the state it has arrived
in. -/
theorem choose_of_receive {asked : Asked} (answer : router.receive call s = (s', .inr asked)) :
    s.isCancelled call.token = false ∧ s.choose router.registration call.method = (s', asked) := by
  cases cancelled : s.isCancelled call.token with
  | true => simp [receive, cancelled] at answer
  | false =>
    simp only [receive, cancelled, Bool.false_eq_true, if_false, Prod.mk.injEq,
      Sum.inr.injEq] at answer
    exact ⟨rfl, Prod.ext answer.1 answer.2⟩

/-- A call is refused only because it is cancelled, and then nobody is asked. -/
theorem cancelled_of_receive {o : Outcome} (answer : router.receive call s = (s', .inl o)) :
    s.isCancelled call.token = true ∧ o = .error cancelledFailure ∧ s.Unasked s' := by
  cases cancelled : s.isCancelled call.token with
  | false => simp [receive, cancelled] at answer
  | true =>
    simp only [receive, cancelled, if_true, Prod.mk.injEq, Sum.inl.injEq] at answer
    exact ⟨rfl, answer.2.symm, answer.1 ▸ State.unasked_emit s _ _⟩

end Router

namespace Journey

variable {router : Router} {r : Registration} {s s₀ s' : State} {j j' : Journey} {q : Inquiry}

/-- A call has asked for its key in some state. What its steps have asked since are the questions of
a selection in that state, and its selection is the one chosen there. -/
structure HasAsked (r : Registration) (s₀ : State) (j : Journey) (q : Inquiry) : Prop where
  free : s₀.isCancelled j.call.token = false
  received : j.phase ≠ .arriving
  inquiry : q = .of r j.call.method (r.questions s₀ j.call.method)
  waiting : ∀ due opinion, j.phase = .selecting due opinion →
    (s₀.choose r j.call.method).2 = .waiting due opinion
  selected : ∀ selection, j.selection = some selection →
    selection = (s₀.choose r j.call.method).2.selection r

/-- The first step of a call asks for its key, unless the call is cancelled. No other step is the
first one of a call, since all others start from a later phase. -/
theorem Step.begins {call : Call} (step : Step router s { call } s' j') :
    (s.isCancelled call.token = true ∧
        j' = { call := call, phase := .ended (.error cancelledFailure) } ∧ s.Unasked s') ∨
      j'.HasAsked router.registration s (({} : Inquiry).after s s') := by
  have inquiry {asked : Asked} (chosen : s.choose router.registration call.method = (s', asked)) :
      ({} : Inquiry).after s s' =
        .of router.registration call.method (router.registration.questions s call.method) := by
    rw [← s.after_choose router.registration call.method, chosen]
  cases step
  case refused phase answer =>
    obtain ⟨cancelled, rfl, unasked⟩ := Router.cancelled_of_receive answer
    exact .inl ⟨cancelled, rfl, unasked⟩
  case chosen phase answer =>
    obtain ⟨free, chosen⟩ := Router.choose_of_receive answer
    refine .inr ⟨free, (by simp), inquiry chosen, ?_, ?_⟩
    · rintro _ _ ⟨⟩
    · rintro _ ⟨⟩
      simp only [chosen, Asked.selection]
  case asked phase answer =>
    obtain ⟨free, chosen⟩ := Router.choose_of_receive answer
    refine .inr ⟨free, (by simp), inquiry chosen, ?_, ?_⟩
    · rintro _ _ ⟨⟩
      exact congrArg Prod.snd chosen
    · rintro _ ⟨⟩
  all_goals contradiction

/-- A call that is over takes no more steps. So nothing can be asked by it either. -/
theorem Step.not_isOver (step : Step router s j s' j') : ¬ j.IsOver := by
  cases step <;> simp [IsOver, *]

/-- What a call has asked and selected stays as it is once it has been received. A mode that takes
its time settles on what it had answered when it was asked. -/
theorem Step.hasAsked (step : Step router s j s' j') (sound : j.Sound s)
    (asked : j.HasAsked router.registration s₀ q) :
    j'.HasAsked router.registration s₀ (q.after s s') := by
  obtain ⟨free, received, inquiry, waiting, selected⟩ := asked
  rw [q.after_unasked (step.unasked sound received)]
  have onwards {phase : Phase} {finished : List Leg} (going : phase ≠ .arriving)
      (answered : ∀ due opinion, phase ≠ .selecting due opinion) :
      HasAsked router.registration s₀ { j with phase, finished } q :=
    ⟨free, going, inquiry, fun due opinion same => absurd same (answered due opinion), selected⟩
  cases step with
  | refused phase answer => exact absurd phase received
  | chosen phase answer => exact absurd phase received
  | asked phase answer => exact absurd phase received
  | answered phase isDue =>
    refine ⟨free, (by simp), inquiry, (fun _ _ same => by cases same), ?_⟩
    rintro _ ⟨⟩
    rw [waiting _ _ phase]
    rfl
  | embarked phase => exact onwards (by simp) (by simp)
  | withheld phase => exact onwards (by simp) (by simp)
  | sped phase => exact onwards (by simp) (by simp)
  | launched phase => exact onwards (by simp) (by simp)
  | waited phase => exact onwards (by simp) (by simp)
  | left phase => exact onwards (by simp) (by simp)
  | concluded phase => exact onwards (by simp) (by simp)
  | fellBack phase => exact onwards (by simp) (by simp)
  | dropped phase => exact onwards (by simp) (by simp)
  | droppedInFlight phase => exact onwards (by simp) (by simp)

/-- The attempts of a call on its course are the first of a route from its selected key, with or
without an expiry. -/
theorem OnCourse.on_route (onCourse : j.OnCourse r s) : j.legs = [] ∨
    ∃ selection expiry, j.selection = some selection ∧
      keysOf j.legs <+: r.route selection.key expiry := by
  have stands {selection : Selection} {made : List Leg} {leg? : Option Leg} {c : Course}
      (here : j.StandsAt r selection made leg? c) (idle : j.underway = []) :
      ∃ selection expiry, j.selection = some selection ∧
        keysOf j.legs <+: r.route selection.key expiry := by
    refine ⟨selection, _, here.selected, List.IsPrefix.trans ?_ here.keeps.attempted_prefix⟩
    rw [legs, idle, List.append_nil, here.finished]
    cases leg? with
    | none => exact (List.append_nil made).symm ▸ here.keeps.keysOf_prefix
    | some leg => exact here.keeps.keysOf_concat_prefix (here.context leg rfl)
  cases phase : j.phase with
  | arriving =>
    simp only [OnCourse, phase] at onCourse
    simp [legs, underway, phase, onCourse]
  | selecting due opinion =>
    simp only [OnCourse, phase] at onCourse
    simp [legs, underway, phase, onCourse]
  | selected selection =>
    simp only [OnCourse, phase] at onCourse
    simp [legs, underway, phase, onCourse]
  | launching c =>
    simp only [OnCourse, phase] at onCourse
    obtain ⟨selection, here⟩ := onCourse
    exact .inr (stands here (by simp [underway, phase]))
  | attempting c attempt =>
    simp only [OnCourse, phase] at onCourse
    obtain ⟨selection, here, context⟩ := onCourse
    refine .inr ⟨selection, _, here.selected,
      List.IsPrefix.trans ?_ here.keeps.attempted_prefix⟩
    have underway : j.underway = [attempt.leg none] := by simp [underway, phase]
    rw [legs, underway]
    exact here.keeps.keysOf_concat_prefix context
  | concluding c e =>
    simp only [OnCourse, phase] at onCourse
    obtain ⟨selection, made, leg?, here, -⟩ := onCourse
    exact .inr (stands here (by simp [underway, phase]))
  | ended o =>
    simp only [OnCourse, phase] at onCourse
    rcases onCourse with ⟨-, finished, -⟩ | ⟨selection, made, leg?, c, here⟩
    · simp [legs, underway, phase, finished]
    · exact .inr (stands here (by simp [underway, phase]))
  | takenDown =>
    simp only [OnCourse, phase] at onCourse
    rcases onCourse with ⟨-, finished⟩ | ⟨selection, made, leg, c, here, -⟩
    · simp [legs, underway, phase, finished]
    · exact .inr (stands here (by simp [underway, phase]))

/-- The primary attempt of a call is made on its selected key. Every route begins with the key it
starts from. -/
theorem OnCourse.primary (onCourse : j.OnCourse r s) {leg : Leg} (first : j.legs.head? = some leg) :
    ∃ selection, j.selection = some selection ∧ leg.context.key = selection.key := by
  rcases onCourse.on_route with none' | ⟨selection, expiry, selected, onRoute⟩
  · simp [none'] at first
  · obtain ⟨rest, legs⟩ := List.head?_eq_some_iff.mp first
    obtain ⟨others, route⟩ := r.exists_route_eq selection.key expiry
    rw [legs, keysOf, List.map_cons, route, List.cons_prefix_cons] at onRoute
    exact ⟨selection, selected, onRoute.1⟩

/-- A call that concludes with an outcome has been cancelled, or the outcome is what the attempt
gives that has just ended. -/
theorem OnCourse.answers {c : Course} {e : Ending} {o : Outcome}
    (onCourse : j.OnCourse router.registration s) (phase : j.phase = .concluding c e)
    (answer : router.conclude j.call c e s = (s', .inl o)) : o = .error cancelledFailure ∨
      ∃ leg, j.finished.getLast? = some leg ∧ leg.Gives router.registration o := by
  have ends : (router.conclude j.call c e s).2 = .inl o := congrArg Prod.snd answer
  simp only [OnCourse, phase] at onCourse
  obtain ⟨selection, made, leg?, here, ⟨leg, rfl, ending⟩ | ⟨-, rfl, cancelled⟩⟩ := onCourse
  · have last : j.finished.getLast? = some leg := by
      rw [here.finished]
      exact List.getLast?_concat
    cases free : s.isCancelled j.call.token with
    | true =>
      rcases Router.ends_of_cancelled router c e free with cancelled | ⟨v, rfl, value⟩
      · exact .inl (Sum.inl.inj (ends.symm.trans cancelled))
      · obtain rfl : o = .ok v := Sum.inl.inj (ends.symm.trans value)
        exact .inr ⟨leg, last, .inl ending⟩
    | false =>
      have due (expired : e = .expired) : c.deadline.isSome = true :=
        here.due leg rfl ((Leg.isExpired_iff ending).mpr expired)
      exact .inr ⟨leg, last, (Router.over_of_conclude here.keeps (here.context leg rfl) ending due
        free ends).1⟩
  · rw [Router.conclude_of_cancelled router c cancelled (by simp)] at ends
    exact .inl (Sum.inl.inj ends.symm)

/-- The outcome of a call is a cancellation, or what its last attempt gives. A failure of the
selection would be neither. -/
def Answers (r : Registration) (j : Journey) : Prop :=
  ∀ o, j.phase = .ended o → o = .error cancelledFailure ∨
    ∃ leg, j.legs.getLast? = some leg ∧ leg.Gives r o

/-- Steps lead to no other outcome: a call ends when it is refused, or when an attempt is
concluded. -/
theorem Step.answers (step : Step router s j s' j') (onCourse : j.OnCourse router.registration s) :
    j'.Answers router.registration := by
  cases step with
  | refused phase answer =>
    rintro _ ⟨⟩
    exact .inl (Router.cancelled_of_receive answer).2.1
  | concluded phase answer =>
    rintro _ ⟨⟩
    rcases onCourse.answers phase answer with cancelled | ⟨leg, last, gives⟩
    · exact .inl cancelled
    · refine .inr ⟨leg, ?_, gives⟩
      rw [legs, underway, List.append_nil]
      exact last
  | chosen phase => rintro _ ⟨⟩
  | asked phase => rintro _ ⟨⟩
  | answered phase => rintro _ ⟨⟩
  | embarked phase => rintro _ ⟨⟩
  | withheld phase => rintro _ ⟨⟩
  | sped phase => rintro _ ⟨⟩
  | launched phase => rintro _ ⟨⟩
  | waited phase => rintro _ ⟨⟩
  | left phase => rintro _ ⟨⟩
  | fellBack phase => rintro _ ⟨⟩
  | dropped phase => rintro _ ⟨⟩
  | droppedInFlight phase => rintro _ ⟨⟩

/-- A call that travels comes to no other outcome. -/
theorem Travels.answers (tokens : s.tokens.Sound) (sound : j.Sound s)
    (onCourse : j.OnCourse router.registration s) (answers : j.Answers router.registration)
    (travels : Travels router s j s' j') : j'.Answers router.registration := by
  induction travels with
  | stay => exact answers
  | step before last ih => exact last.answers (before.onCourse tokens sound onCourse)
  | meanwhile before grows ih => exact ih

/-- The selection of the primary key of a call that has started in a state. -/
structure Selects (r : Registration) (s₀ : State) (j : Journey) (q : Inquiry) : Prop where
  /-- It follows the rule for that state. -/
  follows : ∀ selection, j.selection = some selection → selection.Follows r s₀ j.call.method
  /-- The primary attempt is made on the selected key. -/
  primary : ∀ leg, j.legs.head? = some leg → ∃ selection, j.selection = some selection ∧
    leg.context.key = selection.key
  /-- The predicate is asked once inside the window, and not at all outside. -/
  predicateCalls : q.predicateCalls =
    if r.window.Contains s₀.wallClock ∧ r.predicate.isSome = true then 1 else 0
  /-- What the call has asked are the questions of the selection, one by one. -/
  inquiry : q = .of r j.call.method (r.questions s₀ j.call.method)
  /-- The selection is the one that comes of asking these questions and no others. -/
  consulted : ∀ selection, j.selection = some selection →
    r.consult s₀ j.call.method = (selection, r.questions s₀ j.call.method)
  /-- The caller is never given a failure of the selection. -/
  answers : j.Answers r

/-- A call that has asked for its key and is on its course has selected it by the rule. The rule was
proved of what a selection chooses; here it is carried over to the call. -/
theorem HasAsked.selects (asked : j.HasAsked r s₀ q) (valid : r.Valid) (onCourse : j.OnCourse r s)
    (answers : j.Answers r) : j.Selects r s₀ q := by
  constructor
  · intro selection selected
    rw [asked.selected selection selected]
    exact State.follows_choose valid s₀ j.call.method
  · exact fun leg first => onCourse.primary first
  · rw [asked.inquiry, Inquiry.of, r.moments_questions]
    by_cases inside : r.window.Contains s₀.wallClock <;> cases r.predicate <;> simp [inside]
  · exact asked.inquiry
  · intro selection selected
    rw [r.consult_eq, asked.selected selection selected]
  · exact answers

end Journey

namespace World

variable {router : Router} {s : State} {w w₀ w' : World} {n : Nat} {j : Journey} {q : Inquiry}

/-- A history of a world in which one call, given by its number, is listened to: what its steps
have asked so far. -/
inductive Overheard (router : Router) (s : State) (n : Nat) : World → Inquiry → Prop where
  | start : Overheard router s n ⟨s, []⟩ {}
  | joined {w : World} {q : Inquiry} {call : Call} (before : Overheard router s n w q)
      (caller : call.caller.id < w.state.tokens.issued) :
      Overheard router s n { w with journeys := w.journeys ++ [{ call }] } q
  /-- The call itself takes a step. -/
  | own {w : World} {q : Inquiry} {j j' : Journey} {s' : State} (before : Overheard router s n w q)
      (here : w.journeys[n]? = some j) (step : j.Step router w.state s' j') :
      Overheard router s n ⟨s', w.journeys.set n j'⟩ (q.after w.state s')
  /-- Another call takes a step. -/
  | other {w : World} {q : Inquiry} {m : Nat} {j j' : Journey} {s' : State}
      (before : Overheard router s n w q) (apart : m ≠ n) (there : w.journeys[m]? = some j)
      (step : j.Step router w.state s' j') : Overheard router s n ⟨s', w.journeys.set m j'⟩ q
  | outside {w : World} {q : Inquiry} {s' : State} (before : Overheard router s n w q)
      (change : w.state.Outside s') : Overheard router s n { w with state := s' } q

/-- A history that is listened to is a history. Listening changes nothing. -/
theorem Overheard.becomes (overheard : Overheard router s n w q) : Becomes router ⟨s, []⟩ w := by
  induction overheard with
  | start => exact .refl
  | joined before caller ih => exact .tail ih (.joined caller)
  | own before here step ih => exact .tail ih (.stepped here step)
  | other before apart there step ih => exact .tail ih (.stepped there step)
  | outside before change ih => exact .tail ih (.outside change)

/-- Every call can be listened to in every history. So nothing is assumed of a history by
listening. -/
theorem Becomes.overheard (becomes : Becomes router ⟨s, []⟩ w) (n : Nat) :
    ∃ q, Overheard router s n w q := by
  induction becomes with
  | refl => exact ⟨{}, .start⟩
  | tail before moves ih =>
    obtain ⟨q, overheard⟩ := ih
    cases moves with
    | joined caller => exact ⟨q, .joined overheard caller⟩
    | @stepped m j j' s' there step =>
      by_cases own : m = n
      · subst own
        exact ⟨_, .own overheard there step⟩
      · exact ⟨q, .other overheard own there step⟩
    | outside change => exact ⟨q, .outside overheard change⟩

/-- A call of a world has started in an earlier one: there it had arrived and had asked nothing,
and it took its first step. -/
structure StartedIn (router : Router) (s : State) (n : Nat) (call : Call) (w₀ w : World) :
    Prop where
  silent : Overheard router s n w₀ {}
  arrived : w₀.journeys[n]? = some { call }
  since : ∃ s₁ j₁, Journey.Step router w₀.state { call } s₁ j₁ ∧
    Becomes router ⟨s₁, w₀.journeys.set n j₁⟩ w

/-- A call goes on having started in the same world, whatever happens afterwards. -/
theorem StartedIn.tail {call : Call} (started : StartedIn router s n call w₀ w)
    (moves : Moves router w w') : StartedIn router s n call w₀ w' := by
  obtain ⟨silent, arrived, s₁, j₁, step, becomes⟩ := started
  exact ⟨silent, arrived, s₁, j₁, step, becomes.tail moves⟩

/-- A call of a world that has been listened to is still to start, or it has been refused, or it
has asked for its key. -/
def Heard (router : Router) (s : State) (n : Nat) (w : World) (j : Journey) (q : Inquiry) : Prop :=
  (j = { call := j.call } ∧ q = {}) ∨
    ∃ w₀, StartedIn router s n j.call w₀ w ∧
      ((w₀.state.isCancelled j.call.token = true ∧
          j = { call := j.call, phase := .ended (.error cancelledFailure) } ∧ q = {}) ∨
        j.HasAsked router.registration w₀.state q)

/-- What has been heard of a call stays heard while others move. They may ask as well, but not in
its steps. -/
theorem Heard.tail (heard : Heard router s n w j q) (moves : Moves router w w') :
    Heard router s n w' j q := by
  rcases heard with idle | ⟨w₀, started, what⟩
  · exact .inl idle
  · exact .inr ⟨w₀, started.tail moves, what⟩

/-- A step of the call itself goes on from what has been heard of it. If it is the first, the call
asks now, or is refused. -/
theorem Heard.own {s' : State} {j' : Journey} (heard : Heard router s n w j q)
    (overheard : Overheard router s n w q) (sound : j.Sound w.state)
    (here : w.journeys[n]? = some j) (step : j.Step router w.state s' j') :
    Heard router s n ⟨s', w.journeys.set n j'⟩ j' (q.after w.state s') := by
  have moves : Moves router w ⟨s', w.journeys.set n j'⟩ := .stepped here step
  rcases heard with ⟨arriving, rfl⟩ | ⟨w₀, started, ⟨cancelled, refused, rfl⟩ | asked⟩
  · rw [arriving] at step here
    have call : j'.call = j.call := step.call_eq
    have started : StartedIn router s n j'.call w ⟨s', w.journeys.set n j'⟩ :=
      call ▸ ⟨overheard, here, s', j', step, .refl⟩
    rcases step.begins with ⟨cancelled, ended, unasked⟩ | asked
    · refine .inr ⟨w, started, .inl ⟨call ▸ cancelled, call ▸ ended, ?_⟩⟩
      exact Inquiry.after_unasked {} unasked
    · exact .inr ⟨w, started, .inr asked⟩
  · exact absurd (.inl ⟨_, congrArg Journey.phase refused⟩) step.not_isOver
  · exact .inr ⟨w₀, step.call_eq ▸ started.tail moves, .inr (step.hasAsked sound asked)⟩

/-- Every call that is listened to is heard, by induction on the history. -/
theorem Overheard.heard (tokens : s.tokens.Sound) (overheard : Overheard router s n w q) :
    (∀ j, w.journeys[n]? = some j → Heard router s n w j q) ∧
      (w.journeys[n]? = none → q = {}) := by
  induction overheard with
  | start => exact ⟨fun j impossible => by simp at impossible, fun _ => rfl⟩
  | @joined w q call before caller ih =>
    constructor
    · intro j here
      by_cases known : n < w.journeys.length
      · rw [List.getElem?_append_left known] at here
        exact (ih.1 j here).tail (.joined caller)
      · have beyond : w.journeys.length ≤ n := Nat.le_of_not_lt known
        rw [List.getElem?_append_right beyond] at here
        obtain rfl : j = { call } := List.mem_singleton.mp (List.mem_of_getElem? here)
        exact .inl ⟨rfl, ih.2 (List.getElem?_eq_none beyond)⟩
    · intro missing
      refine ih.2 (List.getElem?_eq_none ?_)
      have beyond := List.getElem?_eq_none_iff.mp missing
      rw [List.length_append] at beyond
      omega
  | @own w q j j' s' before here step ih =>
    have known : n < w.journeys.length := (List.getElem?_eq_some_iff.mp here).1
    constructor
    · intro j₁ there
      rw [List.getElem?_set_self known] at there
      obtain rfl : j' = j₁ := Option.some.inj there
      have sound : World.Sound w := before.becomes.sound (sound_of_empty tokens)
      exact (ih.1 j here).own before (sound.journeys j (List.mem_of_getElem? here)) here step
    · intro missing
      rw [List.getElem?_set_self known] at missing
      cases missing
  | @other w q m j j' s' before apart there step ih =>
    rw [List.getElem?_set_ne apart]
    exact ⟨fun j₁ here => (ih.1 j₁ here).tail (.stepped there step), ih.2⟩
  | outside before change ih =>
    exact ⟨fun j here => (ih.1 j here).tail (.outside change), ih.2⟩

/-- However calls overlap, the key of a call's primary attempt is a trial key, and it is selected by
the rule in the state in which the call starts. The predicate is asked once if that is inside the
window, the mode once if the trial is active and its mode is registered, and neither is asked
otherwise. The call never ends with a failure of its selection. A call that is cancelled before it
starts selects nothing and asks nobody.

Proof: in a history that listens to the call it is first still to start; its first step chooses a
key in the state of that moment; and from then on it asks nobody, and keeps what it has chosen. The
rule for a choice in one state then gives the key, and the questions it asks are the inquiry of the
call. That the first attempt is made on that key follows from the course of the call. -/
theorem selects_primary_key {d : Draft} (built : d.build = .ok router.registration)
    (tokens : s.tokens.Sound) (overheard : Overheard router s n w q)
    (here : w.journeys[n]? = some j) :
    (j = { call := j.call } ∧ q = {}) ∨
      ∃ w₀, StartedIn router s n j.call w₀ w ∧
        ((w₀.state.isCancelled j.call.token = true ∧
            j = { call := j.call, phase := .ended (.error cancelledFailure) } ∧ q = {}) ∨
          (w₀.state.isCancelled j.call.token = false ∧
            j.Selects router.registration w₀.state q)) := by
  have valid : router.registration.Valid := Draft.valid_of_build built
  have onCourse : j.OnCourse router.registration w.state :=
    Becomes.onCourse tokens overheard.becomes here
  have answers : j.Answers router.registration := by
    obtain ⟨s₀, call, first, caller, travels⟩ := overheard.becomes.origin tokens here
    refine Journey.Travels.answers first (Journey.sound_of_idle caller (fun _ _ => by simp)) ?_ ?_
      travels
    · exact ⟨rfl, rfl⟩
    · rintro _ ⟨⟩
  rcases (overheard.heard tokens).1 j here with idle | ⟨w₀, started, refused | asked⟩
  · exact .inl idle
  · exact .inr ⟨w₀, started, .inl refused⟩
  · exact .inr ⟨w₀, started, .inr ⟨asked.free, asked.selects valid onCourse answers⟩⟩

end World

/-! ### A trial that asks -/

/-- The trial with a spare, for calls of one method. Its mode has to be added. -/
def pickyDraft : Draft :=
  { spareDraft with
    mode := "picky"
    predicate := some fun moment => moment.method == "call" }

/-- A router of that trial. -/
def pickyRouter : Router :=
  { spareRouter with
    registration := { spareRouter.registration with
      mode := "picky"
      predicate := some fun moment => moment.method == "call" } }

/-- A state in which the mode has been added and names the spare key. -/
def pickyStart : State :=
  { spareStart with
    selector := ({} : Selector).register "picky"
      (.custom { name := "picky", answer := fun _ _ => .ok (some "spare") }) }

/-- A call of the trial, a number of steps on its way. -/
def pickyWorld (turns : List Nat) : World :=
  World.advance pickyRouter turns ⟨pickyStart, [{ call := spareCall 0 "hi" }]⟩

/-- The call asks its mode and attempts the key that the mode names. -/
theorem mode_names_primary_key :
    pickyDraft.build = .ok pickyRouter.registration ∧ pickyStart.tokens.Sound ∧
      ∃ j q w₀, World.Overheard pickyRouter pickyStart 0 (pickyWorld [0, 0, 0, 0]) q ∧
        (pickyWorld [0, 0, 0, 0]).journeys[0]? = some j ∧ j.phase = .ended (.ok (.text "hello")) ∧
        j.selection = some ⟨"spare", .provider⟩ ∧ keysOf j.legs = ["spare"] ∧
        World.StartedIn pickyRouter pickyStart 0 j.call w₀ (pickyWorld [0, 0, 0, 0]) ∧
        j.Selects pickyRouter.registration w₀.state q := by
  have built : pickyDraft.build = .ok pickyRouter.registration := rfl
  have tokens : pickyStart.tokens.Sound := sound_spareStart
  have becomes : World.Becomes pickyRouter ⟨pickyStart, []⟩ (pickyWorld [0, 0, 0, 0]) :=
    .head (.joined (by decide)) (World.becomes_advance _ _ _)
  obtain ⟨q, overheard⟩ := becomes.overheard 0
  obtain ⟨j, here, phase, selected, keys⟩ : ∃ j,
      (pickyWorld [0, 0, 0, 0]).journeys[0]? = some j ∧ j.phase = .ended (.ok (.text "hello")) ∧
        j.selection = some ⟨"spare", .provider⟩ ∧ keysOf j.legs = ["spare"] :=
    ⟨_, rfl, rfl, rfl, rfl⟩
  rcases World.selects_primary_key built tokens overheard here with
    ⟨idle, -⟩ | ⟨w₀, started, ⟨-, refused, -⟩ | ⟨-, selects⟩⟩
  · cases phase.symm.trans (congrArg Journey.phase idle)
  · cases phase.symm.trans (congrArg Journey.phase refused)
  · exact ⟨built, tokens, j, q, w₀, overheard, here, phase, selected, keys, started,
      selects⟩

end TrialRouting
