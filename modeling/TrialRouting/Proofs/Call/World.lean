import TrialRouting.Proofs.Call.Asides
import TrialRouting.Proofs.Call.Attempts

/-!
# Calls that overlap

A world is the shared state together with the calls of one router that are on their way.
At any moment a further call may join, any call may take its next step, and the world
around them may move on: time passes, tokens are issued and cancelled, flags and settings
change, implementations are registered. No order is imposed, so what holds of every world
that can be reached holds however the calls overlap.

Every call sees the others only through the shared state. All it relies on there is that
the tokens grow: what has been issued stays issued and what has been cancelled stays
cancelled. A property of a single call that its own steps keep and that survives such
growth therefore holds in every world.
-/

namespace TrialRouting

/-- What may happen to the shared state from outside the calls. None of it takes back what has been
issued or cancelled. -/
inductive State.Outside : State → State → Prop where
  | clock {s : State} {now : Nat} (later : s.now ≤ now) : Outside s { s with now := now }
  | issued {s : State} : Outside s s.issueToken
  | cancelled {s : State} {t : Token} (known : t.id < s.tokens.issued) : Outside s (s.cancel t)
  | modes {s : State} {selector : Selector} : Outside s { s with selector := selector }
  | wallClock {s : State} {millis : UInt64} : Outside s { s with wallClock := millis }
  | implemented {s : State} {recipe : Recipe} : Outside s (s.implement recipe)

/-- The shared state and the calls on their way. -/
structure World where
  state : State
  journeys : List Journey := []

namespace World

/-- The world after its calls, given by number, have got on by themselves in turn. -/
def advance (router : Router) : List Nat → World → World
  | [], w => w
  | n :: turns, w =>
      match w.journeys[n]? with
      | none => advance router turns w
      | some j =>
          let turn := j.advance router w.state
          advance router turns ⟨turn.1, w.journeys.set n turn.2⟩

/-- One thing that happens in a world: a call joins, one of the calls takes a step, or something
changes outside of them. -/
inductive Moves (router : Router) : World → World → Prop where
  | joined {w : World} {call : Call} (caller : call.caller.id < w.state.tokens.issued) :
      Moves router w { w with journeys := w.journeys ++ [{ call }] }
  | stepped {w : World} {n : Nat} {j j' : Journey} {s' : State} (here : w.journeys[n]? = some j)
      (step : j.Step router w.state s' j') : Moves router w ⟨s', w.journeys.set n j'⟩
  | outside {w : World} {s' : State} (change : w.state.Outside s') :
      Moves router w { w with state := s' }

/-- A history of a world. -/
abbrev Becomes (router : Router) : World → World → Prop :=
  Relation.ReflTransGen (Moves router)

end World

/-- The tokens of a call have been issued, and those of its attempt are below its own. So the
attempt can be cancelled with its call, and never the other way round. -/
structure Journey.Sound (s : State) (j : Journey) : Prop where
  caller : j.call.caller.id < s.tokens.issued
  attempt : ∀ course attempt, j.phase = .attempting course attempt →
    attempt.token.IsChildOf j.call.token ∧ attempt.token.id < s.tokens.issued ∧
      attempt.flight.Issued s.tokens ∧ attempt.invocation.caller = j.call.caller

namespace Journey

variable {router : Router} {s s' : State} {j j' : Journey}

/-- A call that is not in an attempt only has its own tokens, and those were issued before it was
made. -/
theorem sound_of_idle (caller : j.call.caller.id < s.tokens.issued)
    (idle : ∀ course attempt, j.phase ≠ .attempting course attempt) : j.Sound s :=
  ⟨caller, fun course attempt phase => absurd phase (idle course attempt)⟩

/-- The tokens of a call stay issued as the tokens grow. So what others do does not disturb the
order of its own. -/
theorem Sound.mono (sound : j.Sound s) (grows : s.tokens.Grows s'.tokens) : j.Sound s' := by
  refine ⟨Nat.lt_of_lt_of_le sound.caller grows.issued, ?_⟩
  intro course attempt phase
  obtain ⟨child, known, issued, caller⟩ := sound.attempt course attempt phase
  exact ⟨child, Nat.lt_of_lt_of_le known grows.issued,
    fun t member => Nat.lt_of_lt_of_le (issued t member) grows.issued, caller⟩

/-- The tokens grow when an attempt is launched: its own is issued, and whatever its decorators
issue comes below. -/
theorem grows_of_launch {call : Call} {course : Course} {r : Ending ⊕ Attempt}
    (caller : call.caller.id < s.tokens.issued)
    (launched : router.launch call course s = (s', r)) : s.tokens.Grows s'.tokens := by
  have issuing : s.tokens.Grows s.issueToken.tokens := .issue _
  have known (trial : Trial) : call.caller.id < (Router.opened course trial s).tokens.issued :=
    Nat.lt_succ_of_lt caller
  cases r with
  | inr attempt =>
    obtain ⟨-, trial, made, flight, -, -, reaches, -⟩ := Router.waits_of_launch launched
    exact issuing.trans (reaches.grows (known trial))
  | inl ending =>
    cases free : call.isStopped s with
    | true =>
      rw [Router.launch_of_stopped course free, Prod.mk.injEq] at launched
      exact launched.1 ▸ issuing
    | false =>
      cases listed : router.registration.trial? course.progress.current with
      | none =>
        rw [Router.launch_of_unlisted free listed, Prod.mk.injEq] at launched
        exact launched.1 ▸ issuing
      | some trial =>
        obtain ⟨inv, same, last, reaches, rfl⟩ := Router.ended_of_launch free listed launched
        exact issuing.trans (reaches.grows (same ▸ known trial))

/-- A step of a call lets the tokens grow, and keeps its own in order. There is one case for each
kind of step; most of them do not touch the tokens. -/
theorem Step.grows (step : Step router s j s' j') (sound : j.Sound s) :
    s.tokens.Grows s'.tokens ∧ j'.Sound s' := by
  have aside {s' : State} (aside : s.Aside s') : s.tokens.Grows s'.tokens :=
    aside.tokens ▸ .refl _
  have idle {s' : State} {j' : Journey} (same : j'.call = j.call)
      (grows : s.tokens.Grows s'.tokens)
      (idle : ∀ course attempt, j'.phase ≠ .attempting course attempt) :
      s.tokens.Grows s'.tokens ∧ j'.Sound s' :=
    ⟨grows, sound_of_idle (same ▸ Nat.lt_of_lt_of_le sound.caller grows.issued) idle⟩
  cases step with
  | refused phase answer =>
    exact idle rfl (aside (router.aside_receive answer)) (fun _ _ => by simp)
  | chosen phase answer =>
    exact idle rfl (aside (router.aside_receive answer)) (fun _ _ => by simp)
  | asked phase answer =>
    exact idle rfl (aside (router.aside_receive answer)) (fun _ _ => by simp)
  | answered phase isDue =>
    exact idle rfl (aside (State.aside_settle s _ _)) (fun _ _ => by simp)
  | embarked phase => exact idle rfl (aside (router.aside_embark _ _ s)) (fun _ _ => by simp)
  | withheld phase stopped launched =>
    exact idle rfl (grows_of_launch sound.caller launched) (fun _ _ => by simp)
  | sped phase free launched =>
    exact idle rfl (grows_of_launch sound.caller launched) (fun _ _ => by simp)
  | launched phase launched =>
    have grows : s.tokens.Grows s'.tokens := grows_of_launch sound.caller launched
    obtain ⟨-, trial, made, flight, -, rfl, reaches, issued⟩ := Router.waits_of_launch launched
    refine ⟨grows, Nat.lt_of_lt_of_le sound.caller grows.issued, ?_⟩
    rintro _ _ ⟨⟩
    exact ⟨rfl, Nat.lt_of_lt_of_le (Nat.lt_succ_self _) reaches.issued_le, issued, rfl⟩
  | waited phase resumed =>
    obtain ⟨child, known, issued, caller⟩ := sound.attempt _ _ phase
    obtain ⟨flight, rfl, reaches, still⟩ := Router.waits_of_resume issued resumed
    have grows : s.tokens.Grows s'.tokens := reaches.grows (caller ▸ sound.caller)
    refine ⟨grows, Nat.lt_of_lt_of_le sound.caller grows.issued, ?_⟩
    rintro _ _ ⟨⟩
    exact ⟨child, Nat.lt_of_lt_of_le known grows.issued, still, caller⟩
  | left phase resumed =>
    obtain ⟨child, known, issued, caller⟩ := sound.attempt _ _ phase
    obtain ⟨last, reaches, rfl⟩ := Router.ended_of_resume issued known resumed
    exact idle rfl (reaches.grows (caller ▸ sound.caller)) (fun _ _ => by simp)
  | concluded phase answer =>
    exact idle rfl (aside (router.aside_conclude answer)) (fun _ _ => by simp)
  | fellBack phase answer =>
    exact idle rfl (aside (router.aside_conclude answer)) (fun _ _ => by simp)
  | dropped phase => exact idle rfl (.refl _) (fun _ _ => by simp)
  | @droppedInFlight _ course attempt phase =>
    obtain ⟨child, known, issued, caller⟩ := sound.attempt _ _ phase
    have takenDown : s.tokens.Grows (attempt.invocation.abandon attempt.flight s).tokens :=
      (Invocation.abandon_reaches attempt.flight s).grows (caller ▸ sound.caller)
    have told := router.aside_report course .disposed
      ((attempt.invocation.abandon attempt.flight s).dropGuard (.holding attempt.scope))
    have grows : s.tokens.Grows (router.abandon (.attempting course attempt) s).tokens :=
      told.tokens ▸ takenDown
    exact idle rfl grows (fun _ _ => by simp)

/-- What may become of a call: it takes steps, and meanwhile the tokens may grow. All that a call
knows of the others is in that growth. -/
inductive Travels (router : Router) (s : State) (j : Journey) : State → Journey → Prop where
  | stay : Travels router s j s j
  | step {s' s'' : State} {j' j'' : Journey} (before : Travels router s j s' j')
      (last : Step router s' j' s'' j'') : Travels router s j s'' j''
  | meanwhile {s' s'' : State} {j' : Journey} (before : Travels router s j s' j')
      (grows : s'.tokens.Grows s''.tokens) : Travels router s j s'' j'

namespace Travels

theorem trans {s'' : State} {j'' : Journey} (first : Travels router s j s' j')
    (second : Travels router s' j' s'' j'') : Travels router s j s'' j'' := by
  induction second with
  | stay => exact first
  | step before last ih => exact .step ih last
  | meanwhile before grows ih => exact .meanwhile ih grows

/-- A call stays the same call. -/
theorem call_eq (travels : Travels router s j s' j') : j'.call = j.call := by
  induction travels with
  | stay => rfl
  | step before last ih => exact last.call_eq.trans ih
  | meanwhile before grows ih => exact ih

/-- The tokens grow as a call travels, and its own stay in order. -/
theorem grows (travels : Travels router s j s' j') (sound : j.Sound s) :
    s.tokens.Grows s'.tokens ∧ j'.Sound s' := by
  induction travels with
  | stay => exact ⟨.refl _, sound⟩
  | step before last ih =>
    obtain ⟨grown, still⟩ := ih
    obtain ⟨grows, after⟩ := last.grows still
    exact ⟨grown.trans grows, after⟩
  | meanwhile before grows ih =>
    obtain ⟨grown, still⟩ := ih
    exact ⟨grown.trans grows, still.mono grows⟩

end Travels

end Journey

/-- Whatever happens outside the calls lets the tokens grow. Only the issue and the cancellation of
a token touch them at all. -/
theorem State.Outside.grows {s s' : State} (change : s.Outside s') :
    s.tokens.Grows s'.tokens := by
  cases change with
  | issued => exact .issue _
  | cancelled known => exact .cancel _ _ known
  | _ => exact .refl _

namespace World

variable {router : Router} {w w' : World} {j : Journey} {n : Nat}

/-- Only issued tokens are cancelled, and the tokens of every call are in order. This is the
invariant of a world. -/
structure Sound (w : World) : Prop where
  tokens : w.state.tokens.Sound
  journeys : ∀ j ∈ w.journeys, j.Sound w.state

/-- A world that no call has joined yet. -/
theorem sound_of_empty {s : State} (tokens : s.tokens.Sound) : Sound ⟨s, []⟩ :=
  ⟨tokens, fun _ impossible => absurd impossible List.not_mem_nil⟩

/-- Whatever happens keeps the tokens in order and lets them grow. A step is one of the call that
takes it; to the other calls it is nothing but growth. -/
theorem Moves.grows (moves : Moves router w w') (sound : w.Sound) :
    w.state.tokens.Grows w'.state.tokens ∧ w'.Sound := by
  cases moves with
  | joined caller =>
    refine ⟨.refl _, sound.tokens, ?_⟩
    intro j member
    rcases List.mem_append.mp member with known | new
    · exact sound.journeys j known
    · rw [List.mem_singleton.mp new]
      exact Journey.sound_of_idle caller (fun _ _ => by simp)
  | stepped here step =>
    obtain ⟨grows, after⟩ := step.grows (sound.journeys _ (List.mem_of_getElem? here))
    refine ⟨grows, grows.sound sound.tokens, ?_⟩
    intro j member
    rcases List.mem_or_eq_of_mem_set member with other | rfl
    · exact (sound.journeys j other).mono grows
    · exact after
  | outside change =>
    exact ⟨change.grows, change.grows.sound sound.tokens,
      fun j member => (sound.journeys j member).mono change.grows⟩

/-- A world stays in order, by induction on its history. -/
theorem Becomes.sound (becomes : Becomes router w w') (sound : w.Sound) : w'.Sound := by
  induction becomes with
  | refl => exact sound
  | tail _ moves ih => exact (moves.grows ih).2

/-- The tokens grow in whatever becomes of a world. So a cancelled token stays cancelled
throughout. -/
theorem Becomes.grows (becomes : Becomes router w w') (sound : w.Sound) :
    w.state.tokens.Grows w'.state.tokens := by
  induction becomes with
  | refl => exact .refl _
  | tail before moves ih => exact ih.trans (moves.grows (Becomes.sound before sound)).1

/-- Whatever happens, each call goes on travelling: it takes the step itself, or the tokens grow
while another one does. -/
theorem Moves.travels (moves : Moves router w w') (sound : w.Sound)
    (here : w.journeys[n]? = some j) :
    ∃ j', w'.journeys[n]? = some j' ∧ j.Travels router w.state w'.state j' := by
  have known : n < w.journeys.length := (List.getElem?_eq_some_iff.mp here).1
  have waiting : j.Travels router w.state w'.state j :=
    .meanwhile .stay (moves.grows sound).1
  cases moves with
  | joined caller => exact ⟨j, (List.getElem?_append_left known).trans here, waiting⟩
  | @stepped m j₀ j₁ s' there step =>
    by_cases same : m = n
    · subst same
      obtain rfl : j₀ = j := Option.some.inj (there.symm.trans here)
      exact ⟨j₁, List.getElem?_set_self known, .step .stay step⟩
    · exact ⟨j, (List.getElem?_set_ne same).trans here, waiting⟩
  | outside change => exact ⟨j, here, waiting⟩

/-- A call that is there has been there before, or it has just joined. No call is ever removed, so
numbers stay with their calls. -/
theorem Moves.origin (moves : Moves router w w') (sound : w.Sound)
    (here : w'.journeys[n]? = some j) :
    (∃ j₀, w.journeys[n]? = some j₀ ∧ j₀.Travels router w.state w'.state j) ∨
      ∃ call, j = { call } ∧ call.caller.id < w'.state.tokens.issued := by
  by_cases known : n < w.journeys.length
  · obtain ⟨j', there, travels⟩ := moves.travels sound (List.getElem?_eq_getElem known)
    obtain rfl : j' = j := Option.some.inj (there.symm.trans here)
    exact .inl ⟨_, List.getElem?_eq_getElem known, travels⟩
  · have beyond : w.journeys.length ≤ n := Nat.le_of_not_lt known
    cases moves with
    | joined caller =>
      rw [List.getElem?_append_right beyond] at here
      exact .inr ⟨_, List.mem_singleton.mp (List.mem_of_getElem? here), caller⟩
    | stepped there step =>
      rw [List.getElem?_eq_none (by rwa [List.length_set])] at here
      cases here
    | outside change =>
      rw [List.getElem?_eq_none beyond] at here
      cases here

/-- A call goes on travelling in whatever becomes of its world. So a property that steps and growth
keep is kept by every history. -/
theorem Becomes.travels (becomes : Becomes router w w') (sound : w.Sound)
    (here : w.journeys[n]? = some j) :
    ∃ j', w'.journeys[n]? = some j' ∧ j.Travels router w.state w'.state j' := by
  induction becomes with
  | refl => exact ⟨j, here, .stay⟩
  | tail before moves ih =>
    obtain ⟨j₁, there, travels⟩ := ih
    obtain ⟨j₂, now, onwards⟩ := moves.travels (Becomes.sound before sound) there
    exact ⟨j₂, now, travels.trans onwards⟩

/-- Each call of a world has joined it and has travelled since. So it is enough to follow one call,
from the moment it arrived, through steps and growth. -/
theorem Becomes.origin {s : State} (becomes : Becomes router ⟨s, []⟩ w) (tokens : s.tokens.Sound)
    (here : w.journeys[n]? = some j) :
    ∃ s₀ call, s₀.tokens.Sound ∧ call.caller.id < s₀.tokens.issued ∧
      Journey.Travels router s₀ { call } w.state j := by
  induction becomes generalizing j with
  | refl => simp at here
  | tail before moves ih =>
    have sound : World.Sound _ := Becomes.sound before (sound_of_empty tokens)
    rcases moves.origin sound here with ⟨j₀, there, onwards⟩ | ⟨call, rfl, caller⟩
    · obtain ⟨s₀, call, first, caller, travels⟩ := ih there
      exact ⟨s₀, call, first, caller, travels.trans onwards⟩
    · exact ⟨_, call, (moves.grows sound).2.tokens, caller, .stay⟩

/-- The steps of one call are a history of its world, in which the other calls stand still. -/
theorem becomes_of_steps {a b : State × Journey} (steps : Journey.Steps router a b)
    (before after : List Journey) :
    Becomes router ⟨a.1, before ++ a.2 :: after⟩ ⟨b.1, before ++ b.2 :: after⟩ := by
  induction steps with
  | refl => exact .refl
  | @tail b c _ step ih =>
    have here : (before ++ b.2 :: after)[before.length]? = some b.2 := by
      rw [List.getElem?_append_right (Nat.le_refl _), Nat.sub_self]
      rfl
    have moves : Moves router ⟨b.1, before ++ b.2 :: after⟩
        ⟨c.1, (before ++ b.2 :: after).set before.length c.2⟩ := .stepped here step
    rw [List.set_append_right _ _ (Nat.le_refl _), Nat.sub_self] at moves
    exact .tail ih moves

/-- What calls do by themselves, one after another, is a history. The worlds of the examples are
made in this way. -/
theorem becomes_advance (router : Router) (turns : List Nat) (w : World) :
    Becomes router w (advance router turns w) := by
  induction turns generalizing w with
  | nil => exact .refl
  | cons n turns ih =>
    cases here : w.journeys[n]? with
    | none =>
      simp only [advance, here]
      exact ih w
    | some j =>
      have turn : Becomes router w
          ⟨(j.advance router w.state).1, w.journeys.set n (j.advance router w.state).2⟩ := by
        rcases j.advance_eq_or_step router w.state with stays | step
        · have unchanged : w.journeys.set n j = w.journeys := by
            obtain ⟨known, same⟩ := List.getElem?_eq_some_iff.mp here
            rw [← same, List.set_getElem_self]
          rw [stays, unchanged]
        · exact .single (.stepped here step)
      simp only [advance, here]
      exact turn.trans (ih _)

end World

end TrialRouting
