import TrialRouting.Proofs.Call.Route
import TrialRouting.Proofs.Call.World
import TrialRouting.Proofs.Pipeline.Decorators

/-!
# What a pipeline of decorators is

The decorators of a router are made when it is put together, each of them once, in the order of
their factories; the calls that follow make none. An attempt that goes through them leaves the
footprints of an onion around its work.
-/

namespace TrialRouting

/-- A line that says that a decorator has been made. -/
def Note.isCreation : Note → Bool
  | .created _ _ _ => true
  | _ => false

/-- The line that a factory writes when it makes its decorator. -/
def Factory.creation? (f : Factory) (config : RouterConfig) (service : String) : Option Note :=
  match f with
  | .interceptor i => some (.created i.kind service config.name)
  | _ => none

namespace State

variable {s s' s'' : State}

/-- The lines that say that decorators have been made. -/
def creations (s : State) : List Note :=
  s.journal.filter (·.isCreation)

/-- No decorator has been made in the meantime: none has said so, and neither circuits nor limiters
have been put in place for one. -/
structure NothingMade (s s' : State) : Prop where
  creations : s'.creations = s.creations
  circuits : s'.circuits.length = s.circuits.length
  limiters : s'.limiters.length = s.limiters.length

theorem NothingMade.refl (s : State) : s.NothingMade s :=
  ⟨rfl, rfl, rfl⟩

theorem NothingMade.trans (first : s.NothingMade s') (second : s'.NothingMade s'') :
    s.NothingMade s'' :=
  ⟨second.creations.trans first.creations, second.circuits.trans first.circuits,
    second.limiters.trans first.limiters⟩

/-- Lines about other things do not tell of decorators. Neither do changes inside a circuit or a
limiter that is already in place, since only their number is looked at. -/
theorem nothingMade_of_lines {lines : List Note} (journal : s'.journal = s.journal ++ lines)
    (others : ∀ n ∈ lines, n.isCreation = false) (circuits : s'.circuits.length = s.circuits.length)
    (limiters : s'.limiters.length = s.limiters.length) : s.NothingMade s' := by
  have none' : lines.filter (·.isCreation) = [] :=
    List.filter_eq_nil_iff.mpr fun n member => by simp [others n member]
  exact ⟨by rw [State.creations, journal, List.filter_append, none',
      List.append_nil, State.creations],
    circuits, limiters⟩

theorem nothingMade_note (s : State) (n : Note) (other : n.isCreation = false) :
    s.NothingMade (s.note n) :=
  nothingMade_of_lines rfl (fun _ member => List.mem_singleton.mp member ▸ other) rfl rfl

/-- Nothing a call does besides its attempts makes a decorator. -/
theorem Aside.nothingMade (aside : s.Aside s') : s.NothingMade s' := by
  obtain ⟨lines, journal, asides⟩ := aside.journal
  refine nothingMade_of_lines journal ?_ (by rw [aside.circuits]) (by rw [aside.limiters])
  intro n member
  have own := asides n member
  cases n <;> first | rfl | cases own

/-- A disposed scope makes no decorator. -/
theorem nothingMade_dropGuard (s : State) (scope : Nat) :
    s.NothingMade (s.dropGuard (.holding scope)) :=
  (nothingMade_note s (.scopeDisposed scope) rfl).trans ⟨rfl, rfl, rfl⟩

/-- Nor does a launched attempt that opens its scope and asks it for the implementation. -/
theorem nothingMade_opened (course : Course) (trial : Trial) (s : State) :
    s.NothingMade (Router.opened course trial s) := by
  have opened : s.NothingMade s.issueToken.openScope :=
    (nothingMade_note s (.scopeOpened s.catalog.nextScope) rfl).trans ⟨rfl, rfl, rfl⟩
  have asked : s.issueToken.openScope.NothingMade (s.issueToken.openScope.note
      (.resolving s.catalog.nextScope course.progress.current trial.implementation)) :=
    nothingMade_note _ _ rfl
  refine (opened.trans asked).trans (nothingMade_of_lines rfl ?_ rfl rfl)
  intro n member
  obtain ⟨_, -, rfl⟩ := List.mem_map.mp member
  rfl

end State

/-- Nothing an attempt does makes a decorator. The induction follows its effects, each of which
writes some other line, or changes a circuit or a limiter where it is. -/
theorem Invocation.Reaches.nothingMade {inv : Invocation} {s s' : State}
    (reaches : inv.Reaches s s') : s.NothingMade s' := by
  refine reaches.along .refl (fun one two => one.trans two) ?_
  intro a b effect
  cases effect with
  | noted ns own =>
    refine State.nothingMade_of_lines rfl ?_ rfl rfl
    intro n member
    rcases own n member with rfl | rfl | ⟨text, rfl⟩
    · cases inv.work <;> rfl
    · cases inv.work <;> rfl
    · rfl
  | arrived slot => exact ⟨rfl, List.length_modify .., rfl⟩
  | settled slot admission how => exact ⟨rfl, List.length_modify .., rfl⟩
  | took slot => exact ⟨rfl, rfl, List.length_modify ..⟩
  | gaveBack slot => exact ⟨rfl, rfl, List.length_modify ..⟩
  | _ => exact ⟨rfl, rfl, rfl⟩

namespace Router

variable {router : Router} {call : Call} {course : Course} {s s' : State}

/-- An attempt is launched with the decorators there are. The pipeline is the router's, and
launching goes through it without building anything. -/
theorem nothingMade_launch {r : Ending ⊕ Attempt}
    (launched : router.launch call course s = (s', r)) : s.NothingMade s' := by
  have issued : s.NothingMade s.issueToken := ⟨rfl, rfl, rfl⟩
  cases r with
  | inr attempt =>
    obtain ⟨-, trial, made, flight, -, -, reaches, -⟩ := waits_of_launch launched
    exact (State.nothingMade_opened course trial s).trans reaches.nothingMade
  | inl ending =>
    cases free : call.isStopped s with
    | true =>
      rw [launch_of_stopped course free, Prod.mk.injEq] at launched
      exact launched.1 ▸ issued
    | false =>
      cases listed : router.registration.trial? course.progress.current with
      | none =>
        rw [launch_of_unlisted free listed, Prod.mk.injEq] at launched
        exact launched.1 ▸ issued
      | some trial =>
        obtain ⟨inv, -, last, reaches, rfl⟩ := ended_of_launch free listed launched
        exact ((State.nothingMade_opened course trial s).trans reaches.nothingMade).trans
          (State.nothingMade_dropGuard _ _)

/-- It goes on with the decorators it is inside of. -/
theorem nothingMade_resume {attempt : Attempt} {r : Ending ⊕ Attempt}
    (issued : attempt.flight.Issued s.tokens) (known : attempt.token.id < s.tokens.issued)
    (resumed : resumeAttempt course attempt s = (s', r)) : s.NothingMade s' := by
  cases r with
  | inr rest =>
    obtain ⟨flight, -, reaches, -⟩ := waits_of_resume issued resumed
    exact reaches.nothingMade
  | inl ending =>
    obtain ⟨last, reaches, rfl⟩ := ended_of_resume issued known resumed
    exact reaches.nothingMade.trans (State.nothingMade_dropGuard _ _)

/-- A call that is taken down makes no decorator. -/
theorem nothingMade_abandon (router : Router) (stage : Stage) (s : State) :
    s.NothingMade (router.abandon stage s) := by
  cases stage with
  | selecting due opinion => exact .refl s
  | attempting course attempt =>
    have takenDown : s.NothingMade (attempt.invocation.abandon attempt.flight s) :=
      (Invocation.abandon_reaches attempt.flight s).nothingMade
    exact (takenDown.trans (State.nothingMade_dropGuard _ _)).trans
      (router.aside_report course .disposed _).nothingMade

end Router

/-- No step of a call makes a decorator, whichever it is: those that start and resume attempts go
through the pipeline there is, and the others do not touch it. -/
theorem Journey.Step.nothingMade {router : Router} {s s' : State} {j j' : Journey}
    (step : Step router s j s' j') (sound : j.Sound s) : s.NothingMade s' := by
  cases step with
  | refused phase answer => exact (router.aside_receive answer).nothingMade
  | chosen phase answer => exact (router.aside_receive answer).nothingMade
  | asked phase answer => exact (router.aside_receive answer).nothingMade
  | answered phase isDue => exact (State.aside_settle s _ _).nothingMade
  | embarked phase => exact (router.aside_embark _ _ s).nothingMade
  | withheld phase stopped launched => exact Router.nothingMade_launch launched
  | sped phase free launched => exact Router.nothingMade_launch launched
  | launched phase launched => exact Router.nothingMade_launch launched
  | waited phase resumed =>
    obtain ⟨-, known, issued, -⟩ := sound.attempt _ _ phase
    exact Router.nothingMade_resume issued known resumed
  | left phase resumed =>
    obtain ⟨-, known, issued, -⟩ := sound.attempt _ _ phase
    exact Router.nothingMade_resume issued known resumed
  | concluded phase answer => exact (router.aside_conclude answer).nothingMade
  | fellBack phase answer => exact (router.aside_conclude answer).nothingMade
  | dropped phase => exact router.nothingMade_abandon _ s
  | droppedInFlight phase => exact router.nothingMade_abandon _ s

/-- However many calls follow, and whatever happens around them, no decorator is made. The induction
follows the moves of the world. -/
theorem World.Becomes.nothingMade {router : Router} {w w' : World}
    (becomes : World.Becomes router w w') (sound : w.Sound) :
    w.state.NothingMade w'.state := by
  induction becomes with
  | refl => exact .refl _
  | tail before moves ih =>
    refine ih.trans ?_
    cases moves with
    | joined caller => exact .refl _
    | stepped here step =>
      exact step.nothingMade ((World.Becomes.sound before sound).journeys _
        (List.mem_of_getElem? here))
    | outside change => cases change <;> exact ⟨rfl, rfl, rfl⟩

/-! ### Building -/

namespace Pipeline

variable (config : RouterConfig) (service : String)

/-- Each factory makes one decorator, from the first factory to the last one. The state is handed on
from one to the next, which is how circuits and limiters get their places. -/
theorem build_eq_foldl (factories : List Factory) (s : State) :
    build config service factories s =
      factories.foldl (fun before f =>
        let made := f.create config service before.1
        (made.1, before.2 ++ [made.2])) (s, []) := by
  have made (factories : List Factory) (before : State × Pipeline) :
      factories.foldl (fun before f =>
        let made := f.create config service before.1
        (made.1, before.2 ++ [made.2])) before =
      ((build config service factories before.1).1,
        before.2 ++ (build config service factories before.1).2) := by
    induction factories generalizing before with
    | nil => simp only [List.foldl_nil, build, List.append_nil]
    | cons f factories ih =>
      simp only [List.foldl_cons, ih, build, List.append_assoc, List.singleton_append]
  rw [made, List.nil_append]

/-- Making decorators leaves the tokens alone. -/
theorem tokens_build (factories : List Factory) (s : State) :
    (build config service factories s).1.tokens = s.tokens := by
  induction factories generalizing s with
  | nil => rfl
  | cons f factories ih =>
    rw [build, ih]
    cases f <;> rfl

theorem length_build (factories : List Factory) (s : State) :
    (build config service factories s).2.length = factories.length := by
  induction factories generalizing s with
  | nil => rfl
  | cons f factories ih => rw [build, List.length_cons, List.length_cons, ih]

/-- Interceptors say that they have been made, in order. Built-in decorators say nothing, but the
lines are written in the order of all factories. -/
theorem creations_build (factories : List Factory) (s : State) :
    (build config service factories s).1.creations =
      s.creations ++ factories.filterMap (·.creation? config service) := by
  have created (f : Factory) (s : State) : (f.create config service s).1.creations =
      s.creations ++ (f.creation? config service).toList := by
    cases f with
    | interceptor i => exact List.filter_append ..
    | _ => exact (List.append_nil _).symm
  induction factories generalizing s with
  | nil => exact (List.append_nil _).symm
  | cons f factories ih =>
    rw [build, ih, created, List.append_assoc, List.filterMap_cons]
    cases f.creation? config service <;> rfl

end Pipeline

/-! ### The onion of a pipeline -/

namespace Invocation

/-- The footprints of the work in the middle of an onion, and what it has come to: either it has not
been called, since its token had been cancelled, or it has been called, once. -/
inductive Core : List Footprint → Option Outcome → Prop where
  | stopped : Core [] (some (.error cancelledFailure))
  | called (answer : Option Outcome) : Core [.called] answer

variable {inv : Invocation}

/-- Where a run of the work stands: it has been called, or it has been stopped before. Once it has
been called it only waits, so that no further turn calls it again. -/
theorem runs_terminal {prints : List Footprint}
    {reply : Outcome ⊕ inv.terminal.Waiting} (run : inv.terminal.Runs prints reply) :
    prints = [.called] ∨ prints = [] ∧ reply = .inl (.error cancelledFailure) := by
  induction run with
  | entered span token u =>
    simp only [terminal]
    split
    · exact .inr ⟨rfl, rfl⟩
    · split
      · exact .inl rfl
      · split
        · exact .inl rfl
        · exact .inl rfl
  | @resumed prints waiting before span u ih =>
    rcases ih with rfl | ⟨-, impossible⟩
    · have silent : (inv.terminal.resume span waiting u).prints = [] := by
        simp only [terminal]
        split
        · rfl
        · split
          · rfl
          · rfl
      exact .inl (by rw [silent]; rfl)
    · cases impossible

/-- The work is called at most once in a whole run, whether it answers or is taken down while it
waits. -/
theorem core_of_ends {prints : List Footprint} {answer : Option Outcome}
    (run : inv.terminal.Ends prints answer) : Core prints answer := by
  cases run with
  | answered run =>
    rcases runs_terminal run with rfl | ⟨rfl, same⟩
    · exact .called _
    · cases same
      exact .stopped
  | takenDown run u =>
    rcases runs_terminal run with rfl | ⟨-, impossible⟩
    · exact .called none
    · cases impossible

/-- The footprints of a pipeline are those of an onion around the work: there are as many layers as
decorators, and the work is the terminal in the middle. -/
theorem onion_of_pipeline {decorators : List Decorator} {prints : List Footprint}
    {final : Option Outcome} (run : (inv.service 0 decorators).Ends prints final) :
    Onion Core 0 decorators.length prints final := by
  have onion := onion_of_ends run
  rw [List.length_map] at onion
  cases onion with
  | through whole out => exact .through (core_of_ends whole) out
  | stopped inside out => exact .stopped inside out

end Invocation

/-- Composing decorators makes an onion.

A pipeline is the chain of its decorators' layers around the work, and the chain does what the
pipeline does, in every state. Every attempt that comes to an outcome has gone through an onion: the
decorators are entered in order, and left or taken down in exactly the reverse order; if one of them
does not call what is inside it, no later one is entered, nor is the work called, and its answer is
what the decorator around it receives; otherwise the work is called at most once.

Decorators can be split anywhere: those in front are around the pipeline of the others, and no
decorators are just the work. Building makes the decorator of each factory once and in order, and
however many calls of the router follow, none is made any more.

Proof: a single layer is entered before its inside and left after it, or keeps the attempt from its
inside; by induction on the layers a chain leaves the footprints of an onion, and layer by layer it
does what the pipeline does. -/
theorem pipeline_is_onion (inv : Invocation) (decorators : List Decorator) (r : Registration)
    (factories : List Factory) (config : RouterConfig) (telemetry : Telemetry.Provider) {s : State}
    (tokens : s.tokens.Sound) :
    (inv.Mirrors (inv.service 0 decorators) (inv.flight 0 decorators) decorators ∧
      ∀ prints o, (inv.service 0 decorators).Ends prints (some o) →
        Onion Invocation.Core 0 decorators.length prints (some o)) ∧
    (∀ outer inner, decorators = outer ++ inner → inv.service 0 decorators =
      chain 0 (outer.map inv.layer) (inv.service outer.length inner)) ∧
    (∀ place, inv.service place [] = inv.terminal) ∧
    (Pipeline.build config r.service factories s =
      factories.foldl (fun before f =>
        let made := f.create config r.service before.1
        (made.1, before.2 ++ [made.2])) (s, []) ∧
      let built := Router.build r factories config telemetry s
      built.2.pipeline.length = factories.length ∧
      built.1.creations = s.creations ++ factories.filterMap (·.creation? config r.service) ∧
      ∀ w, World.Becomes built.2 ⟨built.1, []⟩ w → built.1.NothingMade w.state) := by
  refine ⟨⟨inv.mirrors_service 0 decorators, fun prints o run => inv.onion_of_pipeline run⟩, ?_,
    fun _ => rfl, Pipeline.build_eq_foldl .., Pipeline.length_build .., ?_, ?_⟩
  · rintro outer inner rfl
    rw [Invocation.service, List.map_append, chain_append, List.length_map, Nat.zero_add]
    rfl
  · exact Pipeline.creations_build config r.service factories s
  · intro w becomes
    have kept : s.tokens = (Pipeline.build config r.service factories s).1.tokens :=
      (Pipeline.tokens_build config r.service factories s).symm
    exact World.Becomes.nothingMade becomes (World.sound_of_empty (kept ▸ tokens))

/-- A piece of work that would be done at once. -/
def promptWork : Invocation where
  context := .primary 0 "greeter" "greet" "flag" "true" ["true"]
  caller := ⟨0, []⟩
  work := .bare "true" { outcome := .ok (.text "hello") } false

/-- A decorator that answers by itself, between two that let attempts through. -/
def answeringStack : List Decorator :=
  [.logging "demo", .interceptor (.answering "short" (.text "no")), .logging "demo"]

/-- The decorator outside the answering one receives its answer; the one inside it is not entered,
and the work is not called. -/
theorem answering_stack_is_onion :
    ({} : State).tokens.Sound ∧
      ∃ prints, (promptWork.service 0 answeringStack).Ends prints (some (.ok (.text "no"))) ∧
        prints = [.entered 0, .entered 1, .left 1 none (.ok (.text "no")),
          .left 0 (some (.ok (.text "no"))) (.ok (.text "no"))] ∧
        Onion Invocation.Core 0 3 prints (some (.ok (.text "no"))) := by
  have tokens : ({} : State).tokens.Sound := fun _ none => absurd none List.not_mem_nil
  have run : (promptWork.service 0 answeringStack).Ends _ (some (.ok (.text "no"))) :=
    .answered (.entered none ⟨0, []⟩ {})
  have onion := pipeline_is_onion promptWork answeringStack spareRouter.registration [] {} .silent
    tokens
  exact ⟨tokens, _, run, rfl, onion.1.2 _ _ run⟩

end TrialRouting
