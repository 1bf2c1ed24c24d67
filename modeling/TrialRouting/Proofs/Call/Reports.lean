import TrialRouting.Proofs.Telemetry
import TrialRouting.Proofs.Call.Course

/-!
# What a call reports

A call that has got its key starts a scope and reports the key to it. Each attempt that is
followed by another one is reported with its failure and with the key that follows. At the
end there is one outcome: the success of the last attempt, its failure twice, as that of the
attempt and as that of the call, or the cancellation alone. The disposal of the scope is the
last report, and the only one at the end of a call that is taken down.

`Journey.Reports` says this of a journey in each phase. Attempts are silent, so the reports
come from three steps only: setting out, concluding an attempt, and taking a call down.
-/

namespace TrialRouting

open Telemetry (Account Report Utterance)

/-- As far as telemetry can tell, the given reports have been made to a scope, and no new scope has
been started. -/
structure State.Says (provider : Telemetry.Provider) (scope : Telemetry.Scope) (s s' : State)
    (reports : List Report) : Prop where
  utters : s.Utters provider s' (reports.map (scope, ·))
  reporters : s'.reporters = s.reporters

namespace State.Says

variable {provider : Telemetry.Provider} {scope : Telemetry.Scope} {s s' s'' : State}
  {first second : List Report}

/-- What is silent says nothing, whatever the provider and the scope. -/
theorem of_silent (silent : s.Silent s') : Says provider scope s s' [] :=
  ⟨silent.utters provider, silent.reporters⟩

theorem trans (one : Says provider scope s s' first) (two : Says provider scope s' s'' second) :
    Says provider scope s s'' (first ++ second) := by
  refine ⟨?_, two.reporters.trans one.reporters⟩
  rw [List.map_append]
  exact one.utters.trans two.utters

/-- What happens in silence before a report leaves it as it is. Most steps are a silent part and a
report. -/
theorem after_silent (silent : s.Silent s') (two : Says provider scope s' s'' second) :
    Says provider scope s s'' second :=
  (of_silent silent).trans two

end State.Says

namespace Router

variable {router : Router} {call : Call} {c : Course} {e : Ending} {s s' : State}

/-- A report of a call is made to its scope, whichever provider hears it. -/
theorem says_report (router : Router) (c : Course) (r : Report) (s : State) :
    s.Says router.telemetry c.reporter (router.report c r s) [r] := by
  obtain ⟨utters, reporters⟩ := s.utters_report router.telemetry (some c.span) c.reporter r
  exact ⟨utters, reporters⟩

/-- The last reports of a call are its outcome and the disposal. -/
theorem says_finish (router : Router) (c : Course) (r : Report) (s : State) :
    s.Says router.telemetry c.reporter (router.finish c r s) [r, .disposed] :=
  (says_report router c r s).trans (says_report router c .disposed _)

/-- A selected call starts the next scope, with its key and where the key is from. The scope is
named by the service, the method and that key. -/
theorem utters_embark (router : Router) (call : Call) (selection : Selection) (s : State) :
    s.Utters router.telemetry (router.embark call selection s).1
        ([.started, .variant selection.key selection.source].map
          ((router.embark call selection s).2.reporter, ·)) ∧
      (router.embark call selection s).1.reporters = s.reporters + 1 := by
  have counted : s.Utters router.telemetry { { s with invocations := s.invocations + 1 }.openSpan
      (s.nextSpan "invocation" s.invocations)
      [Trace.text "service" router.registration.service, Trace.text "method" call.method,
        Trace.text "key" selection.key, Trace.text "source" selection.source.text] with
      reporters := s.reporters + 1 } [] := by
    refine ⟨?_, ?_⟩
    · simp [State.recorded, State.openSpan, State.record]
    · simp [State.openSpan, State.record, Telemetry.sampled]
  obtain ⟨told, reporters⟩ :=
    (says_report router (router.embark call selection s).2 .started _).trans
    (says_report router (router.embark call selection s).2
      (.variant selection.key selection.source) _)
  exact ⟨counted.trans told, reporters⟩

/-- The value of an attempt is reported as the success of the call. Whether the call has been
cancelled meanwhile is not asked. -/
theorem says_of_value {v : Value} {r : Outcome ⊕ Course}
    (answer : router.conclude call c (.completed (.ok v)) s = (s', r)) :
    r = .inl (.ok v) ∧ s.Says router.telemetry c.reporter s' [.success, .disposed] := by
  simp only [conclude, verdict?, isFailure, Bool.false_and, Bool.false_eq_true, if_false,
    reportFailure, Progress.advance, Prod.mk.injEq] at answer
  obtain ⟨rfl, rfl⟩ := answer
  exact ⟨rfl, .after_silent (silent_noteExpiry c _ s) (says_finish router c .success _)⟩

/-- The failure of a cancelled call is not reported, only that it is cancelled. The attempt's own
failure is left out. -/
theorem says_of_cancelled {f : Failure} {trigger : Trigger}
    {deadline : Option (Instant × TimeoutPolicy)} {r : Outcome ⊕ Course}
    (verdict : router.verdict? c e = some (.error f, trigger, deadline))
    (cancelled : s.isCancelled call.token = true)
    (answer : router.conclude call c e s = (s', r)) :
    r = .inl (.error cancelledFailure) ∧
      s.Says router.telemetry c.reporter s' [.failure cancelledFailure, .disposed] := by
  have still : (noteExpiry c e s).isCancelled call.token = true :=
    ((aside_noteExpiry c e s).isCancelled call.token).trans cancelled
  simp only [conclude, verdict, isFailure, still, Bool.and_self, if_true, Prod.mk.injEq]
    at answer
  obtain ⟨rfl, rfl⟩ := answer
  exact ⟨rfl, .after_silent (silent_noteExpiry c e s) (says_finish router c _ _)⟩

/-- The failure of an attempt is reported, and then either the key of the next attempt or the same
failure as that of the call. Which of the two is for the fallback plan to say. -/
theorem says_of_failure {f : Failure} {trigger : Trigger}
    {deadline : Option (Instant × TimeoutPolicy)} {r : Outcome ⊕ Course}
    (verdict : router.verdict? c e = some (.error f, trigger, deadline))
    (free : s.isCancelled call.token = false) (answer : router.conclude call c e s = (s', r)) :
    (r = .inl (.error f) ∧ s.Says router.telemetry c.reporter s'
        [.attemptFailure c.progress.current f, .failure f, .disposed]) ∨
      ∃ next, r = .inr next ∧ next.reporter = c.reporter ∧
        next.progress.attempted = c.progress.attempted ++ [next.progress.current] ∧
        s.Says router.telemetry c.reporter s'
          [.attemptFailure c.progress.current f, .fallback next.progress.current] := by
  have still : (noteExpiry c e s).isCancelled call.token = false :=
    ((aside_noteExpiry c e s).isCancelled call.token).trans free
  have failed : s.Says router.telemetry c.reporter
      (router.reportFailure c (.error f) (noteExpiry c e s))
      [.attemptFailure c.progress.current f] :=
    .after_silent (silent_noteExpiry c e s) (says_report router c _ _)
  simp only [conclude, verdict, isFailure, still, Bool.and_false, Bool.false_eq_true, if_false]
    at answer
  split at answer
  · next v advanced =>
    exact absurd (congrArg Prod.snd advanced) (advance_error_ne_succeed _ _ _ _ v)
  · next progress g advanced =>
    obtain ⟨-, rfl⟩ := Progress.untried_of_giveUp advanced
    cases answer
    exact .inl ⟨rfl, failed.trans (.after_silent (State.silent_emit _ _ _)
      (says_finish router c _ _))⟩
  · next progress key advanced =>
    obtain ⟨rfl, attempted, -⟩ := Progress.attempted_of_advance advanced
    cases answer
    exact .inr ⟨_, rfl, rfl, attempted, failed.trans (.after_silent (State.silent_emit _ _ _)
      (says_report router c _ _))⟩

end Router

namespace Journey

/-- An attempt that a journey stands at has ended with a value, or the verdict on it is its failure.
One that was cut off has failed with the timeout of the trial. -/
theorem StandsAt.verdict {router : Router} {j : Journey} {selection : Selection}
    {made : List Leg} {leg : Leg} {c : Course} {e : Ending}
    (here : j.StandsAt router.registration selection made (some leg) c)
    (ending : leg.ending = some e) :
    (∃ v, e = .completed (.ok v)) ∨ ∃ f trigger deadline,
      leg.failure? router.registration = some f ∧
        router.verdict? c e = some (.error f, trigger, deadline) := by
  cases e with
  | completed o =>
    cases o with
    | ok v => exact .inl ⟨v, rfl⟩
    | error f => exact .inr ⟨f, _, _, by simp [Leg.failure?, ending], rfl⟩
  | expired =>
    have expired : leg.isExpired = true := (Leg.isExpired_iff ending).mpr rfl
    obtain ⟨⟨instant, policy⟩, deadline⟩ := Option.isSome_iff_exists.mp (here.due leg rfl expired)
    obtain ⟨timeout, -, -⟩ := here.keeps.covered instant policy deadline
    have key : leg.context.key = c.progress.current := by rw [here.context leg rfl]; rfl
    refine .inr ⟨.routing (.timeout c.progress.current policy.duration.millis),
      .timeout policy.action, none, ?_, ?_⟩
    · simp [Leg.failure?, ending, timeout, key]
    · simp only [Router.verdict?, deadline]

end Journey

/-! ### The account of a call -/

/-- The course a call is on. -/
def Phase.course? : Phase → Option Course
  | .launching c => some c
  | .attempting c _ => some c
  | .concluding c _ => some c
  | _ => none

/-- A call that has no key yet is on no course. -/
theorem Journey.AwaitsKey.course?_eq {j : Journey} (waiting : j.AwaitsKey) :
    j.phase.course? = none := by
  rcases waiting with phase | ⟨due, opinion, phase⟩
  · rw [phase]
    rfl
  · rw [phase]
    rfl

/-- The reports of a call that has got its key. -/
def Selection.opening (selection : Selection) : List Report :=
  [.started, .variant selection.key selection.source]

/-- The reports of attempts that were followed by others: for each its failure and then the next
key. -/
def detours (r : Registration) (made : List Leg) (keys : List String) : List Report :=
  (made.zip keys.tail).flatMap fun (leg, next) =>
    (leg.failure? r).toList.map (.attemptFailure leg.context.key ·) ++ [.fallback next]

/-- One more attempt is followed by another, and what was reported of those before it stays as it
is. -/
theorem detours_concat {r : Registration} {made : List Leg} {keys : List String} {leg : Leg}
    {f : Failure} {next : String} (failed : leg.failure? r = some f)
    (length : keys.length = made.length + 1) :
    detours r (made ++ [leg]) (keys ++ [next]) =
      detours r made keys ++ [.attemptFailure leg.context.key f, .fallback next] := by
  have nonempty : keys ≠ [] := List.ne_nil_of_length_eq_add_one length
  have tails : made.length = keys.tail.length := by simp [length]
  rw [detours, List.tail_append_of_ne_nil nonempty, List.zip_append tails, List.flatMap_append]
  simp [detours, failed]

namespace Journey

/-- The last reports of a call, given its phase and how the attempt it has come to has ended:
none while it is on its way. -/
inductive Closes (r : Registration) (cancelled : Prop) :
    Phase → Option Leg → List Report → Prop where
  | underway {phase : Phase} {c : Course} {leg? : Option Leg} (onCourse : phase.course? = some c) :
      Closes r cancelled phase leg? []
  | value {leg : Leg} {v : Value} (ending : leg.ending = some (.completed (.ok v))) :
      Closes r cancelled (.ended (.ok v)) (some leg) [.success, .disposed]
  | failure {leg : Leg} {f : Failure} (failed : leg.failure? r = some f) :
      Closes r cancelled (.ended (.error f)) (some leg)
        [.attemptFailure leg.context.key f, .failure f, .disposed]
  /-- The caller has cancelled the call; the attempt it had come to has failed or not started. -/
  | cancelled {leg? : Option Leg} (known : cancelled) :
      Closes r cancelled (.ended (.error cancelledFailure)) leg?
        [.failure cancelledFailure, .disposed]
  | takenDown {leg : Leg} (inFlight : leg.ending = none) :
      Closes r cancelled .takenDown (some leg) [.disposed]

/-- What a call has reported to its scope. The attempts `made` have been followed by others. -/
structure Reports (r : Registration) (cancelled : Prop) (j : Journey) (selection : Selection)
    (made : List Leg) (leg? : Option Leg) (closing : List Report) (a : Account) : Prop where
  selected : j.selection = some selection
  finished : j.finished = made ++ leg?.toList
  scope : a.scope = ⟨a.scope.number, r.service, j.call.method, selection.key⟩
  /-- The keys are those of its attempts, and of one that has not started if it has come to
  such a one. -/
  keys : keysOf j.legs <+: a.keys
  /-- The first of them is the key of the selection, which is the one that has been reported as the
  call's variant. -/
  primary : a.keys.head? = some selection.key
  length : a.keys.length = made.length + 1
  failed : ∀ leg ∈ made, (leg.failure? r).isSome = true
  reports : a.reports = selection.opening ++ detours r made a.keys ++ closing
  closes : Closes r cancelled j.phase leg? closing
  course : ∀ c, j.phase.course? = some c →
    c.reporter = a.scope ∧ c.progress.attempted = a.keys

/-- The account of a call: none before it has got a scope, which it only gets with its key. -/
def Tells (r : Registration) (s : State) (j : Journey) : Option Account → Prop
  | none => j.phase.course? = none ∧ j.legs = [] ∧
      ∀ selection, j.selection = some selection → j.phase = .selected selection
  | some a => ∃ selection made leg? closing,
      j.Reports r (s.isCancelled j.call.token = true) selection made leg? closing a

/-- What happens to the account of a call, as far as telemetry can tell. -/
inductive Extends (provider : Telemetry.Provider) (s s' : State) :
    Option Account → Option Account → Prop where
  | silent {account : Option Account} (silent : s.Silent s') :
      Extends provider s s' account account
  | opens {a : Account} (number : a.scope.number = s.reporters)
      (count : s'.reporters = s.reporters + 1) (utters : s.Utters provider s' a.utterances) :
      Extends provider s s' none (some a)
  | adds {a : Account} (keys : List String) (added : List Report)
      (said : s.Says provider a.scope s' added) :
      Extends provider s s' (some a) (some { a with keys, reports := a.reports ++ added })

variable {router : Router} {r : Registration} {s s' : State} {j j' : Journey}

/-- A call that has been cancelled stays cancelled. -/
theorem Closes.mono {before after : Prop} {phase : Phase} {leg? : Option Leg}
    {closing : List Report} (closes : Closes r before phase leg? closing)
    (still : before → after) : Closes r after phase leg? closing := by
  cases closes with
  | underway onCourse => exact .underway onCourse
  | value ending => exact .value ending
  | failure failed => exact .failure failed
  | cancelled known => exact .cancelled (still known)
  | takenDown inFlight => exact .takenDown inFlight

/-- An account stays right as the tokens grow. -/
theorem Tells.mono {account : Option Account} (tells : j.Tells r s account)
    (grows : s.tokens.Grows s'.tokens) : j.Tells r s' account := by
  cases account with
  | none => exact tells
  | some a =>
    obtain ⟨selection, made, leg?, closing, reports⟩ := tells
    exact ⟨selection, made, leg?, closing,
      { reports with closes := reports.closes.mono grows.isCancelled }⟩

/-- A call that stands at a course knows one key more than it has attempts behind it. -/
theorem StandsAt.length {selection : Selection} {made : List Leg} {leg? : Option Leg} {c : Course}
    (here : j.StandsAt r selection made leg? c) :
    c.progress.attempted.length = made.length + 1 := by
  rw [here.keeps.attempted, List.length_append, List.length_singleton, keysOf, List.length_map]

/-- A call that only moves on, on the course it is on, has nothing to add to its account. -/
theorem Reports.onwards {selection : Selection} {made : List Leg} {leg? leg?' : Option Leg}
    {a : Account} {c : Course} {cancelled : Prop}
    (reports : j.Reports r cancelled selection made leg? [] a) (phase : j.phase.course? = some c)
    (selected : j'.selection = j.selection) (call : j'.call = j.call)
    (onCourse : j'.phase.course? = some c) (finished : j'.finished = made ++ leg?'.toList)
    (keys : keysOf j'.legs <+: c.progress.attempted) :
    j'.Reports r cancelled selection made leg?' [] a := by
  obtain ⟨scope, attempted⟩ := reports.course c phase
  refine ⟨selected.trans reports.selected, finished, call ▸ reports.scope, attempted ▸ keys,
    reports.primary, reports.length, reports.failed, reports.reports, .underway onCourse, ?_⟩
  intro c' same
  obtain rfl : c = c' := Option.some.inj (onCourse.symm.trans same)
  exact ⟨scope, attempted⟩

/-- A call without a course that is not over has no account yet. -/
theorem Tells.eq_none {account : Option Account} (tells : j.Tells r s account)
    (waiting : j.phase.course? = none) (notOver : ¬ j.IsOver) : account = none := by
  cases account with
  | none => rfl
  | some a =>
    obtain ⟨selection, made, leg?, closing, reports⟩ := tells
    have closes := reports.closes
    rw [IsOver] at notOver
    generalize j.phase = phase at closes waiting notOver
    cases closes with
    | underway onCourse => cases waiting.symm.trans onCourse
    | value ending => exact absurd (.inl ⟨_, rfl⟩) notOver
    | failure failed => exact absurd (.inl ⟨_, rfl⟩) notOver
    | cancelled known => exact absurd (.inl ⟨_, rfl⟩) notOver
    | takenDown inFlight => exact absurd (.inr rfl) notOver

/-- A call on a course has an account of what it stands at. -/
theorem Tells.eq_some {account : Option Account} {selection : Selection} {made : List Leg}
    {leg? : Option Leg} {c : Course} (tells : j.Tells r s account)
    (phase : j.phase.course? = some c) (here : j.StandsAt r selection made leg? c) :
    ∃ a, account = some a ∧
      j.Reports r (s.isCancelled j.call.token = true) selection made leg? [] a := by
  cases account with
  | none => cases tells.1.symm.trans phase
  | some a =>
    obtain ⟨selection', made', leg?', closing, reports⟩ := tells
    obtain ⟨-, attempted⟩ := reports.course c phase
    have lengths : made.length = made'.length := by
      have known := here.length
      rw [attempted, reports.length] at known
      omega
    obtain ⟨rfl, same⟩ : made = made' ∧ leg?.toList = leg?'.toList :=
      List.append_inj (here.finished.symm.trans reports.finished) lengths
    obtain rfl : leg? = leg?' := by
      cases leg? <;> cases leg?' <;> simp_all
    obtain rfl : selection = selection' :=
      Option.some.inj (here.selected.symm.trans reports.selected)
    obtain rfl : closing = [] := by
      have closes := reports.closes
      generalize j.phase = at_ at closes phase
      cases closes with
      | underway _ => rfl
      | value _ => cases phase
      | failure _ => cases phase
      | cancelled _ => cases phase
      | takenDown _ => cases phase
    exact ⟨a, rfl, reports⟩

/-- A call that has ended has added its last reports to its account. -/
theorem Reports.close {selection : Selection} {made : List Leg} {leg? leg?' : Option Leg}
    {a : Account} {closing : List Report} {before after : Prop}
    (reports : j.Reports r before selection made leg? [] a)
    (selected : j'.selection = j.selection) (call : j'.call = j.call)
    (finished : j'.finished = made ++ leg?'.toList) (keys : keysOf j'.legs <+: a.keys)
    (ended : j'.phase.course? = none) (closes : Closes r after j'.phase leg?' closing) :
    j'.Reports r after selection made leg?' closing
      { a with reports := a.reports ++ closing } := by
  refine ⟨selected.trans reports.selected, finished, call ▸ reports.scope, keys, reports.primary,
    reports.length, reports.failed, ?_, closes, ?_⟩
  · rw [reports.reports, List.append_nil]
  · intro c' impossible
    cases ended.symm.trans impossible

/-- An attempt that starts, goes on or ends leaves the account of its call alone. -/
theorem Tells.onwards {account : Option Account} {selection : Selection} {c : Course}
    (tells : j.Tells r s account) (leg?' : Option Leg) (phase : j.phase.course? = some c)
    (here : j.StandsAt r selection j.finished none c) (grows : s.tokens.Grows s'.tokens)
    (selected : j'.selection = j.selection) (call : j'.call = j.call)
    (onCourse : j'.phase.course? = some c) (finished : j'.finished = j.finished ++ leg?'.toList)
    (keys : keysOf j'.legs <+: c.progress.attempted) : j'.Tells r s' account := by
  have later : j.Tells r s' account := tells.mono grows
  obtain ⟨a, rfl, reports⟩ := later.eq_some phase here
  refine ⟨selection, j.finished, leg?', [], ?_⟩
  have onwards := reports.onwards phase selected call onCourse finished keys
  rwa [← call] at onwards

/-! ### What each step reports

There is one lemma for each step, named for it. A step before the call has got a scope has nobody to
report to; one that starts or resumes an attempt is silent, because decorators and implementations
have no way to report; what is left are the steps that set out, conclude an attempt, or take a call
down with one. -/

/-- After a step a call has an account again: the one before, or what the step has reported added to
it. -/
def GoesOnTelling (router : Router) (s s' : State) (account : Option Account) (j' : Journey) :
    Prop :=
  ∃ account', j'.Tells router.registration s' account' ∧
    Extends router.telemetry s s' account account'

section Cases

variable {account : Option Account} {c next : Course} {e : Ending} {attempt rest : Attempt}
  {selection : Selection} {made : List Leg} {leg? : Option Leg} {a : Account}

/-- A call that has no scope and does not get one by its step reports nothing, and is not heard of
afterwards either. -/
theorem Tells.scopeless (tells : j.Tells router.registration s account)
    (before : j.phase.course? = none) (notOver : ¬ j.IsOver) (silent : s.Silent s')
    (after : j'.phase.course? = none) (legs : j'.legs = [])
    (selected : ∀ selection, j'.selection = some selection → j'.phase = .selected selection) :
    GoesOnTelling router s s' account j' := by
  obtain rfl := tells.eq_none before notOver
  exact ⟨none, ⟨after, legs, selected⟩, .silent silent⟩

/-- A call that gets no key by a step from one of its first two phases stays unheard of, whether it
is refused, waits on or is taken down. -/
theorem Tells.keyless (tells : j.Tells router.registration s account)
    (onCourse : j.OnCourse router.registration s)
    (waiting : j.AwaitsKey) (silent : s.Silent s') (phase : Phase) (after : phase.course? = none)
    (idle : ({ j with phase } : Journey).underway = []) :
    GoesOnTelling router s s' account { j with phase } := by
  obtain ⟨selection, finished, notOver⟩ := onCourse.keyless waiting
  refine tells.scopeless waiting.course?_eq notOver silent after ?_ fun key selected => ?_
  · rw [legs, idle, List.append_nil]
    exact finished
  · cases selection.symm.trans selected

/-- A call that gets its key reports it only when it sets out, which is its next step. -/
theorem Tells.chosen (tells : j.Tells router.registration s account)
    (onCourse : j.OnCourse router.registration s)
    (waiting : j.AwaitsKey) (silent : s.Silent s') (selection : Selection) :
    GoesOnTelling router s s' account
      { j with phase := .selected selection, selection := some selection } := by
  obtain ⟨-, finished, notOver⟩ := onCourse.keyless waiting
  refine tells.scopeless waiting.course?_eq notOver silent rfl
    (by simp [legs, underway, finished]) ?_
  rintro key ⟨⟩
  rfl

/-- A call that sets out gets a scope of its own, and reports its start and its key there. That key
is the first it is to attempt. -/
theorem Tells.embarked (tells : j.Tells router.registration s account)
    (onCourse : j.OnCourse router.registration s) (phase : j.phase = .selected selection) :
    GoesOnTelling router s (router.embark j.call selection s).1 account
      { j with phase := .launching (router.embark j.call selection s).2 } := by
  simp only [OnCourse, phase] at onCourse
  obtain ⟨selected, finished⟩ := onCourse
  obtain rfl := tells.eq_none (by rw [phase]; rfl) (by simp [IsOver, phase])
  obtain ⟨utters, count⟩ := router.utters_embark j.call selection s
  let scope := (router.embark j.call selection s).2.reporter
  refine ⟨some ⟨scope, [selection.key], selection.opening⟩,
    ⟨selection, [], none, [], selected, finished, rfl, ?_, rfl, rfl, ?_, rfl, .underway rfl, ?_⟩,
    .opens rfl count utters⟩
  · simp [legs, underway, finished, keysOf]
  · exact fun _ impossible => absurd impossible List.not_mem_nil
  · rintro c ⟨⟩
    exact ⟨rfl, rfl⟩

/-- An attempt that does not start or does not wait is silent: what it has come to is reported when
it is concluded. -/
theorem Tells.flewBy (tells : j.Tells router.registration s account)
    (onCourse : j.OnCourse router.registration s) (phase : j.phase = .launching c)
    (launched : router.launch j.call c s = (s', .inl e)) (grows : s.tokens.Grows s'.tokens)
    (leg? : Option Leg) (context : ∀ leg, leg? = some leg → leg.context = c.attemptContext) :
    GoesOnTelling router s s' account
      { j with phase := .concluding c e, finished := j.finished ++ leg?.toList } := by
  simp only [OnCourse, phase] at onCourse
  obtain ⟨selection, here⟩ := onCourse
  refine ⟨account, tells.onwards leg? (by rw [phase]; rfl) here grows rfl rfl rfl rfl ?_,
    .silent (router.silent_launch launched)⟩
  cases leg? with
  | none => simpa [legs, underway] using here.keeps.keysOf_prefix
  | some leg =>
    simpa [legs, underway] using here.keeps.keysOf_concat_prefix (context leg rfl)

/-- Nor is anything reported of an attempt that begins to wait, -/
theorem Tells.launched (tells : j.Tells router.registration s account)
    (onCourse : j.OnCourse router.registration s) (phase : j.phase = .launching c)
    (launched : router.launch j.call c s = (s', .inr attempt))
    (grows : s.tokens.Grows s'.tokens) :
    GoesOnTelling router s s' account { j with phase := .attempting c attempt } := by
  simp only [OnCourse, phase] at onCourse
  obtain ⟨selection, here⟩ := onCourse
  have silent := router.silent_launch launched
  obtain ⟨-, trial, made, flight, -, rfl, -, -⟩ := Router.waits_of_launch launched
  refine ⟨account, tells.onwards none (by rw [phase]; rfl) here grows rfl rfl rfl
    (List.append_nil _).symm ?_, .silent silent⟩
  exact here.keeps.keysOf_concat_prefix rfl

/-- that goes on waiting, -/
theorem Tells.waited (tells : j.Tells router.registration s account) (sound : j.Sound s)
    (onCourse : j.OnCourse router.registration s) (phase : j.phase = .attempting c attempt)
    (resumed : Router.resumeAttempt c attempt s = (s', .inr rest))
    (grows : s.tokens.Grows s'.tokens) :
    GoesOnTelling router s s' account { j with phase := .attempting c rest } := by
  simp only [OnCourse, phase] at onCourse
  obtain ⟨selection, here, context⟩ := onCourse
  obtain ⟨-, known, issued, -⟩ := sound.attempt _ _ phase
  have silent := Router.silent_resume issued known resumed
  obtain ⟨flight, rfl, -, -⟩ := Router.waits_of_resume issued resumed
  refine ⟨account, tells.onwards none (by rw [phase]; rfl) here grows rfl rfl rfl
    (List.append_nil _).symm ?_, .silent silent⟩
  exact here.keeps.keysOf_concat_prefix context

/-- or that has waited and comes to its end. -/
theorem Tells.left (tells : j.Tells router.registration s account) (sound : j.Sound s)
    (onCourse : j.OnCourse router.registration s) (phase : j.phase = .attempting c attempt)
    (resumed : Router.resumeAttempt c attempt s = (s', .inl e))
    (grows : s.tokens.Grows s'.tokens) :
    GoesOnTelling router s s' account
      { j with phase := .concluding c e, finished := j.finished ++ [attempt.leg (some e)] } := by
  simp only [OnCourse, phase] at onCourse
  obtain ⟨selection, here, context⟩ := onCourse
  obtain ⟨-, known, issued, -⟩ := sound.attempt _ _ phase
  refine ⟨account, tells.onwards (some _) (by rw [phase]; rfl) here grows rfl rfl rfl rfl ?_,
    .silent (Router.silent_resume issued known resumed)⟩
  have own : (attempt.leg (some e)).context = c.attemptContext := context
  simpa [legs, underway] using here.keeps.keysOf_concat_prefix own

/-- A call that is taken down with its attempt reports no outcome, only the disposal of its
scope. -/
theorem Tells.droppedInFlight (tells : j.Tells router.registration s account)
    (onCourse : j.OnCourse router.registration s) (phase : j.phase = .attempting c attempt) :
    GoesOnTelling router s (router.abandon (.attempting c attempt) s) account
      { j with phase := .takenDown, finished := j.finished ++ [attempt.leg none] } := by
  simp only [OnCourse, phase] at onCourse
  obtain ⟨selection, here, context⟩ := onCourse
  obtain ⟨a, rfl, reports⟩ := tells.eq_some (by rw [phase]; rfl) here
  obtain ⟨scope, attempted⟩ := reports.course c (by rw [phase]; rfl)
  have silent : s.Silent ((attempt.invocation.abandon attempt.flight s).dropGuard
      (.holding attempt.scope)) :=
    (Invocation.abandon_reaches attempt.flight s).silent.trans (State.silent_dropGuard _ _)
  refine ⟨some { a with reports := a.reports ++ [.disposed] },
    ⟨selection, j.finished, some (attempt.leg none), [.disposed],
      reports.close rfl rfl rfl ?_ rfl (.takenDown rfl)⟩,
    .adds a.keys [.disposed] (scope ▸ .after_silent silent (router.says_report c .disposed _))⟩
  rw [← attempted]
  have own : (attempt.leg none).context = c.attemptContext := context
  simpa [legs, underway] using here.keeps.keysOf_concat_prefix own

/-- A call that ends after the attempt it has come to adds its last reports, and its account is
closed. Nothing is reported to the scope after that. -/
theorem Reports.closed {o : Outcome} {before : Prop} {closing : List Report}
    (reports : j.Reports router.registration before selection made leg? [] a)
    (here : j.StandsAt router.registration selection made leg? c)
    (phase : j.phase = .concluding c e)
    (closes : Closes router.registration (s'.isCancelled j.call.token = true) (.ended o) leg?
      closing) (said : s.Says router.telemetry c.reporter s' closing) :
    GoesOnTelling router s s' (some a) { j with phase := .ended o } := by
  obtain ⟨scope, -⟩ := reports.course c (by rw [phase]; rfl)
  have keys : keysOf j.finished <+: a.keys := by simpa [legs, underway, phase] using reports.keys
  exact ⟨some _, ⟨selection, made, leg?, closing, reports.close rfl rfl here.finished
    (by simpa [legs, underway] using keys) rfl closes⟩, .adds a.keys closing (scope ▸ said)⟩

/-- A call that ends reports one outcome and the disposal. The outcome is the success of its last
attempt; or the failure of that attempt, first as that of the attempt and then as that of the
call; or the cancellation alone, whether that attempt has failed or was not allowed to start. -/
theorem Tells.concluded {o : Outcome} (tells : j.Tells router.registration s account)
    (onCourse : j.OnCourse router.registration s) (phase : j.phase = .concluding c e)
    (answer : router.conclude j.call c e s = (s', .inl o)) (grows : s.tokens.Grows s'.tokens) :
    GoesOnTelling router s s' account { j with phase := .ended o } := by
  simp only [OnCourse, phase] at onCourse
  obtain ⟨selection, made, leg?, here, ended⟩ := onCourse
  obtain ⟨a, rfl, reports⟩ := tells.eq_some (by rw [phase]; rfl) here
  rcases ended with ⟨leg, rfl, ending⟩ | ⟨rfl, rfl, cancelled⟩
  · rcases here.verdict ending with ⟨v, rfl⟩ | ⟨f, trigger, deadline, failed, verdict⟩
    · obtain ⟨same, said⟩ := Router.says_of_value answer
      cases same
      exact reports.closed here phase (.value ending) said
    · cases cancelled : s.isCancelled j.call.token with
      | true =>
        obtain ⟨same, said⟩ := Router.says_of_cancelled verdict cancelled answer
        cases same
        exact reports.closed here phase (.cancelled (grows.isCancelled cancelled)) said
      | false =>
        have key : leg.context.key = c.progress.current := by rw [here.context leg rfl]; rfl
        rcases Router.says_of_failure verdict cancelled answer with ⟨same, said⟩ | ⟨next, other, -⟩
        · cases same
          exact reports.closed here phase (.failure failed) (key ▸ said)
        · cases other
  · obtain ⟨same, said⟩ := Router.says_of_cancelled rfl cancelled answer
    cases same
    exact reports.closed here phase (.cancelled (grows.isCancelled cancelled)) said

/-- With one more key the account of a call is that of a call that has made a detour: the attempt
it had come to is behind it, with its failure, and the key that follows has been reported. -/
theorem Reports.detour {leg : Leg} {f : Failure} {before after : Prop}
    (reports : j.Reports r before selection made (some leg) [] a)
    (failed : leg.failure? r = some f) (phase : j.phase = .concluding c e)
    (told : next.reporter = a.scope)
    (attempted : next.progress.attempted = a.keys ++ [next.progress.current]) :
    ({ j with phase := .launching next } : Journey).Reports r after selection (made ++ [leg])
      none []
      { a with
        keys := a.keys ++ [next.progress.current]
        reports := a.reports ++
          [.attemptFailure leg.context.key f, .fallback next.progress.current] } := by
  refine ⟨reports.selected, ?_, reports.scope, ?_, ?_, ?_, ?_, ?_, .underway rfl, ?_⟩
  · rw [Option.toList_none, List.append_nil]
    exact reports.finished
  · refine List.IsPrefix.trans ?_ (List.prefix_append a.keys _)
    simpa [legs, underway, phase] using reports.keys
  · rw [List.head?_append, reports.primary, Option.some_or]
  · rw [List.length_append, reports.length, List.length_append, List.length_singleton,
      List.length_singleton]
  · intro other member
    rcases List.mem_append.mp member with earlier | last
    · exact reports.failed other earlier
    · rw [List.mem_singleton.mp last, failed, Option.isSome_some]
  · rw [detours_concat failed reports.length, reports.reports]
    simp
  · rintro _ ⟨⟩
    exact ⟨told, attempted⟩

/-- A call that falls back reports the failure of its attempt and the key that follows, before the
attempt on that key begins. So the key is reported even if that attempt never starts. -/
theorem Tells.fellBack (tells : j.Tells router.registration s account)
    (onCourse : j.OnCourse router.registration s) (phase : j.phase = .concluding c e)
    (answer : router.conclude j.call c e s = (s', .inr next)) :
    GoesOnTelling router s s' account { j with phase := .launching next } := by
  simp only [OnCourse, phase] at onCourse
  obtain ⟨selection, made, leg?, here, ended⟩ := onCourse
  obtain ⟨a, rfl, reports⟩ := tells.eq_some (by rw [phase]; rfl) here
  obtain ⟨scope, attempted⟩ := reports.course c (by rw [phase]; rfl)
  have goesOn := congrArg Prod.snd answer
  have free : s.isCancelled j.call.token = false := Router.free_of_conclude goesOn
  rcases ended with ⟨leg, rfl, ending⟩ | ⟨-, -, cancelled⟩
  · rcases here.verdict ending with ⟨v, rfl⟩ | ⟨f, trigger, deadline, failed, verdict⟩
    · cases (Router.says_of_value answer).1
    · rcases Router.says_of_failure verdict free answer
        with ⟨other, -⟩ | ⟨_, same, told, more, said⟩
      · cases other
      · cases same
        have key : leg.context.key = c.progress.current := by rw [here.context leg rfl]; rfl
        rw [← key] at said
        exact ⟨some _, ⟨selection, made ++ [leg], none, [],
          reports.detour failed phase (told.trans scope) (attempted ▸ more)⟩,
          .adds _ _ (scope ▸ said)⟩
  · cases free.symm.trans cancelled

end Cases

/-- Each step adds to the account of its call what it reports, and all else it does is silent. There
is one case for each kind of step, and a lemma for each case. -/
theorem Step.extends (sound : j.Sound s)
    (onCourse : j.OnCourse router.registration s) (step : Step router s j s' j')
    {account : Option Account} (tells : j.Tells router.registration s account) :
    ∃ account', j'.Tells router.registration s' account' ∧
      Extends router.telemetry s s' account account' := by
  have grows : s.tokens.Grows s'.tokens := (step.grows sound).1
  cases step with
  | refused phase answer =>
    exact tells.keyless onCourse (.inl phase) (router.silent_receive answer) (.ended _) rfl rfl
  | chosen phase answer =>
    exact tells.chosen onCourse (.inl phase) (router.silent_receive answer) _
  | asked phase answer =>
    exact tells.keyless onCourse (.inl phase) (router.silent_receive answer) (.selecting _ _) rfl
      rfl
  | answered phase isDue =>
    exact tells.chosen onCourse (.inr ⟨_, _, phase⟩) (State.silent_emit _ _ _) _
  | dropped phase =>
    exact tells.keyless onCourse (.inr ⟨_, _, phase⟩) (.refl _) .takenDown rfl rfl
  | embarked phase => exact tells.embarked onCourse phase
  | withheld phase stopped launched =>
    have flewBy := tells.flewBy onCourse phase launched grows none (by rintro _ ⟨⟩)
    rwa [Option.toList_none, List.append_nil] at flewBy
  | sped phase free launched =>
    exact tells.flewBy onCourse phase launched grows (some _) (by rintro _ ⟨⟩; rfl)
  | launched phase launched => exact tells.launched onCourse phase launched grows
  | waited phase resumed => exact tells.waited sound onCourse phase resumed grows
  | left phase resumed => exact tells.left sound onCourse phase resumed grows
  | droppedInFlight phase => exact tells.droppedInFlight onCourse phase
  | concluded phase answer => exact tells.concluded onCourse phase answer grows
  | fellBack phase answer => exact tells.fellBack onCourse phase answer

end Journey

end TrialRouting
