import Mathlib.Data.List.ReduceOption
import TrialRouting.Proofs.Call.Reports
import TrialRouting.Proofs.Call.Scopes

/-!
# The telemetry of calls that overlap

What a provider hears from the calls of a world is told apart by scope: each call that has
got its key has one of its own, and what is heard from it follows the grammar of
`Journey.Reports`, however the calls overlap. The minutes of a world are kept up by each
thing that happens in it, since every step adds to the account of one call only.

Counting follows from that: a call that has come to its end has reported one outcome, and
one fallback for each of its attempts but the first.
-/

namespace TrialRouting

open Telemetry (Account Minutes Report Sample Utterance heardFrom sampled total)

namespace Journey.Reports

variable {r : Registration} {cancelled : Prop} {j : Journey} {selection : Selection}
  {made : List Leg} {leg? : Option Leg} {closing : List Report} {a : Account}

/-- What the reports of an account add to the metrics, part by part: the opening, the detours, and
the closing. -/
theorem sampled_utterances (reports : j.Reports r cancelled selection made leg? closing a) :
    sampled a.utterances = selection.opening.flatMap (·.samples a.scope) ++
      (detours r made a.keys).flatMap (·.samples a.scope) ++
        closing.flatMap (·.samples a.scope) := by
  rw [sampled, Account.utterances, List.flatMap_map, reports.reports, List.flatMap_append,
    List.flatMap_append]

/-- Each attempt that was followed by another one counts as one fallback, and as no outcome. Its
failure is counted under a name of its own. -/
theorem total_detours (scope : Telemetry.Scope) (r : Registration) (made : List Leg)
    (keys : List String) :
    total "switchyard_fallbacks_total" ((detours r made keys).flatMap (·.samples scope)) =
        (made.zip keys.tail).length ∧
      total "switchyard_invocations_total" ((detours r made keys).flatMap (·.samples scope)) =
        0 := by
  unfold detours
  induction made.zip keys.tail with
  | nil => exact ⟨rfl, rfl⟩
  | cons one rest ih =>
    obtain ⟨leg, next⟩ := one
    obtain ⟨fallbacks, outcomes⟩ := ih
    simp only [List.flatMap_cons, List.flatMap_append, Telemetry.total_append, fallbacks, outcomes,
      List.length_cons]
    cases leg.failure? r with
    | none => exact ⟨Nat.add_comm _ _, rfl⟩
    | some f => exact ⟨Nat.add_comm _ _, rfl⟩

/-- The last reports of a call count as no fallback, and as one outcome if it has ended. A call that
was taken down has no outcome to count. -/
theorem total_closing {phase : Phase} (scope : Telemetry.Scope)
    (closes : Closes r cancelled phase leg? closing) :
    total "switchyard_fallbacks_total" (closing.flatMap (·.samples scope)) = 0 ∧
      ((∃ o, phase = .ended o) →
        total "switchyard_invocations_total" (closing.flatMap (·.samples scope)) = 1) := by
  cases closes with
  | underway onCourse =>
    refine ⟨rfl, ?_⟩
    rintro ⟨o, rfl⟩
    cases onCourse
  | value ending => exact ⟨rfl, fun _ => rfl⟩
  | failure failed => exact ⟨rfl, fun _ => rfl⟩
  | cancelled known => exact ⟨rfl, fun _ => rfl⟩
  | takenDown inFlight =>
    refine ⟨rfl, ?_⟩
    rintro ⟨o, impossible⟩
    cases impossible

/-- A call counts as many fallbacks as it has keys after the first, and one outcome if it has ended.
The opening counts as neither. -/
theorem totals (reports : j.Reports r cancelled selection made leg? closing a) :
    total "switchyard_fallbacks_total" (sampled a.utterances) + 1 = a.keys.length ∧
      ((∃ o, j.phase = .ended o) →
        total "switchyard_invocations_total" (sampled a.utterances) = 1) := by
  obtain ⟨fallbacks, outcomes⟩ := total_detours a.scope r made a.keys
  obtain ⟨noFallback, outcome⟩ := total_closing a.scope reports.closes
  have opened : total "switchyard_fallbacks_total"
        (selection.opening.flatMap (·.samples a.scope)) = 0 ∧
      total "switchyard_invocations_total"
        (selection.opening.flatMap (·.samples a.scope)) = 0 := ⟨rfl, rfl⟩
  have followed : (made.zip a.keys.tail).length = made.length := by
    simp [reports.length]
  rw [reports.sampled_utterances]
  simp only [Telemetry.total_append, opened.1, opened.2, fallbacks, outcomes, followed, noFallback]
  refine ⟨by rw [reports.length]; omega, fun ended => ?_⟩
  rw [outcome ended]

end Journey.Reports

namespace World

/-- The minutes of a world: an account for each of its calls that has got a scope, in
agreement with all that the provider has heard since the start. -/
structure Minuted (router : Router) (s : State) (w : World) (spoken : List Utterance)
    (accounts : List (Option Account)) : Prop where
  uttered : s.Utters router.telemetry w.state spoken
  tells : List.Forall₂ (fun account j => Journey.Tells router.registration w.state j account)
    accounts w.journeys
  minutes : Minutes s.reporters w.state.reporters spoken accounts.reduceOption

variable {router : Router} {s : State} {w w' : World} {n : Nat} {j : Journey}
  {spoken : List Utterance} {accounts : List (Option Account)}

/-- The account of a call, with those of the calls before and after it. A step of the call leaves
these others as they are. -/
theorem Minuted.split {before after : List Journey}
    (minuted : Minuted router s w spoken accounts) (calls : w.journeys = before ++ j :: after) :
    ∃ others account rest, accounts = others ++ account :: rest ∧
      List.Forall₂ (fun account j => Journey.Tells router.registration w.state j account)
        others before ∧
      Journey.Tells router.registration w.state j account ∧
      List.Forall₂ (fun account j => Journey.Tells router.registration w.state j account)
        rest after := by
  have tells := minuted.tells
  rw [calls] at tells
  have first := List.forall₂_take_append accounts before (j :: after) tells
  have last := List.forall₂_drop_append accounts before (j :: after) tells
  obtain ⟨account, rest, one, others, dropped⟩ := List.forall₂_cons_right_iff.mp last
  exact ⟨_, account, rest, by rw [← dropped, List.take_append_drop], first, one, others⟩

/-- What a step does to the account of its call keeps the minutes. It says nothing, begins an
account with the next scope, or adds to the one there is. -/
theorem minutes_of_extends {s₀ s' : State} {before after : List (Option Account)}
    {account account' : Option Account} (extends_ : Journey.Extends router.telemetry s s' account
      account') (uttered : s₀.Utters router.telemetry s spoken)
    (minutes : Minutes s₀.reporters s.reporters spoken
      (before ++ account :: after).reduceOption) :
    ∃ more, s₀.Utters router.telemetry s' (spoken ++ more) ∧
      Minutes s₀.reporters s'.reporters (spoken ++ more)
        (before ++ account' :: after).reduceOption := by
  cases extends_ with
  | silent silent =>
    refine ⟨[], uttered.trans (silent.utters _), ?_⟩
    rw [silent.reporters, List.append_nil]
    exact minutes
  | @opens a number count utters =>
    refine ⟨a.utterances, uttered.trans utters, ?_⟩
    simp only [List.reduceOption_append, List.reduceOption_cons_of_some,
      List.reduceOption_cons_of_none] at minutes ⊢
    rw [count]
    exact minutes.opens a number
  | @adds a keys added said =>
    refine ⟨added.map (a.scope, ·), uttered.trans said.utters, ?_⟩
    simp only [List.reduceOption_append, List.reduceOption_cons_of_some] at minutes ⊢
    rw [said.reporters]
    exact minutes.adds keys added

/-- Whatever happens in a world, its minutes are kept. A call that has just joined has no account
until it gets its scope. -/
theorem Moves.minuted (moves : Moves router w w') (sound : w.Sound)
    (onCourse : ∀ j ∈ w.journeys, j.OnCourse router.registration w.state)
    (minuted : Minuted router s w spoken accounts) :
    ∃ spoken' accounts', Minuted router s w' spoken' accounts' := by
  have grows := (moves.grows sound).1
  cases moves with
  | joined caller =>
    refine ⟨spoken, accounts ++ [none], minuted.uttered, ?_, ?_⟩
    · refine List.rel_append minuted.tells (.cons ⟨rfl, rfl, ?_⟩ .nil)
      exact fun _ impossible => nomatch impossible
    · simpa only [List.reduceOption_append, List.reduceOption_cons_of_none,
        List.reduceOption_nil, List.append_nil] using minuted.minutes
  | @stepped n j j' s' here step =>
    have member : j ∈ w.journeys := List.mem_of_getElem? here
    obtain ⟨before, after, split, replaced⟩ := exists_middle here
    obtain ⟨others, account, rest, rfl, first, tells, last⟩ := minuted.split split
    obtain ⟨account', now, extended⟩ := step.extends (sound.journeys j member)
      (onCourse j member) tells
    obtain ⟨more, uttered, minutes⟩ := minutes_of_extends extended minuted.uttered minuted.minutes
    refine ⟨_, _, uttered, ?_, minutes⟩
    rw [replaced]
    exact List.rel_append (first.imp fun _ _ old => old.mono grows)
      (.cons now (last.imp fun _ _ old => old.mono grows))
  | outside change =>
    have silent := change.silent
    refine ⟨spoken ++ [], accounts, minuted.uttered.trans (silent.utters _),
      minuted.tells.imp fun _ _ old => old.mono grows, ?_⟩
    rw [silent.reporters, List.append_nil]
    exact minuted.minutes

/-- Every world that calls have joined has minutes, by induction on its history. -/
theorem Becomes.minuted (tokens : s.tokens.Sound) (becomes : Becomes router ⟨s, []⟩ w) :
    ∃ spoken accounts, Minuted router s w spoken accounts := by
  induction becomes with
  | refl => exact ⟨[], [], .refl _ _, .nil, .nil _⟩
  | @tail w₁ w₂ before moves ih =>
    obtain ⟨spoken, accounts, minuted⟩ := ih
    refine moves.minuted (Becomes.sound before (sound_of_empty tokens)) ?_ minuted
    intro j member
    obtain ⟨n, here⟩ := List.mem_iff_getElem?.mp member
    exact Becomes.onCourse tokens before here

/-- An account in the minutes is that of a call. -/
theorem Minuted.exists_call (minuted : Minuted router s w spoken accounts) {a : Account}
    (member : a ∈ accounts.reduceOption) :
    ∃ j ∈ w.journeys, j.Tells router.registration w.state (some a) := by
  have listed : some a ∈ accounts := List.reduceOption_mem_iff.mp member
  have tells := minuted.tells
  generalize w.journeys = journeys at tells
  clear minuted member
  induction tells with
  | nil => exact absurd listed List.not_mem_nil
  | @cons account j accounts journeys first rest ih =>
    rcases List.mem_cons.mp listed with rfl | later
    · exact ⟨j, List.mem_cons_self, first⟩
    · obtain ⟨k, known, tells⟩ := ih later
      exact ⟨k, List.mem_cons_of_mem _ known, tells⟩

/-- A call that has got its key has an account, unless it has only just got it. The account begins
when the call sets out. -/
theorem Minuted.exists_account (minuted : Minuted router s w spoken accounts)
    (here : w.journeys[n]? = some j) {selection : Selection}
    (selected : j.selection = some selection) (onward : j.phase ≠ .selected selection) :
    ∃ a ∈ accounts.reduceOption, j.Tells router.registration w.state (some a) := by
  obtain ⟨before, after, split, -⟩ := exists_middle here
  obtain ⟨others, account, rest, rfl, -, tells, -⟩ := minuted.split split
  cases account with
  | none => exact absurd (tells.2.2 selection selected) onward
  | some a => exact ⟨a, by simp [List.reduceOption_append, List.reduceOption_cons_of_some], tells⟩

/-- If the calls that have got their keys have ended, there are as many accounts: calls without a
key have none. -/
theorem Minuted.length_eq (minuted : Minuted router s w spoken accounts)
    (ended : ∀ j ∈ w.journeys, j.selection.isSome = true → ∃ o, j.phase = .ended o) :
    accounts.reduceOption.length = w.journeys.countP (·.selection.isSome) := by
  have tells := minuted.tells
  generalize w.journeys = journeys at tells ended
  clear minuted
  induction tells with
  | nil => rfl
  | @cons account j accounts journeys first rest ih =>
    have others := ih fun k member => ended k (List.mem_cons_of_mem _ member)
    cases account with
    | some a =>
      obtain ⟨selection, made, leg?, closing, reports⟩ := first
      rw [List.reduceOption_cons_of_some, List.length_cons, others,
        List.countP_cons_of_pos (by simp [reports.selected])]
    | none =>
      have unselected : ¬ j.selection.isSome = true := by
        intro has
        obtain ⟨selection, selected⟩ := Option.isSome_iff_exists.mp has
        obtain ⟨o, phase⟩ := ended j List.mem_cons_self has
        cases phase.symm.trans (first.2.2 selection selected)
      rw [List.reduceOption_cons_of_none, others,
        List.countP_cons_of_neg (p := fun j : Journey => j.selection.isSome) unselected]

/-- What the metrics come to when all calls that have got their keys have ended. Each of them has
counted one outcome, and a fallback for each key after its first. -/
theorem Minuted.totals (minuted : Minuted router s w spoken accounts)
    (metrics : router.telemetry = .metrics)
    (ended : ∀ j ∈ w.journeys, j.selection.isSome = true → ∃ o, j.phase = .ended o) :
    total "switchyard_fallbacks_total" w.state.samples + w.journeys.countP (·.selection.isSome) =
        total "switchyard_fallbacks_total" s.samples +
          (accounts.reduceOption.map (·.keys.length)).sum ∧
      total "switchyard_invocations_total" w.state.samples =
        total "switchyard_invocations_total" s.samples +
          w.journeys.countP (·.selection.isSome) := by
  have each : ∀ a ∈ accounts.reduceOption,
      total "switchyard_fallbacks_total" (sampled a.utterances) + 1 = a.keys.length ∧
        total "switchyard_invocations_total" (sampled a.utterances) = 1 := by
    intro a member
    obtain ⟨j, called, selection, made, leg?, closing, reports⟩ := minuted.exists_call member
    obtain ⟨fallbacks, outcome⟩ := reports.totals
    exact ⟨fallbacks, outcome (ended j called (by simp [reports.selected]))⟩
  have samples : w.state.samples = s.samples ++ sampled spoken := by
    simpa [metrics] using minuted.uttered.samples
  rw [samples, Telemetry.total_append, Telemetry.total_append,
    Telemetry.total_sampled _ minuted.minutes.whole,
    Telemetry.total_sampled _ minuted.minutes.whole,
    ← minuted.length_eq ended]
  generalize accounts.reduceOption = opened at each
  induction opened with
  | nil => exact ⟨rfl, rfl⟩
  | cons a rest ih =>
    obtain ⟨fallbacks, outcome⟩ := each a List.mem_cons_self
    have others := ih fun b member => each b (List.mem_cons_of_mem _ member)
    simp only [List.map_cons, List.sum_cons, List.length_cons]
    omega

/-- What a provider hears from the calls of a world that began with a given state. -/
structure HearsGrammar (router : Router) (s : State) (w : World) (spoken : List Utterance)
    (accounts : List (Option Account)) : Prop where
  /-- This is all it hears. -/
  uttered : s.Utters router.telemetry w.state spoken
  /-- What each call reports follows the grammar of its phase. A call that has not got its
  key reports nothing, and never does if it is refused or taken down before. -/
  grammar : List.Forall₂ (fun account j => Journey.Tells router.registration w.state j account)
    accounts w.journeys
  /-- No two calls share a scope, what is heard from a scope is what its call reports, and
  nothing is heard from anyone else. -/
  distinct : (accounts.reduceOption.map (·.scope.number)).Nodup
  own : ∀ a ∈ accounts.reduceOption, heardFrom a.scope.number spoken = a.utterances
  whole : ∀ u ∈ spoken, ∃ a ∈ accounts.reduceOption, u ∈ a.utterances
  /-- A recorder has written down just that under the number of the scope. -/
  recorded : router.telemetry = .recorder → ∀ a ∈ accounts.reduceOption,
    heardFrom a.scope.number w.state.recorded = a.utterances
  /-- A call whose caller has cancelled it by the time its attempt has failed reports the
  cancellation alone, whatever the failure. -/
  alone : ∀ j ∈ w.journeys, ∀ c e s' r, j.phase = .concluding c e →
    (∀ v, e ≠ .completed (.ok v)) → w.state.isCancelled j.call.token = true →
    router.conclude j.call c e w.state = (s', r) → r = .inl (.error cancelledFailure) ∧
      w.state.Says router.telemetry c.reporter s' [.failure cancelledFailure, .disposed]
  /-- When the calls that have got their keys have ended, the metrics have counted one
  outcome for each of them, and one fallback for each of their attempts but the first. -/
  counted : router.telemetry = .metrics →
    (∀ j ∈ w.journeys, j.selection.isSome = true → ∃ o, j.phase = .ended o) →
    total "switchyard_fallbacks_total" w.state.samples +
        w.journeys.countP (·.selection.isSome) =
      total "switchyard_fallbacks_total" s.samples +
        (accounts.reduceOption.map (·.keys.length)).sum ∧
    total "switchyard_invocations_total" w.state.samples =
      total "switchyard_invocations_total" s.samples + w.journeys.countP (·.selection.isSome)

/-- A cancelled call that concludes a failed attempt has a verdict on it that is a failure. So what
it reports, the cancellation alone, stands in the place of that failure. -/
theorem exists_verdict_of_onCourse {s : State} {c : Course} {e : Ending}
    (onCourse : j.OnCourse router.registration s) (phase : j.phase = .concluding c e)
    (failed : ∀ v, e ≠ .completed (.ok v)) :
    ∃ f trigger deadline, router.verdict? c e = some (.error f, trigger, deadline) := by
  simp only [Journey.OnCourse, phase] at onCourse
  obtain ⟨selection, made, leg?, here, ⟨leg, rfl, ending⟩ | ⟨-, rfl, -⟩⟩ := onCourse
  · rcases here.verdict ending with ⟨v, value⟩ | ⟨f, trigger, deadline, -, verdict⟩
    · exact absurd value (failed v)
    · exact ⟨f, trigger, deadline, verdict⟩
  · exact ⟨_, _, _, rfl⟩

/-- However the calls of a router overlap and however they end, what each of them reports follows
the grammar: the selected key, the failure of each attempt that is followed by another with the key
of that one, an outcome unless the call is taken down, and last the disposal. The selected key is
the one of its first attempt, and a recorder and the metrics agree with all of it.

Proof: the minutes of the world are kept along its history, since a step adds to the account of its
own call only and in the order of the grammar. The accounts have different scopes, so what is heard
from a scope is one account. Scopes from before the start have smaller numbers than those of the
calls, so that nothing recorded earlier is taken for theirs. -/
theorem reports_follow_grammar (tokens : s.tokens.Sound)
    (earlier : ∀ u ∈ s.recorded, u.1.number < s.reporters)
    (becomes : Becomes router ⟨s, []⟩ w) :
    ∃ spoken accounts, HearsGrammar router s w spoken accounts := by
  obtain ⟨spoken, accounts, minuted⟩ := Becomes.minuted tokens becomes
  have minutes := minuted.minutes
  refine ⟨spoken, accounts, minuted.uttered, minuted.tells, minutes.distinct, minutes.own, ?_, ?_,
    ?_, minuted.totals⟩
  · exact fun u heard => List.mem_flatMap.mp (minutes.whole.subset heard)
  · intro recorder a member
    have written : w.state.recorded = s.recorded ++ spoken := by
      simpa [recorder] using minuted.uttered.recorded
    have unheard : heardFrom a.scope.number s.recorded = [] := by
      refine List.filter_eq_nil_iff.mpr fun u heard => ?_
      have before := earlier u heard
      have since := (minutes.numbers a member).1
      simp only [beq_iff_eq]
      omega
    rw [written, Telemetry.heardFrom_append, unheard, List.nil_append, minutes.own a member]
  · intro j member c e s' r phase failed cancelled answer
    obtain ⟨n, here⟩ := List.mem_iff_getElem?.mp member
    obtain ⟨f, trigger, deadline, verdict⟩ :=
      exists_verdict_of_onCourse (Becomes.onCourse tokens becomes here) phase failed
    exact Router.says_of_cancelled verdict cancelled answer

/-- A router of the trial with a spare whose reports are recorded. -/
def recordingRouter : Router := { spareRouter with telemetry := .recorder }

/-- Two calls of that router, each a number of steps on its way. -/
def recordedWorld (turns : List Nat) : World :=
  World.advance recordingRouter turns
    ⟨spareStart, [{ call := spareCall 0 "hi" }, { call := spareCall 1 "wait" }]⟩

/-- The two calls have joined and taken their steps, in the order of the numbers. -/
theorem becomes_recordedWorld (turns : List Nat) :
    World.Becomes recordingRouter ⟨spareStart, []⟩ (recordedWorld turns) := by
  have first : World.Moves recordingRouter ⟨spareStart, []⟩
      ⟨spareStart, [{ call := spareCall 0 "hi" }]⟩ := .joined (by decide)
  have second : World.Moves recordingRouter ⟨spareStart, [{ call := spareCall 0 "hi" }]⟩
      ⟨spareStart, [{ call := spareCall 0 "hi" }, { call := spareCall 1 "wait" }]⟩ :=
    .joined (by decide)
  exact .trans (.tail (.single first) second) (World.becomes_advance _ _ _)

/-- The first call has ended with its second attempt, while the second one waits in its own. -/
theorem recorded_calls_follow_grammar :
    heardFrom 0 (recordedWorld [0, 0, 1, 1, 0, 0, 1, 1, 0, 0, 1]).state.recorded =
      [.started, .variant "lost" .default,
        .attemptFailure "lost" (.routing (.resolution "lost" (.unregistered "nowhere"))),
        .fallback "spare", .success, .disposed].map
          ((⟨0, "greeter", "call", "lost"⟩ : Telemetry.Scope), ·) ∧
      ∃ spoken accounts, HearsGrammar recordingRouter spareStart
        (recordedWorld [0, 0, 1, 1, 0, 0, 1, 1, 0, 0, 1]) spoken accounts :=
  ⟨rfl, reports_follow_grammar sound_spareStart
    (fun _ impossible => absurd impossible List.not_mem_nil) (becomes_recordedWorld _)⟩

end World

end TrialRouting
