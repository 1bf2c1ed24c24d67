import TrialRouting.Proofs.Itinerary
import TrialRouting.Proofs.Call.World

/-!
# The route of a call

A call that its caller does not cancel attempts the keys of its route in order. Which
attempts it makes does not depend on its decorators, on how long anything takes or on the
other calls, but only on how its attempts end: it stops at the first success, a deadline
that is missed changes the route, and every other failure leads to the next key.

What a call keeps to on its way is `Course.Keeps`: the keys attempted and the keys ahead
are its route, the attempts behind it have failed, and a deadline that still covers the
call has not been missed. Launching an attempt and leaving it do not touch the course, so
the one step that matters is the conclusion of an attempt that has ended.
-/

namespace TrialRouting

namespace Leg

/-- Whether the trial's deadline cut the attempt off. -/
def isExpired (leg : Leg) : Bool :=
  match leg.ending with
  | some .expired => true
  | _ => false

/-- An attempt with an ending is cut off if that ending is. No other ending is taken for it, a
timeout of a decorator included. -/
theorem isExpired_iff {leg : Leg} {e : Ending} (ending : leg.ending = some e) :
    leg.isExpired = true ↔ e = .expired := by
  rw [isExpired, ending]
  cases e with
  | completed o => simp
  | expired => simp

/-- The attempt has ended, and not with a value. -/
def Failed (leg : Leg) : Prop :=
  leg.ending = some .expired ∨ ∃ f, leg.ending = some (.completed (.error f))

/-- What a call that ends with this attempt comes to: the attempt's own outcome, or a timeout on its
key if the trial's deadline cut it off. -/
def Gives (r : Registration) (leg : Leg) (o : Outcome) : Prop :=
  leg.ending = some (.completed o) ∨ leg.ending = some .expired ∧ ∃ policy,
    r.timeout = some policy ∧
      o = .error (.routing (.timeout leg.context.key policy.duration.millis))

end Leg

/-- The number of the attempt during which the trial's deadline expired, if it did. -/
def expiry? (legs : List Leg) : Option Nat :=
  legs.findIdx? (·.isExpired)

/-- The keys of attempts, in order. -/
def keysOf (legs : List Leg) : List String :=
  legs.map (·.context.key)

/-- An attempt that was not cut off does not count as an expiry, so that the route stays what it
was. -/
theorem expiry?_of_completed {made : List Leg} {leg : Leg} (completed : leg.isExpired = false) :
    expiry? (made ++ [leg]) = expiry? made := by
  simp [expiry?, List.findIdx?_append, List.findIdx?_singleton, completed]

/-- A deadline that has been missed stays missed. -/
theorem expiry?_append_of_some {made rest : List Leg} {n : Nat} (missed : expiry? made = some n) :
    expiry? (made ++ rest) = some n := by
  rw [expiry?] at missed ⊢
  rw [List.findIdx?_append, missed, Option.some_or]

/-- One that has not been missed had not been missed before. -/
theorem expiry?_of_append {made rest : List Leg} (before : expiry? (made ++ rest) = none) :
    expiry? made = none := by
  cases missed : expiry? made with
  | none => rfl
  | some n => cases before.symm.trans (expiry?_append_of_some missed)

/-- The first attempt that is cut off is the expiry, numbered by the attempts before it. -/
theorem expiry?_of_expired {made : List Leg} {leg : Leg} (before : expiry? made = none)
    (expired : leg.isExpired = true) : expiry? (made ++ [leg]) = some made.length := by
  rw [expiry?] at before
  simp [expiry?, List.findIdx?_append, List.findIdx?_singleton, expired, before]

/-- A course whose earlier attempts are the given legs keeps to the route: the attempt it has come
to is the next one, and what is ahead is the rest of the route. -/
structure Course.Keeps (r : Registration) (call : Call) (primary : String) (made : List Leg)
    (c : Course) : Prop where
  attempted : c.progress.attempted = keysOf made ++ [c.progress.current]
  route : c.progress.attempted ++ c.progress.ahead r = r.route primary (expiry? made)
  context : ∃ invocation, c.context =
    Context.primary invocation r.service call.method r.selector primary r.keys
  numbered : made.map (·.context) =
    (keysOf made).mapIdx fun n key => c.context.forAttempt key n.toUInt32
  failed : ∀ leg ∈ made, leg.Failed
  expiry : ∀ n, expiry? made = some n → ∃ policy, r.timeout = some policy ∧
    (policy.scope = .firstAttempt → n = 0)
  /-- A deadline in force is the trial's and has not been missed; one for the first attempt
  only is in force during that attempt only. -/
  covered : ∀ due policy, c.deadline = some (due, policy) → r.timeout = some policy ∧
    expiry? made = none ∧ (policy.scope = .firstAttempt → made = [])
  /-- Once a deadline has been missed, this attempt is the last one. -/
  spent : (expiry? made).isSome = true → c.progress.ahead r = []

namespace Course.Keeps

variable {r : Registration} {call : Call} {primary : String} {made : List Leg} {leg : Leg}
  {c : Course}

/-- With the attempt it has come to, a course has made the attempts it knows of. Before that one
starts, it knows of one more. -/
theorem keysOf_concat (keeps : c.Keeps r call primary made)
    (context : leg.context = c.attemptContext) :
    keysOf (made ++ [leg]) = c.progress.attempted := by
  rw [keeps.attempted, keysOf, List.map_append, List.map_singleton, context]
  rfl

/-- The attempt a course has come to is numbered after those before it. The number is what 32 bits
hold of how many there were. -/
theorem numbered_concat (keeps : c.Keeps r call primary made)
    (context : leg.context = c.attemptContext) :
    (made ++ [leg]).map (·.context) =
      (keysOf (made ++ [leg])).mapIdx fun n key => c.context.forAttempt key n.toUInt32 := by
  have index : c.progress.index = (keysOf made).length.toUInt32 := by
    rw [Progress.index, keeps.attempted, List.length_append, List.length_singleton,
      Nat.add_sub_cancel]
  have key : leg.context.key = c.progress.current := by rw [context]; rfl
  have own : leg.context =
      c.context.forAttempt leg.context.key (keysOf made).length.toUInt32 := by
    rw [key, ← index, context]
    rfl
  have keys : keysOf (made ++ [leg]) = keysOf made ++ [leg.context.key] := by
    rw [keysOf, List.map_append, List.map_singleton, keysOf]
  rw [keys, List.mapIdx_concat, List.map_append, List.map_singleton, keeps.numbered, ← own]

/-- All attempts up to the one a course has come to are on the route, in its order. -/
theorem attempted_prefix (keeps : c.Keeps r call primary made) :
    c.progress.attempted <+: r.route primary (expiry? made) :=
  ⟨c.progress.ahead r, keeps.route⟩

/-- As long as the deadline has not been missed the attempts made so far are the first of the
itinerary. It is the fallback policy alone that decides then. -/
theorem attempted_eq_take (keeps : c.Keeps r call primary made)
    (before : expiry? made = none) :
    c.progress.attempted = (r.itinerary primary).take (made.length + 1) := by
  have route : c.progress.attempted ++ c.progress.ahead r = r.itinerary primary := by
    rw [keeps.route, before]
    rfl
  have count : c.progress.attempted.length = made.length + 1 := by
    rw [keeps.attempted, List.length_append, List.length_singleton, keysOf, List.length_map]
  rw [← route, ← count, List.take_left]

/-- A missed deadline leaves the keys attempted so far and the timeout action's. What the fallback
policy had ahead is given up. -/
theorem route_of_expired (keeps : c.Keeps r call primary made) {due : Instant}
    {policy : TimeoutPolicy} (deadline : c.deadline = some (due, policy))
    (expired : leg.isExpired = true) :
    c.progress.attempted ++ untried c.progress.attempted (policy.action.plan r) =
      r.route primary (expiry? (made ++ [leg])) := by
  obtain ⟨set, before, -⟩ := keeps.covered due policy deadline
  have detour : r.detour = policy.action.plan r := by
    rw [Registration.detour, set, Option.toList_some, List.flatMap_singleton]
  rw [expiry?_of_expired before expired, Registration.route, detour, untried_action,
    keeps.attempted_eq_take before]

/-- A course that goes on from the attempt it has come to keeps to the route. What is asked of the
new course is said of its progress and its deadline; the rest it has from the old one. -/
theorem next (keeps : c.Keeps r call primary made) (context : leg.context = c.attemptContext)
    (failed : leg.Failed) {progress : Progress} {deadline : Option (Instant × TimeoutPolicy)}
    (attempted : progress.attempted = c.progress.attempted ++ [progress.current])
    (route : progress.attempted ++ progress.ahead r = r.route primary (expiry? (made ++ [leg])))
    (expiry : ∀ n, expiry? (made ++ [leg]) = some n → ∃ policy, r.timeout = some policy ∧
      (policy.scope = .firstAttempt → n = 0))
    (covered : ∀ due policy, deadline = some (due, policy) → r.timeout = some policy ∧
      expiry? (made ++ [leg]) = none ∧ policy.scope ≠ .firstAttempt)
    (spent : (expiry? (made ++ [leg])).isSome = true → progress.ahead r = []) :
    { c with progress, deadline : Course }.Keeps r call primary (made ++ [leg]) where
  attempted := by rw [keeps.keysOf_concat context, attempted]
  route := route
  context := keeps.context
  numbered := keeps.numbered_concat context
  failed := by
    intro other member
    rcases List.mem_append.mp member with before | last
    · exact keeps.failed other before
    · exact List.mem_singleton.mp last ▸ failed
  expiry := expiry
  covered := by
    intro due policy set
    obtain ⟨own, before, whole⟩ := covered due policy set
    exact ⟨own, before, fun first => absurd first whole⟩
  spent := spent

end Course.Keeps

namespace Router

variable {router : Router} {call : Call} {primary : String} {made : List Leg} {leg : Leg}
  {c : Course} {e : Ending} {s : State}

/-- A call sets out on the first attempt of its route, with its own context and nothing behind
it. -/
theorem keeps_of_embark (router : Router) (call : Call) (selection : Selection) (s : State) :
    (router.embark call selection s).2.Keeps router.registration call selection.key [] where
  attempted := rfl
  route := Progress.start_ahead router.registration selection.key
  context := ⟨s.invocations, rfl⟩
  numbered := rfl
  failed := fun _ impossible => absurd impossible List.not_mem_nil
  expiry := fun _ impossible => by simp [expiry?] at impossible
  covered := by
    intro due policy set
    obtain ⟨own, timeout, counted⟩ := Option.bind_eq_some_iff.mp set
    obtain ⟨instant, -, pair⟩ := Option.map_eq_some_iff.mp counted
    cases pair
    exact ⟨timeout, rfl, fun _ => rfl⟩
  spent := fun impossible => by simp [expiry?] at impossible

/-- What follows an attempt that has completed with a failure: the next key of the fallback policy,
if there is one. The deadline is kept unless it was for the first attempt only. -/
theorem conclude_of_failure (router : Router) (call : Call) (c : Course) (f : Failure)
    (free : s.isCancelled call.token = false) :
    ∃ deadline, (∀ due policy, deadline = some (due, policy) →
        c.deadline = some (due, policy) ∧
          (router.registration.timeout = some policy → policy.scope ≠ .firstAttempt)) ∧
      (router.conclude call c (.completed (.error f)) s).2 =
        match c.progress.advance router.registration (.error f)
          (.error router.registration.onError) with
        | (_, .succeed v) => .inl (.ok v)
        | (_, .giveUp f) => .inl (.error f)
        | (progress, .attempt _) => .inr { c with progress, deadline } := by
  refine ⟨_, ?_, conclude_of_free router rfl free⟩
  intro due policy set
  split at set
  · next covers =>
    refine ⟨set, fun timeout first => ?_⟩
    simp [timeout, first] at covers
  · cases set

/-- What follows an attempt that the deadline has cut off: the key of the timeout action, if there
is one, without a deadline. -/
theorem conclude_of_expired {due : Instant} {policy : TimeoutPolicy}
    (deadline : c.deadline = some (due, policy)) (free : s.isCancelled call.token = false) :
    (router.conclude call c .expired s).2 =
      match c.progress.advance (α := Value) router.registration
        (.error (.routing (.timeout c.progress.current policy.duration.millis)))
        (.timeout policy.action) with
      | (_, .succeed v) => .inl (.ok v)
      | (_, .giveUp f) => .inl (.error f)
      | (progress, .attempt _) => .inr { c with progress, deadline := none } := by
  have verdict : router.verdict? c .expired =
      some (.error (.routing (.timeout c.progress.current policy.duration.millis)),
        .timeout policy.action, none) := by
    simp only [verdict?, deadline]
  exact conclude_of_free router verdict free

/-- A failed attempt never ends its call with a value. Only an attempt has values, and a call makes
none of its own. -/
theorem advance_error_ne_succeed (p : Progress) (r : Registration) (f : Failure) (t : Trigger)
    (v : Value) : (p.advance r (.error f) t).2 ≠ .succeed v := by
  simp only [Progress.advance]
  split <;> simp

/-- A call that goes on after an attempt keeps to its route. This is the step of the induction: an
attempt that failed leads to the next key of the route, and one that was cut off changes the
route. -/
theorem keeps_of_conclude {next : Course} (keeps : c.Keeps router.registration call primary made)
    (context : leg.context = c.attemptContext) (ending : leg.ending = some e)
    (due : e = .expired → c.deadline.isSome = true) (free : s.isCancelled call.token = false)
    (goesOn : (router.conclude call c e s).2 = .inr next) :
    next.Keeps router.registration call primary (made ++ [leg]) := by
  cases e with
  | completed o =>
    have completed : leg.isExpired = false := by simp [Leg.isExpired, ending]
    cases o with
    | ok v =>
      rw [conclude_of_free router rfl free] at goesOn
      simp [Progress.advance] at goesOn
    | error f =>
      obtain ⟨deadline, lasting, concluded⟩ :=
        conclude_of_failure router call c f free
      rw [concluded] at goesOn
      split at goesOn
      · cases goesOn
      · cases goesOn
      · next progress key advanced =>
        cases goesOn
        obtain ⟨rfl, attempted, ahead⟩ := Progress.attempted_of_advance advanced
        rw [Progress.untried_planAfter_error] at ahead
        refine keeps.next context (.inr ⟨f, ending⟩) attempted ?_ ?_ ?_ ?_
        · rw [attempted, expiry?_of_completed completed, ← keeps.route, ahead,
            List.append_assoc, List.singleton_append]
        · rw [expiry?_of_completed completed]
          exact keeps.expiry
        · intro instant policy set
          obtain ⟨own, whole⟩ := lasting instant policy set
          obtain ⟨timeout, before, -⟩ := keeps.covered instant policy own
          rw [expiry?_of_completed completed]
          exact ⟨timeout, before, whole timeout⟩
        · rw [expiry?_of_completed completed]
          intro missed
          rw [keeps.spent missed] at ahead
          cases ahead
  | expired =>
    have expired : leg.isExpired = true := (Leg.isExpired_iff ending).mpr rfl
    obtain ⟨⟨instant, policy⟩, deadline⟩ := Option.isSome_iff_exists.mp (due rfl)
    obtain ⟨timeout, before, first⟩ := keeps.covered instant policy deadline
    rw [conclude_of_expired deadline free] at goesOn
    split at goesOn
    · cases goesOn
    · cases goesOn
    · next progress key advanced =>
      cases goesOn
      obtain ⟨rfl, attempted, ahead⟩ := Progress.attempted_of_advance advanced
      rw [Progress.planAfter_timeout] at ahead
      refine keeps.next context (.inl ending) attempted ?_ ?_ ?_ ?_
      · rw [← keeps.route_of_expired deadline expired, attempted, ahead, List.append_assoc,
          List.singleton_append]
      · intro n number
        rw [expiry?_of_expired before expired, Option.some.injEq] at number
        refine ⟨policy, timeout, fun scope => ?_⟩
        rw [← number, first scope, List.length_nil]
      · intro _ _ impossible
        cases impossible
      · exact fun _ => untried_action_rest ahead

/-- A call that ends after an attempt has what that attempt gives; if that is a failure, or a
deadline was missed, it has attempted all keys of its route. -/
theorem over_of_conclude {o : Outcome} (keeps : c.Keeps router.registration call primary made)
    (context : leg.context = c.attemptContext) (ending : leg.ending = some e)
    (due : e = .expired → c.deadline.isSome = true) (free : s.isCancelled call.token = false)
    (ends : (router.conclude call c e s).2 = .inl o) :
    leg.Gives router.registration o ∧
      ((∃ f, o = .error f) ∨ (expiry? (made ++ [leg])).isSome = true →
        c.progress.attempted = router.registration.route primary (expiry? (made ++ [leg]))) := by
  cases e with
  | completed o' =>
    have completed : leg.isExpired = false := by simp [Leg.isExpired, ending]
    cases o' with
    | ok v =>
      rw [conclude_of_free router rfl free] at ends
      simp only [Progress.advance, Sum.inl.injEq] at ends
      subst ends
      refine ⟨.inl ending, ?_⟩
      rw [expiry?_of_completed completed]
      rintro (⟨f, impossible⟩ | missed)
      · cases impossible
      · rw [← keeps.route, keeps.spent missed, List.append_nil]
    | error f =>
      obtain ⟨deadline, lasting, concluded⟩ :=
        conclude_of_failure router call c f free
      rw [concluded] at ends
      split at ends
      · next v advanced =>
        exact absurd (congrArg Prod.snd advanced) (advance_error_ne_succeed _ _ _ _ v)
      · next progress g advanced =>
        cases ends
        obtain ⟨nothing, rfl⟩ := Progress.untried_of_giveUp advanced
        rw [Progress.untried_planAfter_error] at nothing
        refine ⟨.inl ending, fun _ => ?_⟩
        rw [expiry?_of_completed completed, ← keeps.route, nothing, List.append_nil]
      · cases ends
  | expired =>
    have expired : leg.isExpired = true := (Leg.isExpired_iff ending).mpr rfl
    obtain ⟨⟨instant, policy⟩, deadline⟩ := Option.isSome_iff_exists.mp (due rfl)
    obtain ⟨timeout, -, -⟩ := keeps.covered instant policy deadline
    rw [conclude_of_expired deadline free] at ends
    split at ends
    · next v advanced =>
      exact absurd (congrArg Prod.snd advanced) (advance_error_ne_succeed _ _ _ _ v)
    · next progress g advanced =>
      cases ends
      obtain ⟨nothing, rfl⟩ := Progress.untried_of_giveUp advanced
      rw [Progress.planAfter_timeout] at nothing
      have key : leg.context.key = c.progress.current := by rw [context]; rfl
      refine ⟨.inr ⟨ending, policy, timeout, by rw [key]⟩, fun _ => ?_⟩
      rw [← keeps.route_of_expired deadline expired, nothing, List.append_nil]
    · cases ends

/-- Only a deadline that covers the course cuts an attempt off. So an expiry is always that of a
deadline in force. -/
theorem deadline_of_judge {token : Token} {scope : Nat} {inv : Invocation} {r : State × Reply}
    {s' : State} (cut : judge c token scope inv r = (s', .inl .expired)) :
    c.deadline.isSome = true := by
  obtain ⟨s₁, reply⟩ := r
  cases reply with
  | done o => simp [judge] at cut
  | pending flight =>
    simp only [judge] at cut
    split at cut
    · next overdue =>
      cases deadline : c.deadline with
      | none => simp [Course.isOverdue, deadline] at overdue
      | some bounds => rfl
    · simp at cut

/-- An attempt that is cut off right after its launch has a deadline. -/
theorem deadline_of_launch {s' : State}
    (cut : router.launch call c s = (s', .inl .expired)) : c.deadline.isSome = true := by
  cases free : call.isStopped s with
  | true => simp [launch_of_stopped c free] at cut
  | false =>
    cases listed : router.registration.trial? c.progress.current with
    | none => simp [launch_of_unlisted free listed] at cut
    | some trial =>
      rw [launch_of_listed free listed] at cut
      split at cut
      · simp at cut
      · exact deadline_of_judge cut

/-- An attempt that is cut off when it is resumed has a deadline. -/
theorem deadline_of_resume {attempt : Attempt} {s' : State}
    (cut : resumeAttempt c attempt s = (s', .inl .expired)) : c.deadline.isSome = true := by
  simp only [resumeAttempt] at cut
  split at cut
  · simp at cut
  · exact deadline_of_judge cut

end Router

/-- The next attempt of a call finds its token cancelled only if the call's own is. The new token
has just been issued, and nobody can have cancelled it by itself. -/
theorem Call.isStopped_eq (call : Call) {s : State} (tokens : s.tokens.Sound) :
    call.isStopped s = s.isCancelled call.token :=
  s.tokens.isCancelled_nextChild tokens call.token

namespace Journey

/-- A journey on a course that has come to the given attempt, with the others behind it. -/
structure IsAt (r : Registration) (j : Journey) (selection : Selection) (made : List Leg)
    (leg : Leg) (c : Course) : Prop where
  selected : j.selection = some selection
  known : selection.key ∈ r.keys
  keeps : c.Keeps r j.call selection.key made
  context : leg.context = c.attemptContext
  due : leg.isExpired = true → c.deadline.isSome = true

/-- Where a journey is does not depend on its phase. -/
theorem IsAt.onwards {r : Registration} {j j' : Journey} {selection : Selection}
    {made : List Leg} {leg : Leg} {c : Course} (here : j.IsAt r selection made leg c)
    (selected : j'.selection = j.selection) (call : j'.call = j.call) :
    j'.IsAt r selection made leg c :=
  ⟨selected.trans here.selected, here.known, call ▸ here.keeps, here.context, here.due⟩

/-- What holds of a journey in each phase, as long as the caller has not cancelled it. This is the
invariant that carries the route of a call. -/
def KeepsRoute (r : Registration) (j : Journey) : Prop :=
  match j.phase with
  | .arriving => j.selection = none ∧ j.finished = []
  | .selecting _ _ => j.selection = none ∧ j.finished = []
  | .selected selection =>
      j.selection = some selection ∧ selection.key ∈ r.keys ∧ j.finished = []
  | .launching c => ∃ selection, j.selection = some selection ∧ selection.key ∈ r.keys ∧
      c.Keeps r j.call selection.key j.finished
  | .attempting c attempt => ∃ selection, j.IsAt r selection j.finished (attempt.leg none) c
  | .concluding c e => ∃ selection made leg, j.finished = made ++ [leg] ∧
      leg.ending = some e ∧ j.IsAt r selection made leg c
  | .ended o => ∃ selection made leg c, j.finished = made ++ [leg] ∧
      j.IsAt r selection made leg c ∧ leg.Gives r o ∧
        ((∃ f, o = .error f) ∨ (expiry? j.finished).isSome = true →
          keysOf j.finished = r.route selection.key (expiry? j.finished))
  | .takenDown => j.selection = none ∧ j.finished = [] ∨
      ∃ selection made leg c, j.finished = made ++ [leg] ∧ j.IsAt r selection made leg c

variable {router : Router} {s s' : State} {j j' : Journey}

/-- Steps keep a journey to its route while its caller has not cancelled it. There is one case for
each kind of step; a step that would stop the call is excluded by the caller's token. -/
theorem Step.keepsRoute (valid : router.registration.Valid) (tokens : s.tokens.Sound)
    (sound : j.Sound s) (free : s.isCancelled j.call.token = false) (step : Step router s j s' j')
    (keeps : j.KeepsRoute router.registration) : j'.KeepsRoute router.registration := by
  cases step with
  | refused phase answer =>
    simp [Router.receive, free] at answer
  | chosen phase answer =>
    simp only [KeepsRoute, phase] at keeps
    simp only [Router.receive, free, Bool.false_eq_true, if_false, Prod.mk.injEq,
      Sum.inr.injEq] at answer
    exact ⟨rfl, valid.key_choose_mem answer.2, keeps.2⟩
  | asked phase answer =>
    simp only [KeepsRoute, phase] at keeps
    exact keeps
  | answered phase isDue =>
    simp only [KeepsRoute, phase] at keeps
    exact ⟨rfl, valid.key_ofOpinion_mem _, keeps.2⟩
  | embarked phase =>
    simp only [KeepsRoute, phase] at keeps
    obtain ⟨selected, known, finished⟩ := keeps
    refine ⟨_, selected, known, ?_⟩
    simp only [finished]
    exact router.keeps_of_embark j.call _ s
  | withheld phase stopped launched =>
    rw [j.call.isStopped_eq tokens, free] at stopped
    cases stopped
  | @sped _ _ c e phase started launched =>
    simp only [KeepsRoute, phase] at keeps
    obtain ⟨selection, selected, known, course⟩ := keeps
    refine ⟨selection, j.finished, _, rfl, rfl, selected, known, course, rfl, ?_⟩
    intro expired
    obtain rfl : e = .expired := (Leg.isExpired_iff rfl).mp expired
    exact Router.deadline_of_launch launched
  | launched phase launched =>
    simp only [KeepsRoute, phase] at keeps
    obtain ⟨selection, selected, known, course⟩ := keeps
    obtain ⟨-, trial, made, flight, -, rfl, -, -⟩ := Router.waits_of_launch launched
    exact ⟨selection, selected, known, course, rfl, fun impossible => by cases impossible⟩
  | waited phase resumed =>
    simp only [KeepsRoute, phase] at keeps
    obtain ⟨selection, here⟩ := keeps
    obtain ⟨-, -, issued, -⟩ := sound.attempt _ _ phase
    obtain ⟨flight, rfl, -, -⟩ := Router.waits_of_resume issued resumed
    exact ⟨selection, here.onwards rfl rfl⟩
  | @left _ _ c attempt e phase resumed =>
    simp only [KeepsRoute, phase] at keeps
    obtain ⟨selection, here⟩ := keeps
    refine ⟨selection, j.finished, _, rfl, rfl, here.selected, here.known, here.keeps,
      here.context, ?_⟩
    intro expired
    obtain rfl : e = .expired := (Leg.isExpired_iff rfl).mp expired
    exact Router.deadline_of_resume resumed
  | concluded phase answer =>
    simp only [KeepsRoute, phase] at keeps
    obtain ⟨selection, made, leg, finished, ending, here⟩ := keeps
    have ends := congrArg Prod.snd answer
    obtain ⟨gives, full⟩ := Router.over_of_conclude here.keeps here.context ending
      (fun cut => here.due ((Leg.isExpired_iff ending).mpr cut)) free ends
    refine ⟨selection, made, leg, _, finished, here.onwards rfl rfl, gives, ?_⟩
    simp only [finished]
    rw [here.keeps.keysOf_concat here.context]
    exact full
  | fellBack phase answer =>
    simp only [KeepsRoute, phase] at keeps
    obtain ⟨selection, made, leg, finished, ending, here⟩ := keeps
    have goesOn := congrArg Prod.snd answer
    refine ⟨selection, here.selected, here.known, ?_⟩
    simp only [finished]
    exact Router.keeps_of_conclude here.keeps here.context ending
      (fun cut => here.due ((Leg.isExpired_iff ending).mpr cut)) free goesOn
  | dropped phase =>
    simp only [KeepsRoute, phase] at keeps
    exact .inl keeps
  | droppedInFlight phase =>
    simp only [KeepsRoute, phase] at keeps
    obtain ⟨selection, here⟩ := keeps
    exact .inr ⟨selection, j.finished, _, _, rfl, here.onwards rfl rfl⟩

/-- A call keeps to its route for as long as its caller does not cancel it. A token that is free now
was free all along, so the induction may assume it of every step. -/
theorem Travels.keepsRoute (valid : router.registration.Valid) (tokens : s.tokens.Sound)
    (sound : j.Sound s) (travels : Travels router s j s' j')
    (free : s'.isCancelled j.call.token = false) (keeps : j.KeepsRoute router.registration) :
    j'.KeepsRoute router.registration := by
  induction travels with
  | stay => exact keeps
  | step before last ih =>
    obtain ⟨grown, still⟩ := before.grows sound
    have earlier : State.isCancelled _ j.call.token = false :=
      (last.grows still).1.not_isCancelled free
    exact last.keepsRoute valid (grown.sound tokens) still (before.call_eq ▸ earlier)
      (ih earlier)
  | meanwhile before grows ih => exact ih (grows.not_isCancelled free)

/-- Attempts that have the context of their call with their own key and number carry that number,
as long as it fits into 32 bits. -/
theorem toNat_attempt_of_numbered {legs : List Leg} {context : Context}
    (numbered : legs.map (·.context) =
      (keysOf legs).mapIdx fun n key => context.forAttempt key n.toUInt32)
    (n : Nat) (leg : Leg) (here : legs[n]? = some leg) (small : n < UInt32.size) :
    leg.context.attempt.toNat = n := by
  have own : (legs.map (·.context))[n]? = some leg.context := by
    rw [List.getElem?_map, here, Option.map_some]
  rw [numbered, List.getElem?_mapIdx] at own
  obtain ⟨key, -, context⟩ := Option.map_eq_some_iff.mp own
  rw [← context, Context.forAttempt]
  exact UInt32.toNat_ofNat_of_lt small

/-- What it means for a call to follow the route of its selection. -/
structure FollowsRoute (r : Registration) (selection : Selection) (j : Journey) : Prop where
  /-- The keys it has attempted are the first of its route. -/
  keys : keysOf j.legs <+: r.route selection.key (expiry? j.legs)
  listed : ∀ key ∈ keysOf j.legs, ∃ trial, r.trial? key = some trial
  /-- Its attempts have the context of the call with their own key and number, -/
  numbered : ∃ invocation, j.legs.map (·.context) = (keysOf j.legs).mapIdx fun n key =>
    (Context.primary invocation r.service j.call.method r.selector selection.key
      r.keys).forAttempt key n.toUInt32
  /-- which is the number itself as long as it fits into 32 bits. -/
  indexed : ∀ n leg, j.legs[n]? = some leg → n < UInt32.size → leg.context.attempt.toNat = n
  /-- It has stopped at the first success. -/
  failed : ∀ leg ∈ j.legs.dropLast, leg.Failed
  /-- Only a deadline of the trial expires, and one for the first attempt only during that
  attempt. -/
  expiry : ∀ n, expiry? j.legs = some n → ∃ policy, r.timeout = some policy ∧
    (policy.scope = .firstAttempt → n = 0)
  /-- It ends with what its last attempt gives. With a failure, or once a deadline has been
  missed, it only ends when it has attempted all keys of its route. -/
  ended : ∀ o, j.phase = .ended o → ∃ leg, j.legs.getLast? = some leg ∧ leg.Gives r o ∧
    ((∃ f, o = .error f) ∨ (expiry? j.legs).isSome = true →
      keysOf j.legs = r.route selection.key (expiry? j.legs))

/-- A journey that has come to an attempt follows its route. If the call is over, that attempt has
decided it. -/
theorem IsAt.follows {r : Registration} {selection : Selection} {made : List Leg} {leg : Leg}
    {c : Course} (here : j.IsAt r selection made leg c) (valid : r.Valid)
    (legs : j.legs = made ++ [leg])
    (ended : ∀ o, j.phase = .ended o → leg.Gives r o ∧
      ((∃ f, o = .error f) ∨ (expiry? j.legs).isSome = true →
        keysOf j.legs = r.route selection.key (expiry? j.legs))) :
    j.FollowsRoute r selection := by
  have attempted : keysOf j.legs = c.progress.attempted := by
    rw [legs, here.keeps.keysOf_concat here.context]
  have keys : keysOf j.legs <+: r.route selection.key (expiry? j.legs) := by
    rw [attempted, legs]
    cases expired : leg.isExpired with
    | false => rw [expiry?_of_completed expired]; exact here.keeps.attempted_prefix
    | true =>
      obtain ⟨⟨due, policy⟩, deadline⟩ := Option.isSome_iff_exists.mp (here.due expired)
      rw [← here.keeps.route_of_expired deadline expired]
      exact List.prefix_append _ _
  have numbered := here.keeps.numbered_concat here.context
  rw [← legs] at numbered
  refine ⟨keys, ?_, ?_, toNat_attempt_of_numbered numbered, ?_, ?_, ?_⟩
  · intro key member
    exact r.exists_trial (valid.mem_keys_of_route here.known (keys.subset member))
  · obtain ⟨invocation, context⟩ := here.keeps.context
    exact ⟨invocation, by rw [numbered, context]⟩
  · rw [legs, List.dropLast_concat]
    exact here.keeps.failed
  · intro n number
    rw [legs] at number
    cases expired : leg.isExpired with
    | false =>
      rw [expiry?_of_completed expired] at number
      exact here.keeps.expiry n number
    | true =>
      obtain ⟨⟨due, policy⟩, deadline⟩ := Option.isSome_iff_exists.mp (here.due expired)
      obtain ⟨timeout, before, first⟩ := here.keeps.covered due policy deadline
      rw [expiry?_of_expired before expired, Option.some.injEq] at number
      exact ⟨policy, timeout, fun scope => by rw [← number, first scope, List.length_nil]⟩
  · intro o ends
    exact ⟨leg, by rw [legs, List.getLast?_concat], ended o ends⟩

/-- A journey between two attempts follows its route. The next attempt has not started, and is not
one of its legs yet. -/
theorem follows_of_launching {r : Registration} {selection : Selection} {c : Course}
    (valid : r.Valid) (known : selection.key ∈ r.keys) (phase : j.phase = .launching c)
    (keeps : c.Keeps r j.call selection.key j.finished) : j.FollowsRoute r selection := by
  have legs : j.legs = j.finished := by simp [Journey.legs, underway, phase]
  have keys : keysOf j.legs <+: r.route selection.key (expiry? j.legs) := by
    have before : keysOf j.finished <+: c.progress.attempted := ⟨_, keeps.attempted.symm⟩
    rw [legs]
    exact before.trans keeps.attempted_prefix
  have numbered := keeps.numbered
  rw [← legs] at numbered
  refine ⟨keys, ?_, ?_, toNat_attempt_of_numbered numbered, ?_, ?_, ?_⟩
  · intro key member
    exact r.exists_trial (valid.mem_keys_of_route known (keys.subset member))
  · obtain ⟨invocation, context⟩ := keeps.context
    exact ⟨invocation, by rw [numbered, context]⟩
  · rw [legs]
    exact fun leg member => keeps.failed leg (List.dropLast_subset _ member)
  · rw [legs]
    exact keeps.expiry
  · intro o ends
    rw [phase] at ends
    cases ends

/-- A journey without attempts follows any route. -/
theorem follows_of_nil {r : Registration} {selection : Selection} (legs : j.legs = [])
    (notOver : ∀ o, j.phase ≠ .ended o) : j.FollowsRoute r selection := by
  refine ⟨?_, ?_, ⟨0, ?_⟩, ?_, ?_, ?_, fun o ends => absurd ends (notOver o)⟩
  · rw [legs]
    exact List.nil_prefix
  · simp [legs, keysOf]
  · simp [legs, keysOf]
  · simp [legs]
  · simp [legs]
  · simp [legs, expiry?]

/-- A journey that keeps to its route follows it; without a selection it has made no
attempt. -/
theorem KeepsRoute.follows {r : Registration} (keeps : j.KeepsRoute r) (valid : r.Valid) :
    (j.selection = none → j.legs = []) ∧
      ∀ selection, j.selection = some selection → j.FollowsRoute r selection := by
  have idle (finished : j.finished = []) (idle : j.underway = []) : j.legs = [] := by
    rw [legs, finished, idle, List.append_nil]
  have unselected (finished : j.finished = []) (nothing : j.underway = [])
      (none' : j.selection = none) : (j.selection = none → j.legs = []) ∧
        ∀ selection, j.selection = some selection → j.FollowsRoute r selection := by
    refine ⟨fun _ => idle finished nothing, fun selection selected => ?_⟩
    rw [none'] at selected
    cases selected
  have selected {selection : Selection} (own : j.selection = some selection)
      (follows : j.FollowsRoute r selection) : (j.selection = none → j.legs = []) ∧
        ∀ selection, j.selection = some selection → j.FollowsRoute r selection := by
    refine ⟨fun none' => ?_, fun other same => ?_⟩
    · rw [own] at none'
      cases none'
    · rw [own, Option.some.injEq] at same
      exact same ▸ follows
  cases phase : j.phase with
  | arriving =>
    simp only [KeepsRoute, phase] at keeps
    exact unselected keeps.2 (by simp [underway, phase]) keeps.1
  | selecting due opinion =>
    simp only [KeepsRoute, phase] at keeps
    exact unselected keeps.2 (by simp [underway, phase]) keeps.1
  | selected selection =>
    simp only [KeepsRoute, phase] at keeps
    exact selected keeps.1 (follows_of_nil (idle keeps.2.2 (by simp [underway, phase]))
      (by simp [phase]))
  | launching c =>
    simp only [KeepsRoute, phase] at keeps
    obtain ⟨selection, own, known, course⟩ := keeps
    exact selected own (follows_of_launching valid known phase course)
  | attempting c attempt =>
    simp only [KeepsRoute, phase] at keeps
    obtain ⟨selection, here⟩ := keeps
    exact selected here.selected (here.follows valid (by simp [legs, underway, phase])
      (by simp [phase]))
  | concluding c e =>
    simp only [KeepsRoute, phase] at keeps
    obtain ⟨selection, made, leg, finished, -, here⟩ := keeps
    exact selected here.selected (here.follows valid (by simp [legs, underway, phase, finished])
      (by simp [phase]))
  | ended o =>
    simp only [KeepsRoute, phase] at keeps
    obtain ⟨selection, made, leg, c, finished, here, gives, full⟩ := keeps
    have legs : j.legs = j.finished := by simp [legs, underway, phase]
    refine selected here.selected (here.follows valid (legs.trans finished) ?_)
    intro o' ends
    obtain rfl : o = o' := Phase.ended.inj (phase.symm.trans ends)
    exact ⟨gives, by rwa [legs]⟩
  | takenDown =>
    simp only [KeepsRoute, phase] at keeps
    rcases keeps with ⟨none', finished⟩ | ⟨selection, made, leg, c, finished, here⟩
    · exact unselected finished (by simp [underway, phase]) none'
    · exact selected here.selected (here.follows valid
        (by simp [legs, underway, phase, finished]) (by simp [phase]))

end Journey

/-- As long as its caller has not cancelled it, a call of a world keeps to its route, whatever the
other calls do. -/
theorem World.Becomes.keepsRoute {router : Router} {s : State} {w : World} {n : Nat} {j : Journey}
    (valid : router.registration.Valid) (tokens : s.tokens.Sound)
    (becomes : Becomes router ⟨s, []⟩ w) (here : w.journeys[n]? = some j)
    (free : w.state.isCancelled j.call.token = false) : j.KeepsRoute router.registration := by
  obtain ⟨s₀, call, first, caller, travels⟩ := becomes.origin tokens here
  have sound : Journey.Sound s₀ { call } := Journey.sound_of_idle caller (fun _ _ => by simp)
  have same : j.call = call := travels.call_eq
  exact travels.keepsRoute valid first sound (same ▸ free) ⟨rfl, rfl⟩

/-- Whatever the decorators of a router are, however its calls overlap and however their attempts
end, a call whose caller has not cancelled it follows the route of its selection: it attempts the
keys of the itinerary one by one until an attempt succeeds or none is left, and a deadline that
expires during an attempt leaves only the timeout action's key. Attempts are numbered from zero. The
number is kept in 32 bits, and is the attempt's place on the route as long as it fits into them.

Proof: on its way a call keeps the keys it has attempted and those that are ahead, which together
are its route. Launching an attempt and leaving it touch neither. When an attempt that has failed is
concluded, the first key ahead becomes the next one, or the deadline's action replaces all that is
ahead. So the route is kept along every step, and with it along every history, since nothing that
other calls do is seen by this one. -/
theorem World.follows_route {d : Draft} {router : Router} {s : State} {w : World} {n : Nat}
    {j : Journey} (built : d.build = .ok router.registration) (tokens : s.tokens.Sound)
    (becomes : Becomes router ⟨s, []⟩ w) (here : w.journeys[n]? = some j)
    (free : w.state.isCancelled j.call.token = false) :
    (j.selection = none → j.legs = []) ∧
      ∀ selection, j.selection = some selection →
        j.FollowsRoute router.registration selection := by
  have valid : router.registration.Valid := Draft.valid_of_build built
  have keeps : j.KeepsRoute router.registration :=
    Becomes.keepsRoute valid tokens becomes here free
  exact keeps.follows valid

/-! ### A trial with a spare -/

/-- A trial whose default key has no implementation behind it, and whose policy names that
key and another one twice. -/
def spareDraft : Draft where
  service := "greeter"
  defaultKey := some "lost"
  trials := [⟨"lost", "nowhere"⟩, ⟨"spare", "good"⟩]
  onError := .redirectOrdered ["lost", "spare", "spare"]

/-- A router of that trial. Its decorators are a log, a circuit that opens at the first failure,
and a limit of two attempts. -/
def spareRouter : Router where
  registration := {
    service := "greeter"
    mode := booleanFlagMode
    selector := "greeter"
    defaultKey := "lost"
    trials := [⟨"lost", "nowhere"⟩, ⟨"spare", "good"⟩]
    onError := .redirectOrdered ["lost", "spare", "spare"]
    timeout := none
    window := .unbounded
    predicate := none }
  pipeline := [.logging "spare", .circuitBreaker 0, .concurrencyLimit 0]
  telemetry := .silent

/-- A call under the given token. -/
def spareCall (token : Nat) (argument : String) : Call :=
  ⟨"call", ⟨.call, argument⟩, ⟨token, []⟩, ⟨token, []⟩, false⟩

/-- A state in which the one implementation takes its time if it is asked to wait. Two tokens
have been issued. -/
def spareStart : State where
  tokens := { issued := 2 }
  circuits := [{ config := { threshold := 1 } }]
  limiters := [.full 2]
  catalog := ({} : Catalog).register
    { name := "good"
      construction := fun _ => none
      behavior := fun _ request =>
        { pause := if request.argument = "wait" then 5 else 0, outcome := .ok (.text "hello") } }

/-- Two calls of the trial, each a number of steps on its way. -/
def spareWorld (turns : List Nat) : World :=
  World.advance spareRouter turns
    ⟨spareStart, [{ call := spareCall 0 "hi" }, { call := spareCall 1 "wait" }]⟩

/-- The two calls have joined and taken their steps, in the order of the numbers. -/
theorem becomes_spareWorld (turns : List Nat) :
    World.Becomes spareRouter ⟨spareStart, []⟩ (spareWorld turns) := by
  have first : World.Moves spareRouter ⟨spareStart, []⟩
      ⟨spareStart, [{ call := spareCall 0 "hi" }]⟩ := .joined (by decide)
  have second : World.Moves spareRouter ⟨spareStart, [{ call := spareCall 0 "hi" }]⟩
      ⟨spareStart, [{ call := spareCall 0 "hi" }, { call := spareCall 1 "wait" }]⟩ :=
    .joined (by decide)
  exact .trans (.tail (.single first) second) (World.becomes_advance _ _ _)

/-- No token has been cancelled yet. -/
theorem sound_spareStart : spareStart.tokens.Sound :=
  fun _ impossible => absurd impossible List.not_mem_nil

/-- While the second call has just started, the first one has attempted the key without an
implementation and then the spare one, each once, and it follows its route. -/
theorem spare_key_ends_route :
    spareDraft.build = .ok spareRouter.registration ∧ spareStart.tokens.Sound ∧
      World.Becomes spareRouter ⟨spareStart, []⟩ (spareWorld [0, 0, 0, 1, 0, 1, 0, 0]) ∧
      ∃ j, (spareWorld [0, 0, 0, 1, 0, 1, 0, 0]).journeys[0]? = some j ∧
        (spareWorld [0, 0, 0, 1, 0, 1, 0, 0]).state.isCancelled j.call.token = false ∧
        keysOf j.legs = ["lost", "spare"] ∧ j.phase = .ended (.ok (.text "hello")) ∧
        j.FollowsRoute spareRouter.registration ⟨"lost", .default⟩ := by
  have built : spareDraft.build = .ok spareRouter.registration := rfl
  refine ⟨built, sound_spareStart, becomes_spareWorld _, _, rfl, rfl, rfl, rfl, ?_⟩
  exact (World.follows_route built sound_spareStart (becomes_spareWorld [0, 0, 0, 1, 0, 1, 0, 0])
    (n := 0) rfl rfl).2 _ rfl

end TrialRouting
