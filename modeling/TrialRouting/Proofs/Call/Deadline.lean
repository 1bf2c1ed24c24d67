import TrialRouting.Proofs.Attempt.Timers
import TrialRouting.Proofs.Call.Course

/-!
# What the deadline of a trial does to an attempt

A deadline only adds one thing to an attempt: when the attempt has had its turn and still
waits, and the deadline has passed, it is cut off. An attempt that has come to its end in its
turn keeps its ending, however late; and one that is cut off has nothing left in it that was
due by then.

The deadline in force at an attempt follows from the end of the selection and the attempts
before: none once it has been missed, and none after the first attempt if it is meant for
that one only.
-/

namespace TrialRouting

namespace Course

/-- The course without its deadline. -/
def unbounded (c : Course) : Course :=
  { c with deadline := none }

/-- What a deadline makes of an attempt that has had its turn: if it still waits when the deadline
has passed, it is cut off. An ending is left as it is. -/
def bound (c : Course) : State × (Ending ⊕ Attempt) → State × (Ending ⊕ Attempt)
  | (s, .inl e) => (s, .inl e)
  | (s, .inr attempt) =>
      if c.isOverdue s.now then (Router.cutOff attempt s, .inl .expired) else (s, .inr attempt)

end Course

namespace State

variable {r : Registration} {method : String} {s s' : State} {due : Nat} {opinion : Opinion}

/-- A mode that takes its time answers later. -/
theorem isAfter_of_choose (asked : s.choose r method = (s', .waiting due opinion)) :
    s'.now < due := by
  simp only [choose, ask] at asked
  split at asked
  · cases asked
  · split at asked
    · cases asked
    · split at asked
      · cases asked
      · next slow =>
        simp only [Prod.mk.injEq, Asked.waiting.injEq] at asked
        obtain ⟨rfl, rfl, -⟩ := asked
        exact Nat.lt_add_of_pos_right (Nat.pos_of_ne_zero slow)

end State

namespace Router

variable {router : Router} {call : Call} {c : Course} {s s' : State}

/-- The deadline has no part in the judgement of an attempt but this. So an attempt can be followed
without it first. -/
theorem judge_eq_bound (c : Course) (token : Token) (scope : Nat) (inv : Invocation)
    (r : State × Reply) :
    judge c token scope inv r = c.bound (judge c.unbounded token scope inv r) := by
  obtain ⟨s, reply⟩ := r
  cases reply with
  | done o => rfl
  | pending flight => rfl

/-- A resumed attempt gets on as it would without a deadline, which then may cut it off, but only if
it still waits. -/
theorem resumeAttempt_eq_bound (c : Course) (attempt : Attempt) (s : State) :
    resumeAttempt c attempt s = c.bound (resumeAttempt c.unbounded attempt s) := by
  simp only [resumeAttempt]
  split
  · rfl
  · exact judge_eq_bound c _ _ _ _

/-- So does an attempt that starts. What its scope resolves to does not depend on the deadline
either. -/
theorem launch_eq_bound (router : Router) (call : Call) (c : Course) (s : State) :
    router.launch call c s = c.bound (router.launch call c.unbounded s) := by
  cases free : call.isStopped s with
  | true => rw [launch_of_stopped c free, launch_of_stopped c.unbounded free]; rfl
  | false =>
    cases listed : router.registration.trial? c.progress.current with
    | none =>
      have same : router.registration.trial? c.unbounded.progress.current = none := listed
      rw [launch_of_unlisted free listed, launch_of_unlisted free same]
      rfl
    | some trial =>
      have own : router.registration.trial? c.unbounded.progress.current = some trial := listed
      rw [launch_of_listed free listed, launch_of_listed free own]
      have same : resolution c.unbounded trial s = resolution c trial s := rfl
      rw [same]
      cases (resolution c trial s).result with
      | error source => rfl
      | ok made => exact judge_eq_bound c _ _ _ _

/-- An attempt that is left waiting waits for what lies ahead, and its deadline lies ahead too,
since otherwise it would have been cut off. -/
theorem isAfter_of_judge {token : Token} {scope : Nat} {inv : Invocation} {r : State × Reply}
    {attempt : Attempt} (waiting : Reply.IsAfter r)
    (judged : judge c token scope inv r = (s', .inr attempt)) :
    ∀ t ∈ timers (.attempting c attempt), s'.now < t := by
  obtain ⟨s, reply⟩ := r
  cases reply with
  | done o => simp [judge] at judged
  | pending flight =>
    simp only [judge] at judged
    split at judged
    · simp at judged
    · next notYet =>
      cases judged
      intro t member
      rcases List.mem_append.mp member with deadline | inside
      · obtain ⟨bounds, set, rfl⟩ := Option.map_eq_some_iff.mp (Option.mem_toList.mp deadline)
        simpa [Course.isOverdue, set] using notYet
      · exact waiting flight rfl t inside

/-- A launched attempt that waits, waits for what lies ahead. -/
theorem isAfter_of_launch {attempt : Attempt}
    (launched : router.launch call c s = (s', .inr attempt)) :
    ∀ t ∈ timers (.attempting c attempt), s'.now < t := by
  obtain ⟨free, trial, made, flight, listed, -, -, -⟩ := waits_of_launch launched
  rw [launch_of_listed free listed] at launched
  split at launched
  · cases launched
  · exact isAfter_of_judge (Invocation.isAfter_enter _ _ _ _) launched

/-- A resumed attempt that goes on waiting, waits for what lies ahead. -/
theorem isAfter_of_resume {attempt rest : Attempt}
    (resumed : resumeAttempt c attempt s = (s', .inr rest)) :
    ∀ t ∈ timers (.attempting c rest), s'.now < t := by
  simp only [resumeAttempt] at resumed
  split at resumed
  · cases resumed
  · exact isAfter_of_judge (Invocation.isAfter_resume _ _ _) resumed

/-- A call that goes on until an attempt waits, waits for what lies ahead. Attempts that end at once
are passed by on the way. -/
theorem isAfter_of_pursue {ending : Ending} {stage : Stage}
    (pursued : router.pursue call c ending s = (s', .running stage)) :
    ∀ t ∈ timers stage, s'.now < t := by
  fun_induction pursue router call c ending s with
  | case1 c ending s s₁ o answer => cases pursued
  | case2 c ending s s₁ next answer s₂ ending' launched ih => exact ih pursued
  | case3 c ending s s₁ next answer s₂ attempt launched =>
    cases pursued
    exact isAfter_of_launch launched

/-- A selected call that waits, waits for what lies ahead. -/
theorem isAfter_of_follow {selection : Selection} {stage : Stage}
    (followed : router.follow call selection s = (s', .running stage)) :
    ∀ t ∈ timers stage, s'.now < t := by
  simp only [follow] at followed
  split at followed
  · exact isAfter_of_pursue followed
  · next attempt launched =>
    cases followed
    exact isAfter_of_launch launched

/-- So does a call that has had its turn. -/
theorem isAfter_of_turn {stage stage' : Stage}
    (resumed : router.resume call stage s = (s', .running stage')) :
    ∀ t ∈ timers stage', s'.now < t := by
  cases stage with
  | selecting due opinion =>
    simp only [resume] at resumed
    split at resumed
    · exact isAfter_of_follow resumed
    · next notYet =>
      cases resumed
      intro t member
      rw [List.mem_singleton.mp member]
      exact Nat.lt_of_not_le notYet
  | attempting c attempt =>
    simp only [resume] at resumed
    split at resumed
    · exact isAfter_of_pursue resumed
    · next rest waits =>
      cases resumed
      exact isAfter_of_resume waits

/-- So does a call that has started. -/
theorem isAfter_of_start {stage : Stage} (started : router.start call s = (s', .running stage)) :
    ∀ t ∈ timers stage, s'.now < t := by
  simp only [start] at started
  split at started
  · cases started
  · exact isAfter_of_follow started
  · next due opinion answer =>
    cases started
    intro t member
    rw [List.mem_singleton.mp member]
    simp only [receive] at answer
    split at answer
    · cases answer
    · cases asked : s.choose router.registration call.method with
      | mk s₁ a =>
        rw [asked] at answer
        cases answer
        exact State.isAfter_of_choose asked

/-- Launching an attempt takes no time. -/
theorem now_of_launch {r : Ending ⊕ Attempt} (launched : router.launch call c s = (s', r)) :
    s'.now = s.now := by
  cases r with
  | inr attempt =>
    obtain ⟨-, trial, made, flight, -, -, reaches, -⟩ := waits_of_launch launched
    exact reaches.now_eq
  | inl ending =>
    cases free : call.isStopped s with
    | true =>
      rw [launch_of_stopped c free, Prod.mk.injEq] at launched
      exact launched.1 ▸ rfl
    | false =>
      cases listed : router.registration.trial? c.progress.current with
      | none =>
        rw [launch_of_unlisted free listed, Prod.mk.injEq] at launched
        exact launched.1 ▸ rfl
      | some trial =>
        obtain ⟨inv, -, last, reaches, rfl⟩ := ended_of_launch free listed launched
        exact reaches.now_eq

/-- Nor does a turn of an attempt. -/
theorem now_of_resume {attempt : Attempt} {r : Ending ⊕ Attempt}
    (issued : attempt.flight.Issued s.tokens) (known : attempt.token.id < s.tokens.issued)
    (resumed : resumeAttempt c attempt s = (s', r)) : s'.now = s.now := by
  cases r with
  | inr rest =>
    obtain ⟨flight, -, reaches, -⟩ := waits_of_resume issued resumed
    exact reaches.now_eq
  | inl ending =>
    obtain ⟨last, reaches, rfl⟩ := ended_of_resume issued known resumed
    exact reaches.now_eq

/-- An attempt that is cut off has missed its deadline, and would go on waiting without it: whatever
it waits for comes later. -/
structure Overruns (c : Course) (now : Instant) (unbounded : State × (Ending ⊕ Attempt)) :
    Prop where
  missed : ∃ due policy, c.deadline = some (due, policy) ∧ due ≤ now
  waits : ∃ s₁ rest, unbounded = (s₁, .inr rest) ∧ ∀ t ∈ rest.flight.timers, now < t

/-- Only what still waits is cut off. An attempt that had come to an ending would have kept it. -/
theorem overruns_of_bound {now : Instant} {unbounded : State × (Ending ⊕ Attempt)}
    (cut : c.bound unbounded = (s', .inl .expired)) (lasting : unbounded.1.now = now)
    (never : ∀ s₁, unbounded ≠ (s₁, .inl .expired))
    (after : ∀ s₁ rest, unbounded = (s₁, .inr rest) → ∀ t ∈ rest.flight.timers, s₁.now < t) :
    Overruns c now unbounded := by
  obtain ⟨s₁, end_ | rest⟩ := unbounded
  · cases cut
    exact absurd rfl (never s')
  · subst lasting
    refine ⟨?_, s₁, rest, rfl, after s₁ rest rfl⟩
    simp only [Course.bound] at cut
    split at cut
    · next overdue =>
      cases deadline : c.deadline with
      | none => simp [Course.isOverdue, deadline] at overdue
      | some bounds =>
          exact ⟨bounds.1, bounds.2, rfl, by simpa [Course.isOverdue, deadline] using overdue⟩
    · cases cut

/-- An attempt that is cut off as soon as it has started. -/
theorem overruns_of_launch (cut : router.launch call c s = (s', .inl .expired)) :
    Overruns c s.now (router.launch call c.unbounded s) := by
  rw [launch_eq_bound] at cut
  refine overruns_of_bound cut (now_of_launch rfl) ?_ ?_
  · intro s₁ expired
    cases deadline_of_launch expired
  · intro s₁ rest launched t member
    exact isAfter_of_launch launched t (List.mem_append_right _ member)

/-- An attempt that is cut off at a later turn. -/
theorem overruns_of_resume {attempt : Attempt} (issued : attempt.flight.Issued s.tokens)
    (known : attempt.token.id < s.tokens.issued)
    (cut : resumeAttempt c attempt s = (s', .inl .expired)) :
    Overruns c s.now (resumeAttempt c.unbounded attempt s) := by
  rw [resumeAttempt_eq_bound] at cut
  refine overruns_of_bound cut (now_of_resume issued known rfl) ?_ ?_
  · intro s₁ expired
    cases deadline_of_resume expired
  · intro s₁ rest resumed t member
    exact isAfter_of_resume resumed t (List.mem_append_right _ member)

end Router

/-- A step of a call takes no time: only the clock does, and the clock is moved from outside. -/
theorem Journey.Step.now_eq {router : Router} {s s' : State} {j j' : Journey}
    (step : Step router s j s' j') (sound : j.Sound s) : s'.now = s.now := by
  cases step with
  | refused phase answer => exact (router.aside_receive answer).now
  | chosen phase answer => exact (router.aside_receive answer).now
  | asked phase answer => exact (router.aside_receive answer).now
  | answered phase isDue => rfl
  | embarked phase => exact (router.aside_embark _ _ s).now
  | withheld phase stopped launched => exact Router.now_of_launch launched
  | sped phase free launched => exact Router.now_of_launch launched
  | launched phase launched => exact Router.now_of_launch launched
  | waited phase resumed =>
    obtain ⟨-, known, issued, -⟩ := sound.attempt _ _ phase
    exact Router.now_of_resume issued known resumed
  | left phase resumed =>
    obtain ⟨-, known, issued, -⟩ := sound.attempt _ _ phase
    exact Router.now_of_resume issued known resumed
  | concluded phase answer => exact (router.aside_conclude answer).now
  | fellBack phase answer => exact (router.aside_conclude answer).now
  | dropped phase => rfl
  | @droppedInFlight _ course attempt phase =>
    exact (router.aside_report course .disposed _).now.trans
      (Invocation.abandon_reaches attempt.flight s).now_eq

/-- So does a sequence of steps. -/
theorem Journey.Steps.now_eq {router : Router} {a b : State × Journey} (sound : a.2.Sound a.1)
    (steps : Steps router a b) : b.2.Sound b.1 ∧ b.1.now = a.1.now := by
  induction steps with
  | refl => exact ⟨sound, rfl⟩
  | tail before step ih =>
    obtain ⟨sound', still⟩ := ih
    exact ⟨(step.grows sound').2, (step.now_eq sound').trans still⟩

/-! ### The deadline in force -/

namespace Instant

variable {now due : Nat} {d : Duration}

/-- A duration that the clock can represent the end of has passed after as many milliseconds as it
takes up. Any other duration has no end. -/
theorem after?_eq_some_iff : after? now d = some due ↔ due = now + d.ceilMillis ∧ due ≤ last := by
  unfold after?
  split
  · next representable =>
    rw [Option.some.injEq]
    constructor
    · rintro rfl
      exact ⟨rfl, representable⟩
    · rintro ⟨rfl, -⟩
      rfl
  · next tooFar =>
    simp only [reduceCtorEq, false_iff]
    rintro ⟨rfl, representable⟩
    exact tooFar representable

/-- It passes later. -/
theorem le_of_after? (counted : after? now d = some due) : now ≤ due := by
  rw [(after?_eq_some_iff.mp counted).1]
  exact Nat.le_add_right _ _

end Instant

/-- The deadline in force at an attempt of a call selected at an instant, with the attempts before
it. It is computed from these alone, where the code carries it along. -/
def Registration.deadlineFor (r : Registration) (since : Nat) (made : List Leg) :
    Option (Instant × TimeoutPolicy) :=
  r.timeout.bind fun policy =>
    if (expiry? made).isSome ∨ (policy.scope = .firstAttempt ∧ made ≠ []) then none
    else (Instant.after? since policy.duration).map (·, policy)

namespace Registration

variable {r : Registration} {since due : Nat} {made : List Leg} {policy : TimeoutPolicy}

/-- A deadline in force is that of the trial, counted from the selection. It has not been missed,
and if it is for the first attempt this is the first. -/
theorem deadlineFor_eq_some_iff : r.deadlineFor since made = some (due, policy) ↔
    r.timeout = some policy ∧ Instant.after? since policy.duration = some due ∧
      expiry? made = none ∧ (policy.scope = .firstAttempt → made = []) := by
  unfold deadlineFor
  cases timeout : r.timeout with
  | none => simp
  | some own =>
    by_cases spent : (expiry? made).isSome = true ∨ (own.scope = .firstAttempt ∧ made ≠ [])
    · simp only [Option.bind_some, spent, if_true, reduceCtorEq, Option.some.injEq, false_iff]
      rintro ⟨rfl, -, none', first⟩
      rcases spent with missed | ⟨scope, more⟩
      · rw [none'] at missed
        cases missed
      · exact more (first scope)
    · simp only [Option.bind_some, spent, if_false, Option.map_eq_some_iff, Prod.mk.injEq,
        Option.some.injEq]
      rw [not_or] at spent
      constructor
      · rintro ⟨instant, counted, rfl, rfl⟩
        exact ⟨rfl, counted, Option.not_isSome_iff_eq_none.mp spent.1,
          fun scope => Decidable.byContradiction fun more => spent.2 ⟨scope, more⟩⟩
      · rintro ⟨rfl, counted, -, -⟩
        exact ⟨due, counted, rfl, rfl⟩

/-- One for the whole sequence is in force as long as it has not been missed, in whatever
attempt. -/
theorem deadlineFor_of_whole (timeout : r.timeout = some policy)
    (whole : policy.scope = .wholeSequence)
    (counted : Instant.after? since policy.duration = some due) (before : expiry? made = none) :
    r.deadlineFor since made = some (due, policy) := by
  refine deadlineFor_eq_some_iff.mpr ⟨timeout, counted, before, fun first => ?_⟩
  rw [whole] at first
  cases first

end Registration

namespace Router

variable {router : Router} {call : Call} {c : Course} {s s' : State}

/-- A call sets out with the deadline that counts from now. Nothing has been attempted, so nothing
can have been missed. -/
theorem deadline_of_embark (router : Router) (call : Call) (selection : Selection) (s : State) :
    (router.embark call selection s).2.deadline = router.registration.deadlineFor s.now [] := by
  have none' : (expiry? []).isSome = false := rfl
  simp [embark, Registration.deadlineFor, none', State.openSpan, State.record]

/-- The deadline in force at the next attempt. A missed one is dropped, and one for the first
attempt goes with that attempt; any other is kept as it is. -/
theorem deadline_of_conclude {j : Journey} {selection : Selection} {made : List Leg} {leg : Leg}
    {next : Course} {e : Ending} {since : Nat}
    (here : j.StandsAt router.registration selection made (some leg) c)
    (ending : leg.ending = some e) (own : c.deadline = router.registration.deadlineFor since made)
    (goesOn : (router.conclude call c e s).2 = .inr next) :
    next.deadline = router.registration.deadlineFor since (made ++ [leg]) := by
  obtain ⟨o, trigger, deadline, progress, key, verdict, -, rfl⟩ :=
    exists_verdict_of_conclude goesOn
  cases e with
  | completed o' =>
    have completed : leg.isExpired = false := by simp [Leg.isExpired, ending]
    simp only [verdict?, Option.some.injEq, Prod.mk.injEq] at verdict
    rw [← verdict.2.2, own]
    unfold Registration.deadlineFor
    rw [expiry?_of_completed completed]
    cases timeout : router.registration.timeout with
    | none => simp
    | some policy => cases scope : policy.scope <;> simp [scope]
  | expired =>
    have expired : leg.isExpired = true := (Leg.isExpired_iff ending).mpr rfl
    obtain ⟨⟨instant, policy⟩, set⟩ := Option.isSome_iff_exists.mp (here.due leg rfl expired)
    obtain ⟨-, before, -⟩ := here.keeps.covered instant policy set
    simp only [verdict?, set, Option.some.injEq, Prod.mk.injEq] at verdict
    rw [← verdict.2.2]
    unfold Registration.deadlineFor
    rw [expiry?_of_expired before expired]
    cases router.registration.timeout <;> simp

end Router

end TrialRouting
