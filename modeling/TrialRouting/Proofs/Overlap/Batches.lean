import TrialRouting.Proofs.Call.Selection
import TrialRouting.Proofs.Overlap.Instants

/-!
# Calls that overlap

Calls of one router that arrive together, each with a start, a cancellation and an end of its
caller's patience at times of its own, run side by side. Each gets the answer it gets alone after
the time it takes alone, and on the way attempts the same keys, calls the same implementations and
reports the same, at the same times after its start.
-/

namespace TrialRouting

/-- A call that arrives, and how its caller watches over it. -/
structure Arrival where
  method : String
  request : Request
  /-- Whether it runs under the token in its caller's hands, or else under one of its own. -/
  passesToken : Bool
  handsOut : Bool
  supervision : Supervision

namespace Arrival

/-- The call that arrives, with the token in its caller's hands and one of its own. -/
def call (x : Arrival) (caller own : Token) : Call where
  method := x.method
  request := x.request
  caller
  token := if x.passesToken then caller else own
  handsOut := x.handsOut

/-- The call is scheduled, and both tokens are issued for it. -/
def schedule (x : Arrival) (s : State) : State × Activity Call Stage Outcome :=
  let issued := x.supervision.issue s
  let own := issued.1.tokens.nextRoot
  (issued.1.issueToken, x.supervision.activity (x.call issued.2 own) issued.2 s.now)

/-- The calls are scheduled in the order they arrive. -/
def scheduleAll : List Arrival → State → State × List (Activity Call Stage Outcome)
  | [], s => (s, [])
  | x :: rest, s =>
      let first := x.schedule s
      let others := scheduleAll rest first.1
      (others.1, first.2 :: others.2)

end Arrival

/-- What a caller is given for a call and when, and what is written of the call on the way. Times
count from the start of the call. -/
structure Experience where
  /-- Nothing for a call that has been abandoned. -/
  answer : Option (Except CallerError Value)
  elapsed : Nat
  /-- The lines without their numbers. -/
  chronicle : Chronicle

/-- What becomes of the `n`-th of the calls that arrive. -/
def Router.experience (router : Router) (arrivals : List Arrival) (n : Nat) (s : State) :
    Option Experience :=
  let scheduled := Arrival.scheduleAll arrivals s
  let ran := Schedule.run router.conduct scheduled.2 scheduled.1
  ran.2[n]?.map fun a => {
    answer := a.ending.1.map a.request.result
    elapsed := a.ending.2
    chronicle := (Schedule.written router.conduct n scheduled.2 scheduled.1).anonymous }

/-! ### Scheduling -/

namespace Arrival

variable {x : Arrival} {xs ys : List Arrival} {s t : State} {owner : Nat → Nat} {i : Nat}

/-- Scheduling a call issues two tokens and cancels the caller's at most, if the call comes with a
cancelled one. -/
theorem schedule_eq (x : Arrival) (s : State) : x.schedule s =
    ({ s with tokens := {
        issued := s.tokens.issued + 2
        cancelled := if x.supervision.precancelled then s.tokens.issued :: s.tokens.cancelled
          else s.tokens.cancelled } },
      x.supervision.activity (x.call ⟨s.tokens.issued, []⟩ ⟨s.tokens.issued + 1, []⟩)
        ⟨s.tokens.issued, []⟩ s.now) := by
  unfold schedule Supervision.issue
  cases x.supervision.precancelled <;> rfl

theorem issued_schedule (x : Arrival) (s : State) :
    (x.schedule s).1.tokens.issued = s.tokens.issued + 2 := by
  rw [schedule_eq]

theorem mem_cancelled_schedule : i ∈ (x.schedule s).1.tokens.cancelled ↔
    i ∈ s.tokens.cancelled ∨ x.supervision.precancelled = true ∧ i = s.tokens.issued := by
  rw [schedule_eq]
  by_cases precancelled : x.supervision.precancelled = true
  · simp only [precancelled, if_true, List.mem_cons, true_and]
    exact or_comm
  · simp only [precancelled, if_false, false_and, or_false, Bool.false_eq_true]

theorem goesOn_schedule (x : Arrival) (sound : s.tokens.Sound) : s.GoesOn (x.schedule s).1 where
  now := by rw [schedule_eq]
  backdrop := by
    rw [schedule_eq]
    rfl
  sound := by
    intro i cancelled
    rw [issued_schedule]
    rcases mem_cancelled_schedule.mp cancelled with before | ⟨-, rfl⟩
    · exact Nat.lt_add_right _ (sound i before)
    · exact Nat.lt_add_of_pos_right (by decide)
  issued := issued_schedule x s ▸ Nat.le_add_right _ _
  kept _ before := mem_cancelled_schedule.mpr (.inl before)
  journal := by simp only [schedule_eq, List.prefix_rfl]
  trace := by simp only [schedule_eq, List.prefix_rfl]
  samples := by simp only [schedule_eq, List.prefix_rfl]

/-- No token that has been issued before is cancelled. So scheduling a call disturbs none that is
there. -/
theorem spares_schedule (x : Arrival) (s : State) (owner : Nat → Nat) (name : Nat) :
    s.Spares owner name (x.schedule s).1 := by
  intro i after _ known
  rcases mem_cancelled_schedule.mp after with before | ⟨-, rfl⟩
  · exact before
  · exact absurd known (Nat.lt_irrefl _)

/-- The two tokens issued for a call in one run stand for those in another. -/
def newTokens (s t : State) : Pairing := fun i j =>
  ∃ k < 2, i = s.tokens.issued + k ∧ j = t.tokens.issued + k

/-- A call is scheduled alike in two runs, however many calls have been scheduled before. -/
theorem schedule_alike (x : Arrival) (clock : s.now = t.now) :
    (x.schedule s).2.Alike (newTokens s t) (x.schedule t).2 := by
  have caller : Token.Alike (newTokens s t) ⟨s.tokens.issued, []⟩ ⟨t.tokens.issued, []⟩ :=
    .cons ⟨0, by decide, rfl, rfl⟩ .nil
  have own : Token.Alike (newTokens s t) ⟨s.tokens.issued + 1, []⟩ ⟨t.tokens.issued + 1, []⟩ :=
    .cons ⟨1, by decide, rfl, rfl⟩ .nil
  have requests : (x.schedule s).2.request.Alike (newTokens s t) (x.schedule t).2.request := by
    rw [schedule_eq, schedule_eq]
    refine ⟨rfl, rfl, rfl, caller, ?_⟩
    simp only [Supervision.activity, call]
    cases x.passesToken with
    | false => exact own
    | true => exact caller
  have starts : (x.schedule s).2.startAt = (x.schedule t).2.startAt :=
    congrArg (· + x.supervision.startAfter) clock
  refine ⟨requests, caller, starts, ?_, ?_, .waiting⟩
  · exact congrArg (fun now => x.supervision.cancelAfter.map (now + x.supervision.startAfter + ·))
      clock
  · exact congrArg (· + x.supervision.abandonAfter) starts

/-- A call that is scheduled in two runs matches itself, with its two tokens in both. -/
theorem schedule_matches (x : Arrival) (here : s.tokens.Sound) (there : t.tokens.Sound)
    (backdrop : s.backdrop = t.backdrop) (clock : s.now = t.now) (owner : Nat → Nat) :
    Schedule.Matches (newTokens s t) (s.ownerAfter owner s.tokens.issued) (x.schedule s).2
      (x.schedule t).2 (x.schedule s).1 (x.schedule t).1 where
  backdrop := (goesOn_schedule x here).backdrop.trans
    (backdrop.trans (goesOn_schedule x there).backdrop.symm)
  tokens := {
    here := (goesOn_schedule x here).sound
    there := (goesOn_schedule x there).sound
    issued := by
      rintro i j ⟨k, few, rfl, rfl⟩
      rw [issued_schedule, issued_schedule]
      exact ⟨Nat.add_lt_add_left few _, Nat.add_lt_add_left few _⟩
    unique := by
      rintro i j i' j' ⟨k, -, rfl, rfl⟩ ⟨k', -, rfl, rfl⟩
      rw [Nat.add_left_cancel_iff, Nat.add_left_cancel_iff]
    status := by
      rintro i j ⟨k, -, rfl, rfl⟩
      rw [mem_cancelled_schedule, mem_cancelled_schedule]
      have new : s.tokens.issued + k ∉ s.tokens.cancelled := fun old =>
        absurd (here _ old) (Nat.not_lt.mpr (Nat.le_add_right _ _))
      have newThere : t.tokens.issued + k ∉ t.tokens.cancelled := fun old =>
        absurd (there _ old) (Nat.not_lt.mpr (Nat.le_add_right _ _))
      rw [or_iff_right new, or_iff_right newThere, Nat.add_eq_left, Nat.add_eq_left] }
  alike := schedule_alike x clock
  owned := by
    rintro i j ⟨k, -, rfl, -⟩
    exact if_neg (Nat.not_lt.mpr (Nat.le_add_right _ _))
  caller := by
    rw [schedule_eq]
    rfl
  root := rfl

/-- A call that is scheduled holds its tokens, and nobody else does. -/
theorem schedule_isAt (x : Arrival) (s : State) (owner : Nat → Nat) :
    (x.schedule s).2.IsAt (s.ownerAfter owner s.tokens.issued) (x.schedule s).1 := by
  refine Activity.Alike.mono (schedule_alike x rfl) ?_
  rintro i j ⟨k, few, rfl, rfl⟩
  refine ⟨rfl, if_neg (Nat.not_lt.mpr (Nat.le_add_right _ _)), ?_⟩
  rw [issued_schedule]
  exact Nat.add_lt_add_left few _

theorem scheduleAll_append (xs ys : List Arrival) (s : State) : scheduleAll (xs ++ ys) s =
    ((scheduleAll ys (scheduleAll xs s).1).1,
      (scheduleAll xs s).2 ++ (scheduleAll ys (scheduleAll xs s).1).2) := by
  induction xs generalizing s with
  | nil => rfl
  | cons x rest ih => simp only [List.cons_append, scheduleAll, ih]

theorem length_scheduleAll (xs : List Arrival) (s : State) :
    (scheduleAll xs s).2.length = xs.length := by
  induction xs generalizing s with
  | nil => rfl
  | cons x rest ih => simp only [scheduleAll, List.length_cons, ih]

/-- Scheduling calls cancels no token that has been issued before, and each call holds new ones. The
induction follows the calls in the order they arrive. -/
theorem scheduleAll_spec (xs : List Arrival) (sound : s.tokens.Sound) (owner : Nat → Nat) :
    s.GoesOn (scheduleAll xs s).1 ∧ (∀ name, s.Spares owner name (scheduleAll xs s).1) ∧
      ∃ owner', s.Assigns owner owner' ∧ ∀ a ∈ (scheduleAll xs s).2,
        a.IsAt owner' (scheduleAll xs s).1 ∧ s.tokens.issued ≤ a.token.id ∧
          a.token.id < (scheduleAll xs s).1.tokens.issued := by
  induction xs generalizing s owner with
  | nil =>
    exact ⟨.refl sound, fun name i after _ _ => after, owner, .refl s owner,
      fun a impossible => absurd impossible List.not_mem_nil⟩
  | cons x rest ih =>
    have goesOn := goesOn_schedule x sound
    have assigns := s.assigns_ownerAfter owner s.tokens.issued
    obtain ⟨onwards, spares, owner', assignsToo, others⟩ :=
      ih goesOn.sound (s.ownerAfter owner s.tokens.issued)
    refine ⟨goesOn.trans onwards, fun name => ?_, owner',
      assigns.trans assignsToo goesOn.issued, fun a member => ?_⟩
    · exact (spares_schedule x s owner name).trans (spares name) assigns goesOn.issued
    · rcases List.mem_cons.mp member with rfl | member
      · refine ⟨(schedule_isAt x s owner).mono assignsToo onwards.issued, Nat.le_refl _, ?_⟩
        refine Nat.lt_of_lt_of_le ?_ onwards.issued
        rw [issued_schedule]
        exact Nat.lt_add_of_pos_right (by decide)
      · obtain ⟨isAt, new, issued⟩ := others a member
        exact ⟨isAt, Nat.le_trans goesOn.issued new, issued⟩

/-- A call that arrives among others matches the same call that arrives alone. Those before it and
after it hold tokens of their own. -/
theorem amid_scheduleAll {r : Router} (steady : s.IsSteady r.registration) (before : List Arrival)
    (x : Arrival) (after : List Arrival) :
    Schedule.Amid r before.length (scheduleAll (before ++ x :: after) s).2
      (x.schedule (scheduleAll before s).1).2 (x.schedule s).2
      (scheduleAll (before ++ x :: after) s).1 (x.schedule s).1 := by
  obtain ⟨goesOn₁, -, owner₁, -, others₁⟩ := scheduleAll_spec before steady.tokens id
  have goesOn₂ := goesOn_schedule x goesOn₁.sound
  have assigns₂ := (scheduleAll before s).1.assigns_ownerAfter owner₁
    (scheduleAll before s).1.tokens.issued
  obtain ⟨goesOn₃, spares₃, owner₃, assigns₃, others₃⟩ := scheduleAll_spec after goesOn₂.sound
    ((scheduleAll before s).1.ownerAfter owner₁ (scheduleAll before s).1.tokens.issued)
  have agree := schedule_matches x goesOn₁.sound steady.tokens goesOn₁.backdrop goesOn₁.now owner₁
  rw [scheduleAll_append]
  refine .intro _ _ _ owner₃ rfl (length_scheduleAll before s) ?_ ⟨?_, ?_⟩ ⟨?_, ?_⟩
    (agree.spared goesOn₃ (spares₃ _) assigns₃)
  · exact (goesOn₁.trans (goesOn₂.trans goesOn₃)).isSteady steady
  · intro a member
    exact ((others₁ a member).1.mono assigns₂ goesOn₂.issued).mono assigns₃ goesOn₃.issued
  · intro a member
    exact Nat.ne_of_lt (others₁ a member).2.2
  · intro a member
    exact (others₃ a member).1
  · intro a member
    have new := (others₃ a member).2.1
    rw [issued_schedule] at new
    exact Nat.ne_of_gt (Nat.lt_of_lt_of_le (Nat.lt_add_of_pos_right (by decide)) new)

end Arrival

/-! ### Experiences -/

/-- A mode that says the same whatever the generator draws does so before the backdrop. -/
theorem Selector.IsFixed.backdrop {s : State} {r : Registration} (fixed : s.selector.IsFixed r) :
    s.backdrop.selector.IsFixed r := by
  intro mode known seed method
  exact (fixed mode known seed method).trans (fixed mode known 0 method).symm

/-- Whether a registration is steady does not depend on what has been counted. -/
theorem Recipe.IsSteady.uncounted {recipe : Recipe} (steady : recipe.IsSteady) :
    recipe.uncounted.IsSteady :=
  ⟨steady.construction, steady.behavior⟩

/-- A state is steady if its tokens are in order, the mode of the trial is fixed, and what the
catalog offers is steady. -/
theorem State.isSteady_of_fixed {s : State} {r : Registration} (sound : s.tokens.Sound)
    (fixed : s.selector.IsFixed r) (steady : ∀ recipe ∈ s.catalog.recipes, recipe.IsSteady) :
    s.IsSteady r := by
  refine ⟨sound, fun recipe listed => ?_, fixed.backdrop⟩
  obtain ⟨offered, member, rfl⟩ := List.mem_map.mp listed
  exact (steady offered member).uncounted

/-- Calls that overlap do not influence each other: what becomes of a call that arrives among others
is what becomes of it when no other call is made. It gets the same answer after the same time,
attempts the same keys, and what is written of it is the same but for its numbers.

Proof: the call is followed in the crowd and in a run of its own at once, with a pairing of the
tokens it holds in both. What others do cancels none of its tokens and leaves the backdrop as it is,
so in its turns it does the same in both runs. The crowd's clock stops more often; at instants that
are none of its own the call is idle there, and its own run waits. So both runs lead to the same
end. -/
theorem Router.call_keeps_to_itself {router : Router} (plain : ∀ d ∈ router.pipeline, d.IsPlain)
    {s : State} (sound : s.tokens.Sound) (fixed : s.selector.IsFixed router.registration)
    (steady : ∀ recipe ∈ s.catalog.recipes, recipe.IsSteady) {arrivals : List Arrival} {n : Nat}
    {x : Arrival} (arrived : arrivals[n]? = some x) :
    ∃ experience, router.experience arrivals n s = some experience ∧
      router.experience [x] 0 s = some experience := by
  obtain ⟨place, here⟩ := List.getElem?_eq_some_iff.mp arrived
  have split : arrivals.take n ++ x :: arrivals.drop (n + 1) = arrivals := by
    rw [← here, List.getElem_cons_drop, List.take_append_drop]
  have amid := Arrival.amid_scheduleAll (State.isSteady_of_fixed sound fixed steady)
    (arrivals.take n) x (arrivals.drop (n + 1))
  rw [split, List.length_take_of_le (Nat.le_of_lt place)] at amid
  have clock : (Arrival.scheduleAll arrivals s).1.now = (x.schedule s).1.now :=
    (Arrival.scheduleAll_spec arrivals sound id).1.now.trans
      (Arrival.goesOn_schedule x sound).now.symm
  obtain ⟨a, b, amid', alone, written⟩ := Schedule.run_amid plain amid clock
  obtain ⟨R, alike⟩ := amid'.alike
  have results : a.request.result = b.request.result := by
    funext o
    unfold Call.result
    rw [alike.request.method, alike.request.request]
  refine ⟨{
    answer := b.ending.1.map b.request.result
    elapsed := b.ending.2
    chronicle :=
      (Schedule.written router.conduct 0 [(x.schedule s).2] (x.schedule s).1).anonymous }, ?_, ?_⟩
  · rw [Router.experience, amid'.getElem?_eq, Option.map_some, alike.ending_eq, results, written]
  · simp only [Router.experience, Arrival.scheduleAll, alone, List.getElem?_cons_zero,
      Option.map_some]

/-- A router of the trial with a mode of its own. Its decorators only watch the attempts and bound
their time. -/
def watchingRouter : Router :=
  { pickyRouter with
    pipeline := [.logging "spare", .timeout (.ofMillis 6)]
    telemetry := .recorder }

/-- A call that waits, and is cancelled meanwhile. -/
def cancelledArrival : Arrival where
  method := "call"
  request := ⟨.call, "wait"⟩
  passesToken := true
  handsOut := true
  supervision := { cancelAfter := some 3 }

/-- A call that arrives while that one waits, and waits as long. -/
def laterArrival : Arrival where
  method := "call"
  request := ⟨.call, "wait"⟩
  passesToken := false
  handsOut := false
  supervision := { startAfter := 2 }

/-- That the first of two calls is cancelled while the second one waits makes no difference to the
second one, nor does it to the first one that the second one waits. -/
theorem two_waits_keep_to_themselves :
    (∃ e, watchingRouter.experience [cancelledArrival, laterArrival] 0 pickyStart = some e ∧
      watchingRouter.experience [cancelledArrival] 0 pickyStart = some e ∧
        e.answer = some (.error (.routing .cancelled)) ∧ e.elapsed = 3) ∧
      ∃ e, watchingRouter.experience [cancelledArrival, laterArrival] 1 pickyStart = some e ∧
        watchingRouter.experience [laterArrival] 0 pickyStart = some e ∧
          e.answer = some (.ok (.text "hello")) ∧ e.elapsed = 5 := by
  have plain : ∀ d ∈ watchingRouter.pipeline, d.IsPlain := by
    intro d member
    rcases List.mem_cons.mp member with rfl | member
    · trivial
    · rw [List.mem_singleton.mp member]
      trivial
  have sound : pickyStart.tokens.Sound := sound_spareStart
  have fixed : pickyStart.selector.IsFixed watchingRouter.registration := by
    intro mode known seed method
    obtain rfl := Option.some.inj known
    rfl
  have steady : ∀ recipe ∈ pickyStart.catalog.recipes, recipe.IsSteady := by
    intro recipe listed
    rw [List.mem_singleton.mp listed]
    exact ⟨fun _ => rfl, fun _ _ => rfl⟩
  have first : [cancelledArrival, laterArrival][0]? = some cancelledArrival := rfl
  have second : [cancelledArrival, laterArrival][1]? = some laterArrival := rfl
  obtain ⟨e, among, alone⟩ := Router.call_keeps_to_itself plain sound fixed steady first
  obtain ⟨e', among', alone'⟩ := Router.call_keeps_to_itself plain sound fixed steady second
  have told : (watchingRouter.experience [cancelledArrival] 0 pickyStart).map
      (fun e => (e.answer, e.elapsed)) = some (some (.error (.routing .cancelled)), 3) := by
    decide +kernel
  have told' : (watchingRouter.experience [laterArrival] 0 pickyStart).map
      (fun e => (e.answer, e.elapsed)) = some (some (.ok (.text "hello")), 5) := by
    decide +kernel
  rw [alone] at told
  rw [alone'] at told'
  exact ⟨⟨e, among, alone, Prod.mk.inj (Option.some.inj told)⟩,
    e', among', alone', Prod.mk.inj (Option.some.inj told')⟩

end TrialRouting
