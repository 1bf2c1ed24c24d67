import Mathlib.Data.List.Forall2
import TrialRouting.Proofs.Call.World

/-!
# Schedules of calls

A schedule runs the calls of a router by turns, and takes down those that are to be
abandoned, at instants it chooses. Each thing it does is something that may happen in a
world, so a whole run is one history among others: what holds of every history of a world
holds of what is run.
-/

namespace TrialRouting

/-- The phase of a call with the given status. -/
def Status.phase : Status Stage Outcome → Phase
  | .waiting => .arriving
  | .running stage => .ofTurn (.running stage)
  | .ended _ (some o) => .ended o
  | .ended _ none => .takenDown

/-- A journey is where the schedule has its call. A schedule knows nothing of the attempts that lie
behind it. -/
structure Journey.Follows (j : Journey) (a : Activity Call Stage Outcome) : Prop where
  call : j.call = a.request
  phase : j.phase = a.status.phase

/-- The journeys of a world are those of scheduled calls, and the tokens that the schedule may
cancel have been issued. -/
structure World.Runs (w : World) (as : List (Activity Call Stage Outcome)) : Prop where
  sound : w.Sound
  follows : List.Forall₂ Journey.Follows w.journeys as
  issued : ∀ t ∈ as.map (·.token), t.id < w.state.tokens.issued

namespace Schedule

variable {router : Router} {s s' : State} {w : World} {j : Journey}
  {a : Activity Call Stage Outcome} {as : List (Activity Call Stage Outcome)}

/-- A turn that leaves a scheduled call somewhere, and takes it down there if it is to be abandoned,
is a sequence of steps. Taking it down is the last of them. -/
theorem afterTurn_steps {turn : State × Step Stage Outcome} (call : j.call = a.request)
    (leads : j.LeadsTo router s turn) :
    ∃ j', Journey.Steps router (s, j) ((a.afterTurn router.conduct turn).1, j') ∧
      j'.Follows (a.afterTurn router.conduct turn).2 := by
  obtain ⟨s₁, step⟩ := turn
  obtain ⟨j₁, steps, same, phase⟩ := leads
  have request : j₁.call = a.request := same.trans call
  cases step with
  | finished o => exact ⟨j₁, steps, request, phase⟩
  | running stage =>
    simp only [Activity.afterTurn]
    split
    · obtain ⟨j₂, last, kept, down⟩ := Journey.abandon_step phase
      exact ⟨j₂, steps.tail last, kept.trans request, down⟩
    · exact ⟨j₁, steps, request, phase⟩

/-- The turn of a scheduled call is a sequence of steps, whether it starts the call, resumes it or
finds it ended. -/
theorem turn_steps (follows : j.Follows a) :
    ∃ j', Journey.Steps router (s, j) ((a.turn router.conduct s).1, j') ∧
      j'.Follows (a.turn router.conduct s).2 := by
  have phase := follows.phase
  cases status : a.status with
  | waiting =>
    rw [status] at phase
    simp only [Activity.turn, status]
    split
    · exact afterTurn_steps follows.call (follows.call ▸ Journey.start_leads phase)
    · exact ⟨j, .refl, follows⟩
  | running stage =>
    rw [status] at phase
    simp only [Activity.turn, status]
    exact afterTurn_steps follows.call (follows.call ▸ Journey.resume_leads phase)
  | ended instant result =>
    simp only [Activity.turn, status]
    exact ⟨j, .refl, follows⟩

/-- One turn or cancellation of a scheduled call, among other calls of its world. What it does is a
history in which only that call moves. -/
def Proceeds (router : Router)
    (f : Activity Call Stage Outcome → State → State × Activity Call Stage Outcome) : Prop :=
  ∀ (s : State) (a : Activity Call Stage Outcome) (before after : List Journey) (j : Journey),
    j.Follows a → a.token.id < s.tokens.issued →
      (f a s).2.token = a.token ∧
        ∃ j', j'.Follows (f a s).2 ∧
          World.Becomes router ⟨s, before ++ j :: after⟩ ⟨(f a s).1, before ++ j' :: after⟩

/-- The turns of calls proceed. -/
theorem proceeds_turn (router : Router) :
    Proceeds router fun a s => a.turn router.conduct s := by
  intro s a before after j follows _
  have token : (a.turn router.conduct s).2.token = a.token := by
    unfold Activity.turn Activity.afterTurn
    repeat' split
    all_goals rfl
  obtain ⟨j', steps, now⟩ : ∃ j', Journey.Steps router (s, j)
      ((a.turn router.conduct s).1, j') ∧ j'.Follows (a.turn router.conduct s).2 :=
    turn_steps follows
  exact ⟨token, j', now, World.becomes_of_steps steps before after⟩

/-- Cancellations from outside proceed. They move no call at all, and cancel a token that has been
issued. -/
theorem proceeds_applyCancel (router : Router) : Proceeds router fun a s => a.applyCancel s := by
  intro s a before after j follows known
  simp only [Activity.applyCancel]
  split
  · split
    · exact ⟨rfl, j, ⟨follows.call, follows.phase⟩, .single (.outside (.cancelled known))⟩
    · exact ⟨rfl, j, follows, .refl⟩
  · exact ⟨rfl, j, follows, .refl⟩

/-- Scheduled calls that each proceed in turn. The induction follows the list, with those that have
had their turn in front. -/
theorem becomes_each {f : Activity Call Stage Outcome → State → State × Activity Call Stage Outcome}
    (proceeds : Proceeds router f) {js : List Journey}
    (follows : List.Forall₂ Journey.Follows js as)
    (before : List Journey) (sound : World.Sound ⟨s, before ++ js⟩)
    (issued : ∀ t ∈ as.map (·.token), t.id < s.tokens.issued) :
    ∃ js', World.Becomes router ⟨s, before ++ js⟩ ⟨(each f as s).1, before ++ js'⟩ ∧
      List.Forall₂ Journey.Follows js' (each f as s).2 ∧
      (each f as s).2.map (·.token) = as.map (·.token) := by
  induction follows generalizing s before with
  | nil => exact ⟨[], .refl, .nil, rfl⟩
  | @cons j a js as first rest ih =>
    obtain ⟨token, j', now, moved⟩ :=
      proceeds s a before js j first (issued _ List.mem_cons_self)
    have grows := World.Becomes.grows moved sound
    have sound' : World.Sound ⟨(f a s).1, (before ++ [j']) ++ js⟩ := by
      rw [List.append_assoc, List.singleton_append]
      exact World.Becomes.sound moved sound
    obtain ⟨js', onwards, later, tokens⟩ := ih (before ++ [j']) sound' fun t member =>
      Nat.lt_of_lt_of_le (issued t (List.mem_cons_of_mem _ member)) grows.issued
    simp only [List.append_assoc, List.singleton_append] at onwards
    refine ⟨j' :: js', moved.trans onwards, .cons now later, ?_⟩
    simp only [each, List.map_cons, token, tokens]

/-- What a schedule makes of calls and their state is a history of their world. It is said of every
part of a schedule, so that the parts can be put together. -/
def Carries (router : Router) (as : List (Activity Call Stage Outcome)) (s : State)
    (result : State × List (Activity Call Stage Outcome)) : Prop :=
  ∀ js, World.Runs ⟨s, js⟩ as → ∃ js', World.Becomes router ⟨s, js⟩ ⟨result.1, js'⟩ ∧
    World.Runs ⟨result.1, js'⟩ result.2

/-- What one part of a schedule leaves is carried on by the next, so that both together are one
history. -/
theorem Carries.trans {first second : State × List (Activity Call Stage Outcome)}
    (one : Carries router as s first) (two : Carries router first.2 first.1 second) :
    Carries router as s second := by
  intro js runs
  obtain ⟨js₁, becomes, onwards⟩ := one js runs
  obtain ⟨js₂, further, last⟩ := two js₁ onwards
  exact ⟨js₂, becomes.trans further, last⟩

/-- A schedule that does nothing carries its calls nowhere. -/
theorem Carries.refl : Carries router as s (s, as) :=
  fun js runs => ⟨js, .refl, runs⟩

/-- Something done for each call in turn is a history, if it is one for each single call. -/
theorem carries_each {f : Activity Call Stage Outcome → State → State × Activity Call Stage Outcome}
    (proceeds : Proceeds router f) : Carries router as s (each f as s) := by
  intro js runs
  obtain ⟨js', becomes, follows, tokens⟩ :=
    becomes_each proceeds runs.follows [] runs.sound runs.issued
  refine ⟨js', becomes, World.Becomes.sound becomes runs.sound, follows, ?_⟩
  intro t member
  rw [tokens] at member
  exact Nat.lt_of_lt_of_le (runs.issued t member)
    (World.Becomes.grows becomes runs.sound).issued

/-- A round is a history: everybody's turn, then the cancellations. -/
theorem carries_round : Carries router as s (round router.conduct as s) :=
  (carries_each (proceeds_turn router)).trans (carries_each (proceeds_applyCancel router))

/-- So are all rounds of an instant, however many there are. -/
theorem carries_rounds (more : Nat) :
    Carries router as s (rounds router.conduct more as s) := by
  induction more generalizing as s with
  | zero => exact .refl
  | succ more ih =>
    simp only [rounds]
    split
    · exact carries_round.trans ih
    · exact carries_round

/-- The next instant is later. -/
theorem lt_of_nextInstant {now due : Instant}
    (next : nextInstant? router.conduct as now = some due) : now < due := by
  have member := List.min?_mem next
  simpa using (List.mem_filter.mp member).2

/-- So is a jump of the clock. -/
theorem carries_clock {now : Nat} (later : s.now ≤ now) :
    Carries router as s ({ s with now := now }, as) := by
  intro js runs
  have passes : World.Moves router ⟨s, js⟩ ⟨{ s with now := now }, js⟩ := .outside (.clock later)
  exact ⟨js, .single passes, (passes.grows runs.sound).2, runs.follows, runs.issued⟩

/-- So is one instant after another, by induction on their number. -/
theorem carries_instants (more : Nat) :
    Carries router as s (instants router.conduct more as s) := by
  induction more generalizing as s with
  | zero => exact .refl
  | succ more ih =>
    simp only [instants]
    split
    · exact carries_rounds _
    · next due next =>
      have later := Nat.le_of_lt (lt_of_nextInstant next)
      exact ((carries_rounds _).trans (carries_clock later)).trans ih

/-- Calls that have not started yet join a world, one after the other. Nothing else changes by
that. -/
theorem joins (router : Router) (waiting : ∀ a ∈ as, a.status.phase = .arriving)
    (callers : ∀ a ∈ as, a.request.caller.id < s.tokens.issued) (before : List Journey) :
    ∃ js, World.Becomes router ⟨s, before⟩ ⟨s, before ++ js⟩ ∧
      List.Forall₂ Journey.Follows js as := by
  induction as generalizing before with
  | nil => exact ⟨[], by rw [List.append_nil], .nil⟩
  | cons a as ih =>
    obtain ⟨js, rest, follows⟩ := ih (fun b member => waiting b (List.mem_cons_of_mem _ member))
      (fun b member => callers b (List.mem_cons_of_mem _ member))
      (before ++ [{ call := a.request }])
    refine ⟨{ call := a.request } :: js, ?_, .cons ⟨rfl, ?_⟩ follows⟩
    · rw [List.append_assoc, List.singleton_append] at rest
      exact .head (.joined (callers a List.mem_cons_self)) rest
    · exact (waiting a List.mem_cons_self).symm

/-- A schedule of calls is a history of the world they are in: it takes each call to where its
journey has come. So what holds of every history holds of what a schedule makes of its calls. -/
theorem becomes_run (tokens : s.tokens.Sound) (waiting : ∀ a ∈ as, a.status.phase = .arriving)
    (callers : ∀ a ∈ as, a.request.caller.id < s.tokens.issued)
    (issued : ∀ a ∈ as, a.token.id < s.tokens.issued) :
    ∃ js, World.Becomes router ⟨s, []⟩ ⟨(run router.conduct as s).1, js⟩ ∧
      List.Forall₂ Journey.Follows js (run router.conduct as s).2 := by
  obtain ⟨js, joined, follows⟩ := joins router waiting callers []
  have sound : World.Sound ⟨s, js⟩ := World.Becomes.sound joined (World.sound_of_empty tokens)
  have known : ∀ t ∈ as.map (·.token), t.id < s.tokens.issued := by
    intro t member
    obtain ⟨a, scheduled, rfl⟩ := List.mem_map.mp member
    exact issued a scheduled
  obtain ⟨js', becomes, runs⟩ := carries_instants _ js ⟨sound, follows, known⟩
  exact ⟨js', Relation.ReflTransGen.trans joined becomes, runs.follows⟩

end Schedule

end TrialRouting
