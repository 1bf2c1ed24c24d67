import TrialRouting.Proofs.Call.Schedules
import TrialRouting.Proofs.Call.Timelines

/-!
# Schedules are never late

A schedule only moves the clock when every call has had its turn, and then to the next
instant at which something is due. A turn leaves nothing undone that is due by then, so the clock
never passes by what a call waits for: what a schedule makes of its calls is a history in
which the clock is not late for any of them.
-/

namespace TrialRouting

/-- A reading of the clock is made good by a later one at the same instant: it notes all that has
happened since, and what the first has noted is not noted again. -/
theorem Timeline.watch_watch {t : Timeline} {now : Nat} {j j' : Journey}
    (legs : j.legs.length ≤ j'.legs.length) (finished : j.finished.length ≤ j'.finished.length)
    (selected : j.selection.isSome = true → j'.selection.isSome = true)
    (ended : j.IsOver → j'.IsOver) : (t.watch now j).watch now j' = t.watch now j' := by
  have padded {l : List Nat} {m n : Nat} (further : m ≤ n) :
      (l.rightpad m now).rightpad n now = l.rightpad n now := by
    have count : m - l.length + (n - (l.length + (m - l.length))) = n - l.length := by omega
    simp only [List.rightpad, List.append_assoc, List.length_append, List.length_replicate,
      List.replicate_append_replicate, count]
  simp only [watch, padded legs, padded finished, mk.injEq, true_and]
  constructor
  · cases t.selected <;> cases early : j.selection <;> cases late : j'.selection <;>
      simp_all
  · cases t.ended <;> by_cases early : j.IsOver <;> by_cases late : j'.IsOver <;> simp_all

/-- A step loses nothing that has happened to a call. So a timeline only ever has to be added to. -/
theorem Journey.Step.onwards {router : Router} {s s' : State} {j j' : Journey}
    (step : Step router s j s' j') :
    j.legs.length ≤ j'.legs.length ∧ j.finished.length ≤ j'.finished.length ∧
      (j.selection.isSome = true → j'.selection.isSome = true) ∧ (j.IsOver → j'.IsOver) := by
  cases step <;> simp [legs, underway, IsOver, *]

namespace World

variable {router : Router} {s : State} {w w' : World} {n : Nat} {t : Timeline}

/-- Time does not run backwards: a step takes none, and outside it is only moved forward. -/
theorem Moves.now_le (moves : Moves router w w') (sound : w.Sound) :
    w.state.now ≤ w'.state.now := by
  cases moves with
  | joined caller => exact Nat.le_refl _
  | stepped here step =>
    exact Nat.le_of_eq (step.now_eq (sound.journeys _ (List.mem_of_getElem? here))).symm
  | outside change =>
    cases change with
    | clock later => exact later
    | issued => exact Nat.le_refl _
    | cancelled known => exact Nat.le_refl _
    | modes => exact Nat.le_refl _
    | wallClock => exact Nat.le_refl _
    | implemented => exact Nat.le_refl _

theorem Becomes.now_le (becomes : Becomes router w w') (sound : w.Sound) :
    w.state.now ≤ w'.state.now := by
  induction becomes with
  | refl => exact Nat.le_refl _
  | tail before moves ih => exact Nat.le_trans ih (moves.now_le (Becomes.sound before sound))

/-- A history in which no time passes is not late, and the clock need only be read at its end. It
has stood still at every move, since it never runs backwards. -/
theorem Watched.along (tokens : s.tokens.Sound) (watched : Watched router s n w t)
    (becomes : Becomes router w w') (still : w'.state.now = w.state.now) :
    Watched router s n w' ((w'.journeys[n]?).elim t (t.watch w'.state.now)) := by
  have sound : w.Sound := Becomes.sound watched.becomes (sound_of_empty tokens)
  induction becomes with
  | refl =>
    cases here : w.journeys[n]? with
    | none => exact watched
    | some j =>
      have onTime := watched.onTime tokens
      rw [OnTime, here, Option.elim_some] at onTime
      rw [Option.elim_some, onTime.watch_eq_self (watched.becomes.onCourse tokens here)]
      exact watched
  | @tail w₁ w₂ before moves ih =>
    have first : w.state.now ≤ w₁.state.now := Becomes.now_le before sound
    have second : w₁.state.now ≤ w₂.state.now := moves.now_le (Becomes.sound before sound)
    have same : w₁.state.now = w.state.now :=
      Nat.le_antisymm (Nat.le_trans second (Nat.le_of_eq still)) first
    have stays : w₂.state.now = w₁.state.now := still.trans same.symm
    have last := Watched.move (ih same) moves fun changed => absurd stays changed
    rw [stays] at last ⊢
    rcases moves.cases_of n with ⟨call, absent, new⟩ | ⟨j, j', here, there, step⟩ | unmoved
    · rwa [absent, Option.elim_none] at last
    · rw [there, Option.elim_some] at last ⊢
      rw [here, Option.elim_some] at last
      obtain ⟨legs, finished, selected, ended⟩ := step.onwards
      rwa [Timeline.watch_watch legs finished selected ended] at last
    · rw [unmoved] at last ⊢
      cases here : w₁.journeys[n]? with
      | none => rwa [here, Option.elim_none, Option.elim_none] at last
      | some j =>
        rwa [here, Option.elim_some, Option.elim_some, Timeline.watch_watch (Nat.le_refl _)
          (Nat.le_refl _) id id] at last

end World

/-- Whatever a scheduled call waits for lies ahead. Only when all calls are settled may the clock be
moved. -/
def Activity.IsSettled (a : Activity Call Stage Outcome) (now : Nat) : Prop :=
  ∀ stage, a.status = .running stage → ∀ t ∈ Router.timers stage, now < t

namespace Schedule

variable {router : Router} {s s' : State} {j : Journey} {a : Activity Call Stage Outcome}
  {as : List (Activity Call Stage Outcome)}

/-- What is left of a turn is settled: it has come to its end, or waits for what lies ahead. -/
theorem isSettled_afterTurn {turn : State × Step Stage Outcome}
    (ahead : ∀ s' stage, turn = (s', .running stage) → ∀ t ∈ Router.timers stage, s'.now < t) :
    (a.afterTurn router.conduct turn).2.IsSettled (a.afterTurn router.conduct turn).1.now := by
  obtain ⟨s', step⟩ := turn
  cases step with
  | finished o =>
    intro stage running
    cases running
  | running rest =>
    simp only [Activity.afterTurn]
    split
    · intro stage running
      cases running
    · intro stage running
      cases running
      exact ahead s' _ rfl

/-- A turn takes no time, and leaves a call settled. All that was due for the call has been done in
it. -/
theorem settles_turn (follows : j.Follows a) (sound : j.Sound s) :
    (a.turn router.conduct s).1.now = s.now ∧ (a.turn router.conduct s).2.IsSettled s.now := by
  obtain ⟨j', steps, -⟩ : ∃ j', Journey.Steps router (s, j)
      ((a.turn router.conduct s).1, j') ∧ j'.Follows (a.turn router.conduct s).2 :=
    turn_steps follows
  have still : (a.turn router.conduct s).1.now = s.now := (Journey.Steps.now_eq sound steps).2
  refine ⟨still, ?_⟩
  rw [← still]
  unfold Activity.turn
  cases status : a.status with
  | ended instant result =>
    intro stage running
    cases status.symm.trans running
  | waiting =>
    simp only
    split
    · exact isSettled_afterTurn fun s' stage started => Router.isAfter_of_start started
    · intro stage running
      cases status.symm.trans running
  | running rest => exact isSettled_afterTurn fun s' stage resumed => Router.isAfter_of_turn resumed

/-- Something done for each call in turn that takes no time. What the earlier ones have done to the
shared state does not unsettle them. -/
theorem now_each {f : Activity Call Stage Outcome → State → State × Activity Call Stage Outcome}
    (proceeds : Proceeds router f)
    (still : ∀ s a j, Journey.Follows j a → j.Sound s → (f a s).1.now = s.now)
    {js : List Journey} (follows : List.Forall₂ Journey.Follows js as) (before : List Journey)
    (sound : World.Sound ⟨s, before ++ js⟩)
    (issued : ∀ t ∈ as.map (·.token), t.id < s.tokens.issued) :
    (each f as s).1.now = s.now ∧ ∀ b ∈ (each f as s).2, ∃ a ∈ as, ∃ j s',
      Journey.Follows j a ∧ j.Sound s' ∧ s'.now = s.now ∧ b = (f a s').2 := by
  induction follows generalizing s before with
  | nil => exact ⟨rfl, fun b impossible => absurd impossible List.not_mem_nil⟩
  | @cons j a js as first rest ih =>
    have own : j.Sound s := sound.journeys j (by simp)
    obtain ⟨token, j', now, moved⟩ :=
      proceeds s a before js j first (issued _ List.mem_cons_self)
    have grows := World.Becomes.grows moved sound
    have sound' : World.Sound ⟨(f a s).1, (before ++ [j']) ++ js⟩ := by
      rw [List.append_assoc, List.singleton_append]
      exact World.Becomes.sound moved sound
    have same := still s a j first own
    obtain ⟨onwards, later⟩ := ih (before ++ [j']) sound' fun t member =>
      Nat.lt_of_lt_of_le (issued t (List.mem_cons_of_mem _ member)) grows.issued
    refine ⟨onwards.trans same, fun b member => ?_⟩
    rcases List.mem_cons.mp member with rfl | member
    · exact ⟨a, List.mem_cons_self, j, s, first, own, rfl, rfl⟩
    · obtain ⟨a', known, j'', s', follows, sound, now, made⟩ := later b member
      exact ⟨a', List.mem_cons_of_mem _ known, j'', s', follows, sound, now.trans same, made⟩

/-- Cancellations from outside take no time, and leave what is settled so. A cancelled call gets its
turn like any other. -/
theorem settles_applyCancel (a : Activity Call Stage Outcome) (s : State) :
    (a.applyCancel s).1.now = s.now ∧ (a.applyCancel s).2.status = a.status := by
  unfold Activity.applyCancel
  split
  · split
    · exact ⟨rfl, rfl⟩
    · exact ⟨rfl, rfl⟩
  · exact ⟨rfl, rfl⟩

/-- A round takes no time, and after it all calls are settled. A call that had its turn early in the
round waits for nothing that a later one could have made due. -/
theorem settles_round {js : List Journey} (runs : World.Runs ⟨s, js⟩ as) :
    (round router.conduct as s).1.now = s.now ∧
      ∀ a ∈ (round router.conduct as s).2, a.IsSettled s.now := by
  obtain ⟨js₁, -, turned⟩ := carries_each (proceeds_turn router) js runs
  obtain ⟨first, settled⟩ := now_each (proceeds_turn router)
    (fun s a j follows sound => (settles_turn follows sound).1) runs.follows [] runs.sound
    runs.issued
  obtain ⟨second, kept⟩ := now_each (proceeds_applyCancel router)
    (fun s a j _ _ => (settles_applyCancel a s).1) turned.follows [] turned.sound turned.issued
  refine ⟨second.trans first, fun b member => ?_⟩
  obtain ⟨a, known, -, s', -, -, -, rfl⟩ := kept b member
  obtain ⟨a', -, j, s'', follows, sound, same, rfl⟩ := settled a known
  intro stage running
  rw [(settles_applyCancel _ s').2] at running
  rw [← same]
  exact (settles_turn follows sound).2 stage running

/-- So do all rounds of an instant, of which there is at least one. -/
theorem settles_rounds (router : Router) (more : Nat) {js : List Journey}
    (runs : World.Runs ⟨s, js⟩ as) :
    (rounds router.conduct (more + 1) as s).1.now = s.now ∧
      ∀ a ∈ (rounds router.conduct (more + 1) as s).2, a.IsSettled s.now := by
  induction more generalizing as s js with
  | zero =>
    rw [rounds]
    split
    · exact settles_round runs
    · exact settles_round runs
  | succ more ih =>
    rw [rounds]
    split
    · have carried : Carries router as s (round router.conduct as s) := carries_round
      obtain ⟨js₁, -, onwards⟩ := carried js runs
      obtain ⟨now, settled⟩ := ih onwards
      have same : (round router.conduct as s).1.now = s.now := (settles_round runs).1
      exact ⟨now.trans same, same ▸ settled⟩
    · exact settles_round runs

/-- The next instant at which something is due is not past anything that a settled call waits for.
It is the least of all of these. -/
theorem awaits_of_nextInstant {due now : Instant}
    (next : nextInstant? router.conduct as now = some due) (member : a ∈ as)
    (settled : a.IsSettled now) (follows : j.Follows a) : j.Awaits due := by
  have phase := follows.phase
  cases status : a.status with
  | waiting =>
    rw [status] at phase
    simp [Journey.Awaits, phase, Status.phase]
  | ended instant result =>
    rw [status] at phase
    cases result <;> simp [Journey.Awaits, phase, Status.phase]
  | running stage =>
    have first : ∀ t ∈ Router.timers stage, due ≤ t := by
      intro t timer
      have listed : t ∈ a.instants router.conduct := by
        simp only [Activity.instants, status]
        exact List.mem_cons_of_mem _ (List.mem_append_right _ timer)
      have ahead : decide (now < t) = true := decide_eq_true (settled stage status t timer)
      exact (List.min?_eq_some_iff.mp next).2 t
        (List.mem_filter.mpr ⟨List.mem_flatMap.mpr ⟨a, member, listed⟩, ahead⟩)
    rw [status] at phase
    cases stage <;> simpa only [Journey.Awaits, phase, Status.phase, Phase.ofTurn] using first

/-- Instant after instant, the clock is not late for any call. After the rounds of an instant all
calls are settled, so the clock may be moved; and each call of the history is the scheduled one of
its number, settled by its last turn. -/
theorem watched_instants {start : State} (tokens : start.tokens.Sound) {n : Nat} (more : Nat)
    {js : List Journey} {t : Timeline} (watched : World.Watched router start n ⟨s, js⟩ t)
    (runs : World.Runs ⟨s, js⟩ as) :
    ∃ js' t', World.Watched router start n ⟨(instants router.conduct more as s).1, js'⟩ t' ∧
      World.Runs ⟨(instants router.conduct more as s).1, js'⟩
        (instants router.conduct more as s).2 := by
  induction more generalizing as s js t with
  | zero => exact ⟨js, t, watched, runs⟩
  | succ more ih =>
    have carried : Carries router as s (rounds router.conduct (as.length + 1) as s) :=
      carries_rounds (as.length + 1)
    obtain ⟨js₁, becomes, onwards⟩ := carried js runs
    obtain ⟨still, settled⟩ := settles_rounds router as.length runs
    have watched₁ := watched.along tokens becomes still
    simp only [instants]
    split
    · exact ⟨js₁, _, watched₁, onwards⟩
    · next due next =>
      have later := Nat.le_of_lt (lt_of_nextInstant next)
      have passes : World.Moves router ⟨(rounds router.conduct (as.length + 1) as s).1, js₁⟩
          ⟨{ (rounds router.conduct (as.length + 1) as s).1 with now := due }, js₁⟩ :=
        .outside (.clock later)
      refine ih (.move watched₁ passes fun _ j here => ?_)
        ⟨(passes.grows onwards.sound).2, onwards.follows, onwards.issued⟩
      obtain ⟨known, rfl⟩ := List.getElem?_eq_some_iff.mp here
      have scheduled : n < (rounds router.conduct (as.length + 1) as s).2.length :=
        onwards.follows.length_eq ▸ known
      exact awaits_of_nextInstant next (List.get_mem _ ⟨n, scheduled⟩)
        (still ▸ settled _ (List.get_mem _ ⟨n, scheduled⟩)) (onwards.follows.get known scheduled)

/-- What a schedule makes of its calls is a history in which the clock is not late for any. So what
is proved of calls that are watched on time is true of every schedule. -/
theorem watched_run (tokens : s.tokens.Sound) (waiting : ∀ a ∈ as, a.status.phase = .arriving)
    (callers : ∀ a ∈ as, a.request.caller.id < s.tokens.issued)
    (issued : ∀ a ∈ as, a.token.id < s.tokens.issued) (n : Nat) :
    ∃ js t, World.Watched router s n ⟨(run router.conduct as s).1, js⟩ t ∧
      List.Forall₂ Journey.Follows js (run router.conduct as s).2 := by
  obtain ⟨js, joined, follows⟩ := joins router waiting callers []
  have sound : World.Sound ⟨s, js⟩ := World.Becomes.sound joined (World.sound_of_empty tokens)
  have known : ∀ t ∈ as.map (·.token), t.id < s.tokens.issued := by
    intro t member
    obtain ⟨a, scheduled, rfl⟩ := List.mem_map.mp member
    exact issued a scheduled
  have watched := World.Watched.along (n := n) tokens .start joined rfl
  obtain ⟨js', t', watched', runs⟩ :=
    watched_instants tokens _ watched ⟨sound, follows, known⟩
  exact ⟨js', t', watched', runs.follows⟩

end Schedule

end TrialRouting
