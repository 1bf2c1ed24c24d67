import TrialRouting.Proofs.Call.Deadline

/-!
# When a call does what

Reading the clock along a history tells when a call got its key, when each of its attempts
started and came to an end, and when the call was over. Only the clock takes time. It does
not pass by an instant that the call waits for, and it stands still while the call takes
its steps; the other calls may be as late as they like.

Under such a clock each attempt starts at the very instant at which the one before it came to
an end, a call that gets a missed deadline's attention gets it at that deadline, and as long
as the deadline covers the attempts they come to their ends by then. `Journey.OnTime` says so
for each phase. One step keeps it, the passing of time keeps it, and so does a history.
-/

namespace TrialRouting

/-- When a call got its key, when its attempts started, when they came to an end, and when the call
was over. -/
structure Timeline where
  selected : Option Nat := none
  departures : List Nat := []
  arrivals : List Nat := []
  ended : Option Nat := none

namespace Journey

/-- Whether a call is over can be told from its phase. -/
instance (j : Journey) : Decidable j.IsOver :=
  match phase : j.phase with
  | .ended o => isTrue (.inl ⟨o, phase⟩)
  | .takenDown => isTrue (.inr phase)
  | .arriving | .selecting _ _ | .selected _ | .launching _ | .attempting _ _
  | .concluding _ _ => isFalse (by simp [IsOver, phase])

/-- The clock may move on to an instant: it does not pass by anything that the call waits for,
and the call is not in the middle of its steps. -/
def Awaits (j : Journey) (instant : Nat) : Prop :=
  match j.phase with
  | .arriving | .ended _ | .takenDown => True
  | .selecting due opinion => ∀ t ∈ Router.timers (.selecting due opinion), instant ≤ t
  | .attempting c attempt => ∀ t ∈ Router.timers (.attempting c attempt), instant ≤ t
  | .selected _ | .launching _ | .concluding _ _ => False

end Journey

namespace Timeline

/-- The clock is read, and what has happened since the last reading has happened now. Instants that
were noted before are kept. -/
def watch (t : Timeline) (now : Nat) (j : Journey) : Timeline where
  selected := t.selected.or (j.selection.map fun _ => now)
  departures := t.departures.rightpad j.legs.length now
  arrivals := t.arrivals.rightpad j.finished.length now
  ended := t.ended.or (if j.IsOver then some now else none)

/-- When the last attempt behind a call came to an end, or else when the call got its key. -/
def latest (t : Timeline) (since : Nat) : Nat :=
  t.arrivals.getLastD since

/-- Padding a list to its own length adds nothing. -/
theorem rightpad_length (l : List Nat) (now : Nat) : l.rightpad l.length now = l := by
  rw [List.rightpad, Nat.sub_self, List.replicate_zero, List.append_nil]

/-- One entry more is the present. -/
theorem rightpad_succ (l : List Nat) (now : Nat) :
    l.rightpad (l.length + 1) now = l ++ [now] := by
  rw [List.rightpad, Nat.add_sub_cancel_left, List.replicate_one]

end Timeline

namespace World

/-- A history in which a clock is read for the call with a number, and is not late for it. At every
move of the world the clock either stands still or goes no further than the call waits. -/
inductive Watched (router : Router) (s : State) (n : Nat) : World → Timeline → Prop where
  | start : Watched router s n ⟨s, []⟩ {}
  | move {w w' : World} {t : Timeline} (before : Watched router s n w t)
      (moves : Moves router w w')
      (punctual : w'.state.now ≠ w.state.now →
        ∀ j, w.journeys[n]? = some j → j.Awaits w'.state.now) :
      Watched router s n w'
        ((w'.journeys[n]?).elim t (t.watch w'.state.now))

/-- A watched history is a history. What is asked of its clock concerns one call only. -/
theorem Watched.becomes {router : Router} {s : State} {n : Nat} {w : World} {t : Timeline}
    (watched : Watched router s n w t) : Becomes router ⟨s, []⟩ w := by
  induction watched with
  | start => exact .refl
  | move before moves punctual ih => exact .tail ih moves

end World

namespace Journey

/-- The timeline of a call that got its key at an instant, with the attempts it has behind it:
each started when the one before it came to its end, one that was cut off ended at the
deadline, and those that a deadline covered ended by then. -/
structure Times (r : Registration) (since : Nat) (j : Journey) (t : Timeline) : Prop where
  selected : t.selected = some since
  arrivals : t.arrivals.length = j.finished.length
  departures : t.departures = (since :: t.arrivals).take j.legs.length
  expired : ∀ (i : Nat) leg, j.finished[i]? = some leg → leg.isExpired = true →
    ∃ due policy, r.timeout = some policy ∧ Instant.after? since policy.duration = some due ∧
      t.arrivals[i]? = some due
  inTime : ∀ due policy, r.timeout = some policy → policy.scope = .wholeSequence →
    Instant.after? since policy.duration = some due → expiry? j.finished = none →
      t.latest since ≤ due

/-- The deadline in force at the attempt that a course has come to is the trial's, and it lies
ahead. -/
structure Covers (r : Registration) (since now : Nat) (j : Journey) (c : Course) : Prop where
  deadline : c.deadline = r.deadlineFor since j.finished
  ahead : ∀ due policy, c.deadline = some (due, policy) → now ≤ due

/-- What holds of a timeline in each phase of its call. -/
def OnTime (r : Registration) (now : Nat) (j : Journey) (t : Timeline) : Prop :=
  match j.phase with
  | .arriving | .selecting _ _ => t = {}
  | .selected _ => j.Times r now t ∧ t.ended = none ∧ t.latest now = now
  | .launching c => ∃ since, j.Times r since t ∧ t.ended = none ∧ j.Covers r since now c ∧
      t.latest since = now
  | .attempting c _ => ∃ since, j.Times r since t ∧ t.ended = none ∧ j.Covers r since now c
  | .concluding c _ => ∃ since, j.Times r since t ∧ t.ended = none ∧ t.latest since = now ∧
      c.deadline = r.deadlineFor since (j.finished.take (c.progress.attempted.length - 1))
  | .ended _ | .takenDown =>
      (j.selection = none ∧ j.finished = [] ∧ ∃ stop, t = { ended := some stop }) ∨
        ∃ since, j.Times r since t ∧ t.ended = some (t.latest since)

variable {router : Router} {r : Registration} {s s' : State} {j j' : Journey} {t t' : Timeline}
  {since now : Nat} {leg : Leg}

/-- A call has at most one attempt in flight. The others that have started are behind it. -/
theorem length_legs (j : Journey) :
    j.legs.length = j.finished.length ∨ j.legs.length = j.finished.length + 1 := by
  simp only [legs, underway, List.length_append]
  split
  · exact .inr rfl
  · exact .inl rfl

namespace Times

/-- A timeline tells when its call got its key. -/
theorem since_eq {other : Nat} (times : j.Times r other t) (selected : t.selected = some since) :
    other = since :=
  Option.some.inj (times.selected.symm.trans selected)

/-- Every attempt that has started has its departure. -/
theorem length_departures (times : j.Times r since t) :
    t.departures.length = j.legs.length := by
  rw [times.departures, List.length_take, List.length_cons, times.arrivals]
  rcases j.length_legs with landed | flying <;> omega

/-- As long as no attempt comes to its end only departures may be added. Of the rest of a timeline
nothing depends on the phase. -/
theorem carry (times : j.Times r since t) (finished : j'.finished = j.finished)
    (selected : t'.selected = t.selected) (arrivals : t'.arrivals = t.arrivals)
    (departures : t'.departures = (since :: t.arrivals).take j'.legs.length) :
    j'.Times r since t' where
  selected := selected.trans times.selected
  arrivals := by rw [arrivals, finished, times.arrivals]
  departures := by rw [departures, arrivals]
  expired := by rw [arrivals, finished]; exact times.expired
  inTime := by rw [Timeline.latest, arrivals, finished]; exact times.inTime

/-- Nothing to be noted but perhaps the end of the call, if no attempt has started or come to an
end. -/
theorem watch_eq (times : j.Times r since t) (finished : j'.finished = j.finished)
    (legs : j'.legs.length = j.legs.length) :
    t.watch now j' = { t with ended := t.ended.or (if j'.IsOver then some now else none) } := by
  have departed : t.departures.rightpad j'.legs.length now = t.departures := by
    rw [legs, ← times.length_departures, Timeline.rightpad_length]
  have arrived : t.arrivals.rightpad j'.finished.length now = t.arrivals := by
    rw [finished, ← times.arrivals, Timeline.rightpad_length]
  simp only [Timeline.watch, departed, arrived, times.selected, Option.some_or]

/-- A call in another phase, with the same attempts, that is not over has the same timeline. -/
theorem stays (times : j.Times r since t) (now : Nat) (j' : Journey)
    (finished : j'.finished = j.finished) (legs : j'.legs.length = j.legs.length)
    (going : ¬ j'.IsOver) :
    j'.Times r since t ∧ t.watch now j' = t := by
  refine ⟨times.carry finished rfl rfl (legs ▸ times.departures), ?_⟩
  rw [times.watch_eq finished legs, if_neg going, Option.or_none]

/-- Once it is over it has the same timeline but for its end, which is now. -/
theorem ends (times : j.Times r since t) (now : Nat) (j' : Journey) (running : t.ended = none)
    (finished : j'.finished = j.finished) (legs : j'.legs.length = j.legs.length)
    (ended : j'.IsOver) :
    j'.Times r since (t.watch now j') ∧ (t.watch now j').ended = some now ∧
      (t.watch now j').latest since = t.latest since := by
  rw [times.watch_eq finished legs, if_pos ended, running, Option.none_or]
  exact ⟨times.carry finished rfl rfl (legs ▸ times.departures), rfl, rfl⟩

/-- An attempt starts when the one before it has come to its end, and the first one when the call
has got its key. So if it starts now, the departure that is noted is the last of the arrivals, or
the instant of the selection. -/
theorem departs (times : j.Times r since t)
    (aloft : j.legs.length = j.finished.length + 1 ∨
      j.legs.length = j.finished.length ∧ t.latest since = now) :
    t.departures.rightpad (j.finished.length + 1) now = since :: t.arrivals := by
  have count : (since :: t.arrivals).length = j.finished.length + 1 := by
    rw [List.length_cons, times.arrivals]
  rcases aloft with flying | ⟨landed, latest⟩
  · rw [times.departures, flying, ← count, List.take_length, Timeline.rightpad_length]
  · have before : t.departures = (since :: t.arrivals).dropLast := by
      rw [times.departures, landed, List.dropLast_eq_take, count, Nat.add_sub_cancel]
    have last : now = (since :: t.arrivals).getLast (List.cons_ne_nil _ _) := by
      rw [← latest, Timeline.latest, List.getLast_eq_getLastD]
    rw [← landed, ← times.length_departures, Timeline.rightpad_succ, before, last,
      List.dropLast_concat_getLast]

/-- A further attempt is in flight. It has departed at the instant at which the last one arrived,
which is now. -/
theorem takesOff (times : j.Times r since t) (now : Nat) (j' : Journey)
    (landed : j.legs.length = j.finished.length) (latest : t.latest since = now)
    (finished : j'.finished = j.finished) (legs : j'.legs.length = j.finished.length + 1)
    (going : ¬ j'.IsOver) :
    j'.Times r since (t.watch now j') ∧ (t.watch now j').ended = t.ended := by
  have arrived : t.arrivals.rightpad j.finished.length now = t.arrivals := by
    rw [← times.arrivals, Timeline.rightpad_length]
  have watched : t.watch now j' = { t with departures := since :: t.arrivals } := by
    simp only [Timeline.watch, legs, finished, times.departs (.inr ⟨landed, latest⟩), arrived,
      times.selected, Option.some_or, if_neg going, Option.or_none]
  rw [watched]
  refine ⟨times.carry finished rfl rfl ?_, rfl⟩
  rw [legs, ← times.arrivals, ← List.length_cons, List.take_length]

/-- An attempt comes to its end, or is taken down.

Proof: its arrival is noted now, and its departure if it has taken no time. An attempt that has been
cut off is one from before, or this one, which is cut off at the deadline. A deadline that has still
not been missed with this attempt was in force before it, and so lies no earlier than now. -/
theorem lands (times : j.Times r since t) (now : Nat) (j' : Journey)
    (aloft : j.legs.length = j.finished.length + 1 ∨
      j.legs.length = j.finished.length ∧ t.latest since = now)
    (finished : j'.finished = j.finished ++ [leg]) (landed : j'.legs = j'.finished)
    (expired : leg.isExpired = true → ∃ due policy, r.timeout = some policy ∧
      Instant.after? since policy.duration = some due ∧ due = now)
    (inTime : ∀ due policy, r.deadlineFor since j.finished = some (due, policy) → now ≤ due) :
    j'.Times r since (t.watch now j') ∧ (t.watch now j').latest since = now := by
  have count : j'.finished.length = j.finished.length + 1 := by simp [finished]
  have arrived : (t.watch now j').arrivals = t.arrivals ++ [now] := by
    simp only [Timeline.watch]
    rw [count, ← times.arrivals, Timeline.rightpad_succ]
  have departed : (t.watch now j').departures = since :: t.arrivals := by
    simp only [Timeline.watch]
    rw [landed, count, times.departs aloft]
  have latest : (t.watch now j').latest since = now := by
    rw [Timeline.latest, arrived, List.getLastD_concat]
  refine ⟨⟨?_, ?_, ?_, ?_, ?_⟩, latest⟩
  · simp only [Timeline.watch, times.selected, Option.some_or]
  · rw [arrived, count, List.length_append, times.arrivals, List.length_singleton]
  · have all : j'.legs.length = (since :: t.arrivals).length := by
      rw [landed, count, List.length_cons, times.arrivals]
    rw [departed, arrived, all, ← List.cons_append, List.take_left]
  · intro i other member cut
    rw [finished] at member
    rw [arrived]
    by_cases before : i < j.finished.length
    · rw [List.getElem?_append_left before] at member
      rw [List.getElem?_append_left (times.arrivals ▸ before)]
      exact times.expired i other member cut
    · obtain rfl : i = j.finished.length := by
        have bound := (List.getElem?_eq_some_iff.mp member).1
        simp only [List.length_append, List.length_singleton] at bound
        omega
      rw [List.getElem?_concat_length, Option.some.injEq] at member
      subst member
      obtain ⟨due, policy, timeout, counted, rfl⟩ := expired cut
      rw [← times.arrivals, List.getElem?_concat_length]
      exact ⟨due, policy, timeout, counted, rfl⟩
  · intro due policy timeout whole counted none'
    rw [finished] at none'
    rw [latest]
    exact inTime due policy (Registration.deadlineFor_of_whole timeout whole counted
      (expiry?_of_append none'))

end Times

/-- At the start of an attempt whose deadline covers it, and at its turns, an attempt that is
cut off is cut off at the deadline. -/
theorem Covers.cut {c : Course} {unbounded : State × (Ending ⊕ Attempt)}
    (covers : j.Covers r since now c) (cut : Router.Overruns c now unbounded) :
    ∃ due policy, r.timeout = some policy ∧
      Instant.after? since policy.duration = some due ∧ due = now := by
  obtain ⟨due, policy, set, missed⟩ := cut.missed
  have own := set
  rw [covers.deadline] at own
  obtain ⟨timeout, counted, -⟩ := Registration.deadlineFor_eq_some_iff.mp own
  exact ⟨due, policy, timeout, counted, Nat.le_antisymm missed (covers.ahead due policy set)⟩

/-- A course has attempted one key more than its call has attempts behind it: its own. So the
attempts before can be counted from the course. -/
theorem StandsAt.earlier {selection : Selection} {made : List Leg} {leg? : Option Leg}
    {c : Course} (here : j.StandsAt r selection made leg? c) :
    c.progress.attempted.length - 1 = made.length := by
  rw [here.keeps.attempted, List.length_append, List.length_singleton, Nat.add_sub_cancel, keysOf,
    List.length_map]

/-! ### What each step does to a timeline

The clock stands still during a step, so a step is noted at the instant at which the call stood
before. There is one lemma for each step, named for it. -/

section Cases

variable {c next : Course} {e : Ending} {attempt rest : Attempt} {selection : Selection}

/-- A call that has no key yet has nothing on its timeline either. Its instants count from the
key. -/
theorem OnTime.keyless (onTime : j.OnTime r now t) (onCourse : j.OnCourse r s)
    (waiting : j.AwaitsKey) : j.selection = none ∧ j.finished = [] ∧ t = {} := by
  obtain ⟨selection, finished, -⟩ := onCourse.keyless waiting
  rcases waiting with phase | ⟨due, opinion, phase⟩
  · simp only [OnTime, phase] at onTime
    exact ⟨selection, finished, onTime⟩
  · simp only [OnTime, phase] at onTime
    exact ⟨selection, finished, onTime⟩

/-- A call that is over before it has got a key has nothing but its end on its timeline. This is
how a call ends that is refused on arrival, and one that is taken down while it waits for its
key. -/
theorem onTime_of_keyless (isOver : j.IsOver) (selection : j.selection = none)
    (finished : j.finished = []) : j.OnTime r now (({} : Timeline).watch now j) := by
  have alone : ({} : Timeline).watch now j = { ended := some now } := by
    rcases isOver with ⟨o, phase⟩ | phase <;>
      simp [Timeline.watch, selection, finished, legs, underway, phase, IsOver, List.rightpad]
  rw [alone]
  rcases isOver with ⟨o, phase⟩ | phase
  · simp only [OnTime, phase]
    exact .inl ⟨selection, finished, now, rfl⟩
  · simp only [OnTime, phase]
    exact .inl ⟨selection, finished, now, rfl⟩

/-- A call that begins to wait for its key has nothing on its timeline yet, however long it is to
wait. -/
theorem onTime_of_asked {due : Nat} {opinion : Opinion} (phase : j.phase = .selecting due opinion)
    (selection : j.selection = none) (finished : j.finished = []) :
    j.OnTime r now (({} : Timeline).watch now j) := by
  simp [OnTime, phase, Timeline.watch, selection, finished, legs, underway, IsOver, List.rightpad]

/-- A call that has just got its key is on time: the instant is noted, and every deadline of the
trial that counts from it still lies ahead. -/
theorem onTime_of_selected (phase : j.phase = .selected selection)
    (selected : j.selection = some selection) (finished : j.finished = []) :
    j.OnTime r now (({} : Timeline).watch now j) := by
  have legs : j.legs = [] := by simp [legs, underway, phase, finished]
  have going : ¬ j.IsOver := by simp [IsOver, phase]
  have latest : (({} : Timeline).watch now j).latest now = now := by
    simp [Timeline.watch, Timeline.latest, finished, List.rightpad]
  simp only [OnTime, phase]
  refine ⟨⟨?_, ?_, ?_, ?_, ?_⟩, ?_, latest⟩
  · simp [Timeline.watch, selected]
  · simp [Timeline.watch, finished, List.rightpad]
  · simp [Timeline.watch, legs, List.rightpad]
  · simp [finished]
  · intro due policy timeout whole counted none'
    rw [latest]
    exact Instant.le_of_after? counted
  · simp [Timeline.watch, going]

/-- A call that sets out does so at the instant it got its key, under the deadline that counts
from there. -/
theorem OnTime.embarked (phase : j.phase = .selected selection)
    (onCourse : j.OnCourse router.registration s) (onTime : j.OnTime router.registration s.now t) :
    ({ j with phase := .launching (router.embark j.call selection s).2 } : Journey).OnTime
      router.registration s.now
      (t.watch s.now { j with phase := .launching (router.embark j.call selection s).2 }) := by
  simp only [OnCourse, phase] at onCourse
  simp only [OnTime, phase] at onTime
  obtain ⟨times, running, latest⟩ := onTime
  obtain ⟨times', same⟩ := times.stays s.now
    { j with phase := .launching (router.embark j.call selection s).2 }
    rfl (by simp [legs, underway, phase]) (by simp [IsOver])
  rw [same]
  refine ⟨s.now, times', running, ⟨?_, ?_⟩, latest⟩
  · rw [router.deadline_of_embark, onCourse.2]
  · intro due policy set
    rw [router.deadline_of_embark] at set
    obtain ⟨-, counted, -⟩ := Registration.deadlineFor_eq_some_iff.mp set
    exact Instant.le_of_after? counted

/-- An attempt that is withheld leaves no mark: the call comes to its conclusion at the instant at
which it would have set out. -/
theorem OnTime.withheld (phase : j.phase = .launching c)
    (onCourse : j.OnCourse router.registration s) (onTime : j.OnTime router.registration s.now t)
    (e : Ending) :
    ({ j with phase := .concluding c e } : Journey).OnTime router.registration s.now
      (t.watch s.now { j with phase := .concluding c e }) := by
  simp only [OnCourse, phase] at onCourse
  simp only [OnTime, phase] at onTime
  obtain ⟨selection, here⟩ := onCourse
  obtain ⟨since, times, running, covers, latest⟩ := onTime
  obtain ⟨times', same⟩ := times.stays s.now { j with phase := .concluding c e }
    rfl (by simp [legs, underway, phase]) (by simp [IsOver])
  rw [same]
  refine ⟨since, times', running, latest, ?_⟩
  rw [covers.deadline, here.earlier, List.take_length]

/-- An attempt that ends without waiting departs and arrives at one instant. If it is cut off, that
is the deadline. -/
theorem OnTime.sped (phase : j.phase = .launching c)
    (launched : router.launch j.call c s = (s', .inl e))
    (onCourse : j.OnCourse router.registration s) (onTime : j.OnTime router.registration s.now t)
    (leg : Leg) (ending : leg.ending = some e) :
    ({ j with phase := .concluding c e, finished := j.finished ++ [leg] } : Journey).OnTime
      router.registration s.now
      (t.watch s.now { j with phase := .concluding c e, finished := j.finished ++ [leg] }) := by
  simp only [OnCourse, phase] at onCourse
  simp only [OnTime, phase] at onTime
  obtain ⟨selection, here⟩ := onCourse
  obtain ⟨since, times, running, covers, latest⟩ := onTime
  have cut (expired : e = .expired) := covers.cut (Router.overruns_of_launch (expired ▸ launched))
  obtain ⟨times', last⟩ := times.lands s.now
    { j with phase := .concluding c e, finished := j.finished ++ [leg] }
    (.inr ⟨by simp [legs, underway, phase], latest⟩) rfl (by simp [legs, underway])
    (fun expired => cut ((Leg.isExpired_iff ending).mp expired)) (covers.deadline ▸ covers.ahead)
  refine ⟨since, times', ?_, last, ?_⟩
  · simp [Timeline.watch, running, IsOver]
  · rw [covers.deadline, here.earlier, List.take_left]

/-- An attempt that waits has departed. Its deadline is still ahead, since no time has passed. -/
theorem OnTime.launched (phase : j.phase = .launching c)
    (onTime : j.OnTime r now t) (attempt : Attempt) :
    ({ j with phase := .attempting c attempt } : Journey).OnTime r now
      (t.watch now { j with phase := .attempting c attempt }) := by
  simp only [OnTime, phase] at onTime
  obtain ⟨since, times, running, covers, latest⟩ := onTime
  obtain ⟨times', ended⟩ := times.takesOff now { j with phase := .attempting c attempt }
    (by simp [legs, underway, phase]) latest rfl (by simp [legs, underway]) (by simp [IsOver])
  exact ⟨since, times', ended.trans running, covers.deadline, covers.ahead⟩

/-- An attempt that goes on waiting adds nothing, since it has neither started nor ended. -/
theorem OnTime.waited (phase : j.phase = .attempting c attempt) (onTime : j.OnTime r now t)
    (rest : Attempt) :
    ({ j with phase := .attempting c rest } : Journey).OnTime r now
      (t.watch now { j with phase := .attempting c rest }) := by
  simp only [OnTime, phase] at onTime
  obtain ⟨since, times, running, covers⟩ := onTime
  obtain ⟨times', same⟩ := times.stays now { j with phase := .attempting c rest }
    rfl (by simp [legs, underway, phase]) (by simp [IsOver])
  rw [same]
  exact ⟨since, times', running, covers.deadline, covers.ahead⟩

/-- An attempt that has waited arrives now. If it is cut off, now is the deadline: it was not past
before the attempt was resumed, and the attempt is only cut off if it has been reached. -/
theorem OnTime.left (phase : j.phase = .attempting c attempt) (sound : j.Sound s)
    (resumed : Router.resumeAttempt c attempt s = (s', .inl e))
    (onCourse : j.OnCourse router.registration s)
    (onTime : j.OnTime router.registration s.now t) :
    ({ j with
        phase := .concluding c e
        finished := j.finished ++ [attempt.leg (some e)] } : Journey).OnTime
      router.registration s.now (t.watch s.now
        { j with
          phase := .concluding c e
          finished := j.finished ++ [attempt.leg (some e)] }) := by
  simp only [OnCourse, phase] at onCourse
  simp only [OnTime, phase] at onTime
  obtain ⟨selection, here, context⟩ := onCourse
  obtain ⟨since, times, running, covers⟩ := onTime
  obtain ⟨-, known, issued, -⟩ := sound.attempt _ _ phase
  have cut (expired : e = .expired) :=
    covers.cut (Router.overruns_of_resume issued known (expired ▸ resumed))
  obtain ⟨times', last⟩ := times.lands s.now
    { j with
      phase := .concluding c e
      finished := j.finished ++ [attempt.leg (some e)] }
    (.inl (by simp [legs, underway, phase])) rfl (by simp [legs, underway])
    (fun expired => cut ((Leg.isExpired_iff rfl).mp expired)) (covers.deadline ▸ covers.ahead)
  refine ⟨since, times', ?_, last, ?_⟩
  · simp [Timeline.watch, running, IsOver]
  · rw [covers.deadline, here.earlier, List.take_left]

/-- A call that has come to its conclusion is over when its last attempt is. No time passes in
between. -/
theorem OnTime.concluded (phase : j.phase = .concluding c e) (onTime : j.OnTime r now t)
    (o : Outcome) :
    ({ j with phase := .ended o } : Journey).OnTime r now
      (t.watch now { j with phase := .ended o }) := by
  simp only [OnTime, phase] at onTime
  obtain ⟨since, times, running, latest, -⟩ := onTime
  obtain ⟨times', ended, last⟩ := times.ends now { j with phase := .ended o }
    running rfl (by simp [legs, underway, phase]) (.inl ⟨o, rfl⟩)
  refine .inr ⟨since, times', ?_⟩
  rw [ended, last, latest]

/-- A call that falls back sets out again when its last attempt has come to its end. A deadline
that is still in force then is one for the whole sequence, and has not been missed, so it lies
ahead. -/
theorem OnTime.fellBack (phase : j.phase = .concluding c e)
    (answer : router.conclude j.call c e s = (s', .inr next))
    (onCourse : j.OnCourse router.registration s) (onTime : j.OnTime router.registration s.now t) :
    ({ j with phase := .launching next } : Journey).OnTime router.registration s.now
      (t.watch s.now { j with phase := .launching next }) := by
  simp only [OnCourse, phase] at onCourse
  simp only [OnTime, phase] at onTime
  obtain ⟨selection, made, leg?, here, ended⟩ := onCourse
  obtain ⟨since, times, running, latest, deadline⟩ := onTime
  have goesOn := congrArg Prod.snd answer
  obtain ⟨times', same⟩ := times.stays s.now { j with phase := .launching next }
    rfl (by simp [legs, underway, phase]) (by simp [IsOver])
  rw [same]
  rcases ended with ⟨leg, rfl, ending⟩ | ⟨-, -, cancelled⟩
  · have own : next.deadline = router.registration.deadlineFor since j.finished := by
      rw [here.earlier, here.finished, List.take_left] at deadline
      rw [here.finished, Router.deadline_of_conclude here ending deadline goesOn]
      rfl
    refine ⟨since, times', running, ⟨own, ?_⟩, latest⟩
    intro due policy set
    rw [own] at set
    obtain ⟨timeout, counted, before, first⟩ := Registration.deadlineFor_eq_some_iff.mp set
    have whole : policy.scope = .wholeSequence := by
      cases scope : policy.scope with
      | wholeSequence => rfl
      | firstAttempt =>
        have none' := first scope
        simp [here.finished] at none'
    exact latest ▸ times.inTime due policy timeout whole counted before
  · rw [Router.free_of_conclude goesOn] at cancelled
    cases cancelled

/-- A call that is taken down with its attempt is over at once, and so is the attempt. -/
theorem OnTime.droppedInFlight (phase : j.phase = .attempting c attempt)
    (onTime : j.OnTime r now t) :
    ({ j with
        phase := .takenDown
        finished := j.finished ++ [attempt.leg none] } : Journey).OnTime r now (t.watch now
        { j with phase := .takenDown, finished := j.finished ++ [attempt.leg none] }) := by
  simp only [OnTime, phase] at onTime
  obtain ⟨since, times, running, covers⟩ := onTime
  obtain ⟨times', last⟩ := times.lands now
    { j with phase := .takenDown, finished := j.finished ++ [attempt.leg none] }
    (.inl (by simp [legs, underway, phase])) rfl (by simp [legs, underway])
    (fun impossible => by cases impossible) (covers.deadline ▸ covers.ahead)
  refine .inr ⟨since, times', ?_⟩
  rw [last]
  simp [Timeline.watch, running, IsOver]

end Cases

/-- Steps keep a call on time, whatever they are. The clock stands still meanwhile. There is one
case for each kind of step, and a lemma for each case. -/
theorem Step.onTime (sound : j.Sound s) (onCourse : j.OnCourse router.registration s)
    (step : Step router s j s' j') (onTime : j.OnTime router.registration s.now t) :
    j'.OnTime router.registration s'.now (t.watch s'.now j') := by
  have still : s'.now = s.now := step.now_eq sound
  rw [still]
  cases step with
  | refused phase answer =>
    obtain ⟨selection, finished, rfl⟩ := onTime.keyless onCourse (.inl phase)
    exact onTime_of_keyless (.inl ⟨_, rfl⟩) selection finished
  | chosen phase answer =>
    obtain ⟨-, finished, rfl⟩ := onTime.keyless onCourse (.inl phase)
    exact onTime_of_selected rfl rfl finished
  | asked phase answer =>
    obtain ⟨selection, finished, rfl⟩ := onTime.keyless onCourse (.inl phase)
    exact onTime_of_asked rfl selection finished
  | answered phase isDue =>
    obtain ⟨-, finished, rfl⟩ := onTime.keyless onCourse (.inr ⟨_, _, phase⟩)
    exact onTime_of_selected rfl rfl finished
  | embarked phase => exact onTime.embarked phase onCourse
  | withheld phase stopped launched => exact onTime.withheld phase onCourse _
  | sped phase started launched => exact onTime.sped phase launched onCourse _ rfl
  | launched phase launched => exact onTime.launched phase _
  | waited phase resumed => exact onTime.waited phase _
  | left phase resumed => exact onTime.left phase sound resumed onCourse
  | concluded phase answer => exact onTime.concluded phase _
  | fellBack phase answer => exact onTime.fellBack phase answer onCourse
  | dropped phase =>
    obtain ⟨selection, finished, rfl⟩ := onTime.keyless onCourse (.inr ⟨_, _, phase⟩)
    exact onTime_of_keyless (.inr rfl) selection finished
  | droppedInFlight phase => exact onTime.droppedInFlight phase

/-- The key a call has got stays with its timeline. -/
theorem selected_watch (selected : t.selected = some since) (now : Nat) (j : Journey) :
    (t.watch now j).selected = some since := by
  rw [Timeline.watch, selected, Option.some_or]

/-- So do the steps of a turn, which takes no time. The clock need not be read between them. -/
theorem Steps.onTime {a b : State × Journey} (tokens : a.1.tokens.Sound) (sound : a.2.Sound a.1)
    (onCourse : a.2.OnCourse router.registration a.1)
    (onTime : a.2.OnTime router.registration a.1.now t) (selected : t.selected = some since)
    (steps : Steps router a b) :
    b.1.tokens.Sound ∧ b.2.Sound b.1 ∧ b.1.now = a.1.now ∧
      b.2.OnCourse router.registration b.1 ∧
        ∃ t', t'.selected = some since ∧ b.2.OnTime router.registration b.1.now t' := by
  induction steps with
  | refl => exact ⟨tokens, sound, rfl, onCourse, t, selected, onTime⟩
  | tail before step ih =>
    obtain ⟨tokens', sound', still, onCourse', t', selected', onTime'⟩ := ih
    obtain ⟨grows, after⟩ := step.grows sound'
    exact ⟨grows.sound tokens', after, (step.now_eq sound').trans still,
      step.onCourse tokens' sound' onCourse', _, selected_watch selected' _ _,
      step.onTime sound' onCourse' onTime'⟩

/-- Of a call that has no key there is nothing to note but its end. -/
theorem watch_of_unselected (selection : j.selection = none) (finished : j.finished = [])
    (landed : j.underway = []) (ended : Option Nat) :
    ({ ended } : Timeline).watch now j =
      { ended := ended.or (if j.IsOver then some now else none) } := by
  simp [Timeline.watch, selection, finished, legs, landed, List.rightpad]

/-- Reading the clock once more notes nothing. All that has happened has been noted already. -/
theorem OnTime.watch_eq_self (onCourse : j.OnCourse r s) (onTime : j.OnTime r now t)
    (later : Nat) : t.watch later j = t := by
  have idle (selection : j.selection = none) (finished : j.finished = [])
      (landed : j.underway = []) (going : ¬ j.IsOver) (same : t = {}) : t.watch later j = t := by
    rw [same, watch_of_unselected selection finished landed, if_neg going, Option.or_none]
  have going {since : Nat} (times : j.Times r since t) (going : ¬ j.IsOver) :
      t.watch later j = t :=
    (times.stays later j rfl rfl going).2
  have ended (landed : j.underway = []) (ended : (j.selection = none ∧ j.finished = [] ∧
      ∃ stop, t = { ended := some stop }) ∨
        ∃ since, j.Times r since t ∧ t.ended = some (t.latest since)) : t.watch later j = t := by
    rcases ended with ⟨selection, finished, stop, rfl⟩ | ⟨since, times, ended⟩
    · rw [watch_of_unselected selection finished landed, Option.some_or]
    · rw [times.watch_eq rfl rfl, ended, Option.some_or, ← ended]
  cases phase : j.phase <;> simp only [OnCourse, phase] at onCourse <;>
    simp only [OnTime, phase] at onTime
  case arriving =>
    exact idle onCourse.1 onCourse.2 (by simp [underway, phase]) (by simp [IsOver, phase]) onTime
  case selecting =>
    exact idle onCourse.1 onCourse.2 (by simp [underway, phase]) (by simp [IsOver, phase]) onTime
  case selected => exact going onTime.1 (by simp [IsOver, phase])
  case launching =>
    obtain ⟨since, times, -⟩ := onTime
    exact going times (by simp [IsOver, phase])
  case attempting =>
    obtain ⟨since, times, -⟩ := onTime
    exact going times (by simp [IsOver, phase])
  case concluding =>
    obtain ⟨since, times, -⟩ := onTime
    exact going times (by simp [IsOver, phase])
  case ended => exact ended (by simp [underway, phase]) onTime
  case takenDown => exact ended (by simp [underway, phase]) onTime

/-- The passing of time keeps a call on time, unless it passes by what the call waits for. A
deadline in force is among the things that are waited for. -/
theorem OnTime.pass {later : Nat} (onTime : j.OnTime r now t) (awaits : j.Awaits later) :
    j.OnTime r later t := by
  cases phase : j.phase <;> simp only [OnTime, phase] at onTime ⊢ <;>
    simp only [Awaits, phase] at awaits
  case arriving => exact onTime
  case selecting => exact onTime
  case attempting c attempt =>
    obtain ⟨since, times, running, covers⟩ := onTime
    refine ⟨since, times, running, covers.deadline, ?_⟩
    intro due policy set
    refine awaits due (List.mem_append_left _ ?_)
    rw [set]
    exact List.mem_singleton_self due
  case ended => exact onTime
  case takenDown => exact onTime

/-- A call that has just joined is on time. -/
theorem onTime_of_joined (call : Call) :
    ({ call } : Journey).OnTime r now (({} : Timeline).watch now { call }) :=
  rfl

end Journey

namespace World

open Journey

variable {router : Router} {s : State} {n : Nat} {w : World} {t : Timeline} {j : Journey}

/-- What a move is for the call with a number: it joins, it takes a step, or it stays where it is
while something else happens. -/
theorem Moves.cases_of {w' : World} (moves : Moves router w w') (n : Nat) :
    (∃ call, w.journeys[n]? = none ∧ w'.journeys[n]? = some { call }) ∨
      (∃ j j', w.journeys[n]? = some j ∧ w'.journeys[n]? = some j' ∧
        j.Step router w.state w'.state j') ∨
      w'.journeys[n]? = w.journeys[n]? := by
  cases moves with
  | @joined call caller =>
    rcases Nat.lt_trichotomy n w.journeys.length with before | rfl | after
    · exact .inr (.inr (List.getElem?_append_left before))
    · exact .inl ⟨call, List.getElem?_eq_none (Nat.le_refl _), List.getElem?_concat_length⟩
    · refine .inr (.inr ?_)
      rw [List.getElem?_eq_none (by rw [List.length_append]; exact after),
        List.getElem?_eq_none (Nat.le_of_lt after)]
  | @stepped m j j' s' there step =>
    by_cases same : m = n
    · subst same
      have known : m < w.journeys.length := (List.getElem?_eq_some_iff.mp there).1
      exact .inr (.inl ⟨j, j', there, List.getElem?_set_self known, step⟩)
    · exact .inr (.inr (List.getElem?_set_ne same))
  | outside change => exact .inr (.inr rfl)

/-- What a clock that is read for a call has to say: nothing before the call has joined, and
then that it is on time. -/
def OnTime (r : Registration) (n : Nat) (w : World) (t : Timeline) : Prop :=
  (w.journeys[n]?).elim (t = {}) (·.OnTime r w.state.now t)

/-- Whatever happens keeps a call on time, unless time passes by what the call waits for. The steps
of others take no time. -/
theorem Moves.onTime {w' : World} (moves : Moves router w w') (sound : w.Sound)
    (onCourse : ∀ j, w.journeys[n]? = some j → j.OnCourse router.registration w.state)
    (punctual : w'.state.now ≠ w.state.now →
      ∀ j, w.journeys[n]? = some j → j.Awaits w'.state.now)
    (onTime : OnTime router.registration n w t) :
    OnTime router.registration n w' ((w'.journeys[n]?).elim t (t.watch w'.state.now)) := by
  unfold OnTime at onTime ⊢
  rcases moves.cases_of n with ⟨call, absent, new⟩ | ⟨j, j', here, there, step⟩ | same
  · rw [absent, Option.elim_none] at onTime
    rw [new, Option.elim_some, Option.elim_some, onTime]
    exact onTime_of_joined call
  · rw [here, Option.elim_some] at onTime
    rw [there, Option.elim_some, Option.elim_some]
    exact step.onTime (sound.journeys j (List.mem_of_getElem? here)) (onCourse j here) onTime
  · rw [same]
    cases here : w.journeys[n]? with
    | none => rwa [here] at onTime
    | some j =>
      rw [here, Option.elim_some] at onTime
      rw [Option.elim_some, Option.elim_some, onTime.watch_eq_self (onCourse j here)]
      by_cases still : w'.state.now = w.state.now
      · rwa [still]
      · exact onTime.pass (punctual still j here)

/-- A call is on time in every history whose clock is not late for it, by induction on the
history. -/
theorem Watched.onTime (tokens : s.tokens.Sound) (watched : Watched router s n w t) :
    OnTime router.registration n w t := by
  induction watched with
  | start => exact rfl
  | move before moves punctual ih =>
    exact moves.onTime (Becomes.sound before.becomes (sound_of_empty tokens))
      (fun j here => before.becomes.onCourse tokens here) punctual ih

end World

end TrialRouting
