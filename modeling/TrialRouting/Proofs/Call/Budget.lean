import TrialRouting.Proofs.Call.Punctual

/-!
# The deadline budget of a call

A trial's deadline counts from the end of the selection. It expires at most once in a call,
at its very millisecond, and what was due by then has been done. Until it has expired it
bounds the attempts that it covers; after it has expired there is at most one attempt more,
which starts at once and is not bounded any longer, and the call is over when that attempt is.
-/

namespace TrialRouting

namespace Journey

variable {router : Router} {r : Registration} {s : State} {j : Journey} {t : Timeline}
  {selection : Selection} {made : List Leg} {leg? : Option Leg} {c : Course}
  {since now due i : Nat} {policy : TimeoutPolicy}

/-- An attempt in flight has not been cut off. It has no ending yet at all. -/
theorem not_isExpired_underway (j : Journey) : ∀ leg ∈ j.underway, leg.isExpired = false := by
  intro leg member
  simp only [underway] at member
  split at member
  · rw [List.mem_singleton.mp member]
    rfl
  · cases member

/-- The expiry is among the attempts behind a call. So it does not change when another one
starts. -/
theorem expiry?_legs (j : Journey) : expiry? j.legs = expiry? j.finished := by
  have none' : j.underway.findIdx? (·.isExpired) = none :=
    List.findIdx?_eq_none_iff.mpr j.not_isExpired_underway
  rw [expiry?, legs, List.findIdx?_append, none', Option.map_none, Option.or_none, expiry?]

/-- So are all attempts that were cut off. -/
theorem countP_legs (j : Journey) :
    j.legs.countP (·.isExpired) = j.finished.countP (·.isExpired) := by
  have none' : j.underway.countP (·.isExpired) = 0 :=
    List.countP_eq_zero.mpr fun leg member => by simp [j.not_isExpired_underway leg member]
  rw [legs, List.countP_append, none', Nat.add_zero]

namespace StandsAt

/-- A deadline that was missed before a course has come to its attempt was missed in the attempt
before, and its action is not to give up. After an expiry nothing of the route is left: the keys are
those up to the expiry and those of the action. -/
theorem length_made (here : j.StandsAt r selection made leg? c) (missed : expiry? made = some i) :
    made.length = i + 1 ∧ ∃ policy, r.timeout = some policy ∧ policy.action ≠ .throw := by
  obtain ⟨policy, timeout, -⟩ := here.keeps.expiry i missed
  have spent : c.progress.ahead r = [] := here.keeps.spent (by rw [missed]; rfl)
  have count : c.progress.attempted.length = made.length + 1 := by
    rw [here.keeps.attempted, List.length_append, List.length_singleton, keysOf, List.length_map]
  have behind : i < made.length := (List.findIdx?_eq_some_iff_findIdx_eq.mp missed).1
  have route := congrArg List.length here.keeps.route
  rw [spent, List.append_nil, count, missed, Registration.route, List.length_append,
    List.length_take] at route
  have detour := List.length_filter_le
    (!((r.itinerary selection.key).take (i + 1)).contains ·) r.detour
  have named : r.detour = policy.action.plan r := by
    rw [Registration.detour, timeout, Option.toList_some, List.flatMap_singleton]
  rw [named] at detour route
  refine ⟨?_, policy, timeout, ?_⟩
  · have short := policy.action.length_plan_le r
    omega
  · intro throw
    rw [throw] at route detour
    simp only [TimeoutAction.plan, List.filter_nil, List.length_nil] at route
    omega

/-- Either the attempt a course had come to was cut off, or the one before it was and this one was
not. There is no third, since there is at most one attempt after an expiry. -/
theorem expiry_cases (here : j.StandsAt r selection made leg? c)
    (missed : expiry? j.finished = some i) :
    (expiry? made = none ∧ i = made.length ∧ j.finished.length = i + 1 ∧
        c.deadline.isSome = true) ∨
      (expiry? made = some i ∧ ∀ leg, leg? = some leg → leg.isExpired = false) := by
  cases before : expiry? made with
  | some k =>
    refine .inr ⟨?_, ?_⟩
    · rw [here.finished, expiry?_append_of_some before] at missed
      exact missed
    · intro leg own
      cases expired : leg.isExpired with
      | false => rfl
      | true =>
        obtain ⟨bounds, set⟩ := Option.isSome_iff_exists.mp (here.due leg own expired)
        obtain ⟨-, none', -⟩ := here.keeps.covered bounds.1 bounds.2 set
        cases before.symm.trans none'
  | none =>
    refine .inl ⟨rfl, ?_⟩
    rw [here.finished, expiry?, List.findIdx?_append, ← expiry?, before, Option.none_or] at missed
    cases leg? with
    | none => simp at missed
    | some leg =>
      cases expired : leg.isExpired with
      | false => simp [expired] at missed
      | true =>
        have own : i = made.length := by simpa [expired] using missed.symm
        refine ⟨own, ?_, here.due leg rfl expired⟩
        rw [here.finished, own]
        simp

/-- A deadline for the first attempt only expires in that attempt. Later ones are not under it. -/
theorem expiry_eq_zero (here : j.StandsAt r selection made leg? c)
    (missed : expiry? j.finished = some i) (timeout : r.timeout = some policy)
    (first : policy.scope = .firstAttempt) : i = 0 := by
  rcases here.expiry_cases missed with ⟨-, rfl, -, due⟩ | ⟨before, -⟩
  · obtain ⟨⟨instant, own⟩, set⟩ := Option.isSome_iff_exists.mp due
    obtain ⟨same, -, none'⟩ := here.keeps.covered instant own set
    obtain rfl : own = policy := Option.some.inj (same.symm.trans timeout)
    rw [none' first, List.length_nil]
  · obtain ⟨own, same, zero⟩ := here.keeps.expiry i before
    obtain rfl : own = policy := Option.some.inj (same.symm.trans timeout)
    exact zero first

/-- At most one attempt of a call is cut off. If one was cut off before, it is the last of those
before, and the attempt that the course has come to is spared. -/
theorem countP_le_one (here : j.StandsAt r selection made leg? c) :
    j.finished.countP (·.isExpired) ≤ 1 := by
  rw [here.finished, List.countP_append]
  have one : leg?.toList.countP (·.isExpired) ≤ 1 := by
    refine Nat.le_trans List.countP_le_length ?_
    cases leg? <;> simp
  cases before : expiry? made with
  | none =>
    have none' : made.countP (·.isExpired) = 0 :=
      List.countP_eq_zero.mpr fun leg member => by
        simpa using List.findIdx?_eq_none_iff.mp before leg member
    omega
  | some k =>
    have last := (here.length_made before).1
    have missed : expiry? j.finished = some k := by
      rw [here.finished, expiry?_append_of_some before]
    have own : leg?.toList.countP (·.isExpired) = 0 := by
      rcases here.expiry_cases missed with ⟨none', -⟩ | ⟨-, spared⟩
      · cases before.symm.trans none'
      · refine List.countP_eq_zero.mpr fun leg member => ?_
        simp [spared leg (Option.mem_toList.mp member)]
    have earlier : (made.take k).countP (·.isExpired) = 0 := by
      obtain ⟨_, -, spared⟩ := List.findIdx?_eq_some_iff_getElem.mp before
      refine List.countP_eq_zero.mpr fun leg member => ?_
      obtain ⟨i, short, rfl⟩ := List.mem_take_iff_getElem.mp member
      exact spared i (by omega)
    have split : made.countP (·.isExpired) =
        (made.take k).countP (·.isExpired) + (made.drop k).countP (·.isExpired) := by
      rw [← List.countP_append, List.take_append_drop]
    have rest : (made.drop k).countP (·.isExpired) ≤ (made.drop k).length :=
      List.countP_le_length
    rw [List.length_drop] at rest
    omega

end StandsAt

/-- A call that has got its key has not set out yet, or it stands at a course, and an attempt in
flight is the one that the course has come to. -/
theorem OnCourse.stands (onCourse : j.OnCourse r s) (onTime : j.OnTime r now t)
    (selected : t.selected = some since) :
    j.finished = [] ∧ j.underway = [] ∨ ∃ selection made leg? c,
      j.StandsAt r selection made leg? c ∧ (leg? ≠ none → j.underway = []) := by
  have unselected (t : Timeline) (ended : Option Nat) (same : t = { ended })
      (selected : t.selected = some since) : False := by
    rw [same] at selected
    cases selected
  cases phase : j.phase <;> simp only [OnCourse, phase] at onCourse <;>
    simp only [OnTime, phase] at onTime
  case arriving => exact (unselected t none onTime selected).elim
  case selecting => exact (unselected t none onTime selected).elim
  case selected => exact .inl ⟨onCourse.2, by simp [underway, phase]⟩
  case launching c =>
    obtain ⟨selection, here⟩ := onCourse
    exact .inr ⟨selection, _, none, c, here, fun some' => absurd rfl some'⟩
  case attempting c attempt =>
    obtain ⟨selection, here, -⟩ := onCourse
    exact .inr ⟨selection, _, none, c, here, fun some' => absurd rfl some'⟩
  case concluding c e =>
    obtain ⟨selection, made, leg?, here, -⟩ := onCourse
    exact .inr ⟨selection, made, leg?, c, here, fun _ => by simp [underway, phase]⟩
  case ended o =>
    rcases onCourse with ⟨none', finished, -⟩ | ⟨selection, made, leg?, c, here⟩
    · exact .inl ⟨finished, by simp [underway, phase]⟩
    · exact .inr ⟨selection, made, leg?, c, here, fun _ => by simp [underway, phase]⟩
  case takenDown =>
    rcases onCourse with ⟨none', finished⟩ | ⟨selection, made, leg, c, here, -⟩
    · exact .inl ⟨finished, by simp [underway, phase]⟩
    · exact .inr ⟨selection, made, some leg, c, here, fun _ => by simp [underway, phase]⟩

/-- The timeline of a call that has got its key. Unless the call is over, or waits in an attempt,
the last thing that has happened to it has happened now. -/
theorem OnTime.status (onTime : j.OnTime r now t) (selected : t.selected = some since) :
    j.Times r since t ∧
      (t.ended = none ∧ (t.latest since = now ∨
          ∃ c attempt, j.phase = .attempting c attempt ∧ j.Covers r since now c) ∨
        t.ended = some (t.latest since) ∧ j.underway = []) := by
  have ended (landed : j.underway = [])
      (onTime : (j.selection = none ∧ j.finished = [] ∧ ∃ stop, t = { ended := some stop }) ∨
        ∃ since, j.Times r since t ∧ t.ended = some (t.latest since)) :
      j.Times r since t ∧ t.ended = some (t.latest since) ∧ j.underway = [] := by
    rcases onTime with ⟨-, -, stop, rfl⟩ | ⟨other, times, last⟩
    · cases selected
    · obtain rfl := times.since_eq selected
      exact ⟨times, last, landed⟩
  cases phase : j.phase <;> simp only [OnTime, phase] at onTime
  case arriving => rw [onTime] at selected; cases selected
  case selecting => rw [onTime] at selected; cases selected
  case selected =>
    obtain ⟨times, running, latest⟩ := onTime
    obtain rfl := times.since_eq selected
    exact ⟨times, .inl ⟨running, .inl latest⟩⟩
  case launching =>
    obtain ⟨other, times, running, -, latest⟩ := onTime
    obtain rfl := times.since_eq selected
    exact ⟨times, .inl ⟨running, .inl latest⟩⟩
  case attempting c attempt =>
    obtain ⟨other, times, running, covers⟩ := onTime
    obtain rfl := times.since_eq selected
    exact ⟨times, .inl ⟨running, .inr ⟨c, attempt, rfl, covers⟩⟩⟩
  case concluding =>
    obtain ⟨other, times, running, latest, -⟩ := onTime
    obtain rfl := times.since_eq selected
    exact ⟨times, .inl ⟨running, .inl latest⟩⟩
  case ended =>
    obtain ⟨times, stopped⟩ := ended (by simp [underway, phase]) onTime
    exact ⟨times, .inr stopped⟩
  case takenDown =>
    obtain ⟨times, stopped⟩ := ended (by simp [underway, phase]) onTime
    exact ⟨times, .inr stopped⟩

/-- After the deadline has expired in an attempt there is at most one more, and none if the action
is to give up. That attempt may be in flight, or behind the call as well. -/
theorem OnCourse.length_legs (onCourse : j.OnCourse r s) (onTime : j.OnTime r now t)
    (selected : t.selected = some since) (missed : expiry? j.legs = some i) :
    j.legs.length = i + 1 ∨ j.legs.length = i + 2 ∧
      ∃ policy, r.timeout = some policy ∧ policy.action ≠ .throw := by
  rw [expiry?_legs] at missed
  rcases onCourse.stands onTime selected with ⟨finished, -⟩ | ⟨selection, made, leg?, c, here, own⟩
  · rw [finished] at missed
    cases missed
  · rcases here.expiry_cases missed with ⟨before, rfl, count, -⟩ | ⟨before, -⟩
    · have some' : leg? ≠ none := by
        rintro rfl
        rw [here.finished] at count
        simp at count
      rw [legs, own some', List.append_nil]
      exact .inl count
    · obtain ⟨length, further⟩ := here.length_made before
      have count := congrArg List.length here.finished
      rw [List.length_append, length] at count
      cases leg? with
      | none =>
        rcases j.length_legs with landed | flying
        · exact .inl (by rw [landed, count]; rfl)
        · exact .inr ⟨by rw [flying, count]; rfl, further⟩
      | some leg =>
        refine .inr ⟨?_, further⟩
        rw [legs, own (by simp), List.append_nil, count]
        rfl

/-- An attempt that is cut off is cut off at the deadline, to the millisecond: the clock never
passes by a deadline that is in force. -/
theorem Times.arrival_of_expired (times : j.Times r since t) (timeout : r.timeout = some policy)
    (missed : expiry? j.legs = some i) :
    Instant.after? since policy.duration = some (since + policy.duration.ceilMillis) ∧
      t.arrivals[i]? = some (since + policy.duration.ceilMillis) := by
  rw [expiry?_legs] at missed
  obtain ⟨behind, expired, -⟩ := List.findIdx?_eq_some_iff_getElem.mp missed
  obtain ⟨due, own, set, counted, instant⟩ :=
    times.expired i _ (List.getElem?_eq_getElem behind) expired
  obtain rfl : own = policy := Option.some.inj (set.symm.trans timeout)
  obtain ⟨rfl, -⟩ := Instant.after?_eq_some_iff.mp counted
  exact ⟨counted, instant⟩

/-- That attempt is behind the call, since being cut off is the end of it. -/
theorem Times.lt_length_of_expired (times : j.Times r since t) (timeout : r.timeout = some policy)
    (missed : expiry? j.legs = some i) : i < j.finished.length :=
  times.arrivals ▸
    (List.getElem?_eq_some_iff.mp (times.arrival_of_expired timeout missed).2).1

/-- If no attempt has started since, that is the last thing that has happened to the call. What
follows it takes no time. -/
theorem Times.latest_of_expired (times : j.Times r since t) (timeout : r.timeout = some policy)
    (missed : expiry? j.legs = some i) (last : j.legs.length = i + 1) :
    t.latest since = since + policy.duration.ceilMillis := by
  have arrival := (times.arrival_of_expired timeout missed).2
  have behind := times.lt_length_of_expired timeout missed
  have count : t.arrivals.length = i + 1 := by
    have landed := times.arrivals
    rcases j.length_legs with same | flying <;> omega
  rw [Timeline.latest, List.getLastD_eq_getLast?, List.getLast?_eq_getElem?, count,
    Nat.add_sub_cancel, arrival, Option.getD_some]

/-- The deadline in force at an attempt that is about to start, or waits. It follows from the
attempts before it. -/
theorem OnTime.covers (onTime : j.OnTime r now t) (selected : t.selected = some since)
    (phase : j.phase = .launching c ∨ ∃ attempt, j.phase = .attempting c attempt) :
    j.Covers r since now c := by
  rcases phase with phase | ⟨attempt, phase⟩
  · simp only [OnTime, phase] at onTime
    obtain ⟨other, times, -, covers, -⟩ := onTime
    obtain rfl := times.since_eq selected
    exact covers
  · simp only [OnTime, phase] at onTime
    obtain ⟨other, times, -, covers⟩ := onTime
    obtain rfl := times.since_eq selected
    exact covers

/-- What is cut off is cut off at the deadline, and waits for what is due later. So nothing that was
due by the deadline has been lost. -/
theorem Covers.cut_at {unbounded : State × (Ending ⊕ Attempt)} (covers : j.Covers r since now c)
    (timeout : r.timeout = some policy) (cut : Router.Overruns c now unbounded) :
    now = since + policy.duration.ceilMillis ∧ ∃ s₁ rest, unbounded = (s₁, .inr rest) ∧
      ∀ instant ∈ rest.flight.timers, since + policy.duration.ceilMillis < instant := by
  obtain ⟨due, own, set, counted, reached⟩ := covers.cut cut
  obtain rfl : own = policy := Option.some.inj (set.symm.trans timeout)
  obtain rfl := (Instant.after?_eq_some_iff.mp counted).1
  exact ⟨reached.symm, reached ▸ cut.waits⟩

/-- When a call was over: at the last thing that has happened to it. No attempt is in flight
then. -/
theorem OnTime.stop (onTime : j.OnTime r now t) (selected : t.selected = some since) {stop : Nat}
    (ended : t.ended = some stop) : stop = t.latest since ∧ j.underway = [] := by
  obtain ⟨-, ⟨running, -⟩ | ⟨stopped, landed⟩⟩ := onTime.status selected
  · cases ended.symm.trans running
  · exact ⟨Option.some.inj (ended.symm.trans stopped), landed⟩

/-- As long as a deadline for the whole sequence has not been missed, it lies ahead of the call, or
the call was over by then. A clock that is not late cannot have passed by it. -/
theorem OnTime.inTime (onTime : j.OnTime r now t) (selected : t.selected = some since)
    (timeout : r.timeout = some policy) (whole : policy.scope = .wholeSequence)
    (counted : Instant.after? since policy.duration = some due)
    (before : expiry? j.finished = none) :
    (t.ended = none → now ≤ due) ∧ ∀ stop, t.ended = some stop → stop ≤ due := by
  obtain ⟨times, status⟩ := onTime.status selected
  have latest : t.latest since ≤ due := times.inTime due policy timeout whole counted before
  have inForce := Registration.deadlineFor_of_whole timeout whole counted before
  refine ⟨fun running => ?_, fun stop ended => (onTime.stop selected ended).1 ▸ latest⟩
  rcases status with ⟨-, last | ⟨c, attempt, -, covers⟩⟩ | ⟨ended, -⟩
  · exact last ▸ latest
  · exact covers.ahead due policy (covers.deadline.trans inForce)
  · cases running.symm.trans ended

/-- A call whose last attempt was cut off is at its deadline, or was over then. No time passes
between the end of an attempt and what follows it. -/
theorem OnTime.at_expiry (onTime : j.OnTime r now t) (selected : t.selected = some since)
    (timeout : r.timeout = some policy) (missed : expiry? j.legs = some i)
    (last : j.legs.length = i + 1) :
    (t.ended = none → now = since + policy.duration.ceilMillis) ∧
      ∀ stop, t.ended = some stop → stop = since + policy.duration.ceilMillis := by
  obtain ⟨times, status⟩ := onTime.status selected
  have latest := times.latest_of_expired timeout missed last
  refine ⟨fun running => ?_, fun stop ended => (onTime.stop selected ended).1.trans latest⟩
  rcases status with ⟨-, now | ⟨c, attempt, phase, -⟩⟩ | ⟨ended, -⟩
  · exact now.symm.trans latest
  · have behind := times.lt_length_of_expired timeout missed
    have flying : j.legs.length = j.finished.length + 1 := by simp [legs, underway, phase]
    omega
  · cases running.symm.trans ended

/-- At the deadline of a call that it covers as a whole, and that gives up once it has expired, a
turn ends the call. A turn leaves nothing due, but the deadline is still in force and has been
reached; so the call cannot go on waiting. -/
theorem OnTime.ends_of_throw (tokens : s.tokens.Sound) (sound : j.Sound s)
    (onCourse : j.OnCourse router.registration s)
    (onTime : j.OnTime router.registration s.now t) (selected : t.selected = some since)
    (timeout : router.registration.timeout = some policy)
    (whole : policy.scope = .wholeSequence) (throws : policy.action = .throw)
    (counted : Instant.after? since policy.duration = some due) (reached : due ≤ s.now)
    {stage : Stage} (phase : j.phase = .ofTurn (.running stage)) :
    ∃ s' o, router.resume j.call stage s = (s', .finished o) := by
  obtain ⟨j', steps, -, phase'⟩ : j.LeadsTo router s (router.resume j.call stage s) :=
    resume_leads phase
  obtain ⟨-, -, still, onCourse', t', selected', onTime'⟩ :=
    Steps.onTime tokens sound onCourse onTime selected steps
  cases turn : router.resume j.call stage s with
  | mk s' result =>
    rw [turn] at phase' still onCourse' onTime'
    cases result with
    | finished o => exact ⟨s', o, rfl⟩
    | running stage' =>
      have ahead := Router.isAfter_of_turn turn
      cases stage' with
      | selecting instant opinion =>
        simp only [Phase.ofTurn] at phase'
        simp only [OnTime, phase'] at onTime'
        rw [onTime'] at selected'
        cases selected'
      | attempting c attempt =>
        simp only [Phase.ofTurn] at phase'
        simp only [OnTime, phase'] at onTime'
        simp only [OnCourse, phase'] at onCourse'
        obtain ⟨other, times, -, covers⟩ := onTime'
        obtain ⟨selection, here, -⟩ := onCourse'
        obtain rfl := times.since_eq selected'
        have before : expiry? j'.finished = none := by
          cases missed : expiry? j'.finished with
          | none => rfl
          | some i =>
            obtain ⟨-, own, set, further⟩ := here.length_made missed
            obtain rfl : own = policy := Option.some.inj (set.symm.trans timeout)
            exact absurd throws further
        have inForce : c.deadline = some (due, policy) :=
          covers.deadline.trans (Registration.deadlineFor_of_whole timeout whole counted before)
        have later : s'.now < due :=
          ahead due (List.mem_append_left _ (by rw [inForce]; exact List.mem_singleton_self due))
        exact absurd (Nat.lt_of_lt_of_le later reached) (by rw [still]; exact Nat.lt_irrefl _)

/-- After the deadline has expired a call ends with the attempt that it has come to. A further
attempt would be the second after the expiry. -/
theorem OnCourse.ends_of_expired {attempt : Attempt} {s₁ : State} {e : Ending}
    (tokens : s.tokens.Sound) (sound : j.Sound s) (onCourse : j.OnCourse router.registration s)
    (missed : expiry? j.finished = some i) (phase : j.phase = .attempting c attempt)
    (resumed : Router.resumeAttempt c attempt s = (s₁, .inl e)) :
    ∃ s' o, router.resume j.call (.attempting c attempt) s = (s', .finished o) := by
  have left : Step router s j s₁
      { j with
        phase := .concluding c e
        finished := j.finished ++ [attempt.leg (some e)] } := .left phase resumed
  obtain ⟨grows, sound'⟩ := left.grows sound
  have onCourse' := left.onCourse tokens sound onCourse
  simp only [OnCourse, phase] at onCourse
  obtain ⟨selection, here, -⟩ := onCourse
  have count := (here.length_made missed).1
  cases conclusion : router.conclude j.call c e s₁ with
  | mk s₂ result =>
    cases result with
    | inl o =>
      refine ⟨s₂, o, ?_⟩
      simp only [Router.resume, resumed]
      rw [Router.pursue]
      split
      · next answer => cases conclusion.symm.trans answer; rfl
      · next answer => cases conclusion.symm.trans answer
    | inr next =>
      have fellBack : Step router s₁
          { j with
            phase := .concluding c e
            finished := j.finished ++ [attempt.leg (some e)] } s₂
          { j with
            phase := .launching next
            finished := j.finished ++ [attempt.leg (some e)] } := .fellBack rfl conclusion
      obtain ⟨selection', there⟩ := fellBack.onCourse (grows.sound tokens) sound' onCourse'
      have length := (there.length_made (expiry?_append_of_some missed)).1
      rw [List.length_append, count] at length
      cases length

/-- A call that a deadline covers as a whole is over by then, or the deadline still lies ahead,
unless an attempt was cut off and there is something to fall back to.

Proof: as long as nothing was cut off the deadline is in force. If an attempt was cut off and the
action is to give up, that attempt is the last one, and the call stands where it ended. -/
theorem OnTime.whole (onTime : j.OnTime router.registration s.now t)
    (onCourse : j.OnCourse router.registration s) (selected : t.selected = some since)
    (timeout : router.registration.timeout = some policy)
    (whole : policy.scope = .wholeSequence)
    (counted : Instant.after? since policy.duration =
      some (since + policy.duration.ceilMillis))
    (spared : expiry? j.legs = none ∨ policy.action = .throw) :
    (t.ended = none → s.now ≤ since + policy.duration.ceilMillis) ∧
      ∀ stop, t.ended = some stop → stop ≤ since + policy.duration.ceilMillis := by
  cases missed : expiry? j.legs with
  | none =>
    rw [expiry?_legs] at missed
    exact onTime.inTime selected timeout whole counted missed
  | some i =>
    have throws : policy.action = .throw := spared.resolve_left (by simp [missed])
    have last : j.legs.length = i + 1 := by
      rcases onCourse.length_legs onTime selected missed with last | ⟨-, other, set, further⟩
      · exact last
      · obtain rfl : other = policy := Option.some.inj (set.symm.trans timeout)
        exact absurd throws further
    obtain ⟨running, stopped⟩ := onTime.at_expiry selected timeout missed last
    exact ⟨fun going => Nat.le_of_eq (running going),
      fun stop ended => Nat.le_of_eq (stopped stop ended)⟩

/-- After an attempt was cut off there is at most one more, and the call is over when the last of
them is. The further attempt starts when the one before it was cut off, since attempts follow each
other without a pause. -/
theorem OnTime.after (onTime : j.OnTime router.registration s.now t)
    (onCourse : j.OnCourse router.registration s) (selected : t.selected = some since)
    (timeout : router.registration.timeout = some policy) (missed : expiry? j.legs = some i) :
    (j.legs.length = i + 1 ∨ j.legs.length = i + 2 ∧ policy.action ≠ .throw ∧
      t.departures[i + 1]? = some (since + policy.duration.ceilMillis)) ∧
    ∀ stop, t.ended = some stop →
      j.legs.length = i + 1 ∧ stop = since + policy.duration.ceilMillis ∨
        t.arrivals[i + 1]? = some stop := by
  obtain ⟨times, -⟩ := onTime.status selected
  have arrival := (times.arrival_of_expired timeout missed).2
  rcases onCourse.length_legs onTime selected missed with last | ⟨further, other, set, action⟩
  · exact ⟨.inl last, fun stop ended =>
      .inl ⟨last, (onTime.at_expiry selected timeout missed last).2 stop ended⟩⟩
  · obtain rfl : other = policy := Option.some.inj (set.symm.trans timeout)
    refine ⟨.inr ⟨further, action, ?_⟩, fun stop ended => .inr ?_⟩
    · rw [times.departures, further, List.getElem?_take, if_pos (Nat.lt_succ_self _),
        List.getElem?_cons_succ, arrival]
    · obtain ⟨rfl, landed⟩ := onTime.stop selected ended
      have count : t.arrivals.length = i + 2 := by
        rw [times.arrivals, ← further, legs, landed, List.append_nil]
      rw [Timeline.latest, List.getLastD_eq_getLast?, List.getLast?_eq_getElem?, count]
      have known : i + 1 < t.arrivals.length := by omega
      simp [List.getElem?_eq_getElem known]

/-- What the deadline of a trial means for a call that has got its key. -/
structure KeepsBudget (router : Router) (policy : TimeoutPolicy) (due : Nat) (s : State)
    (j : Journey) (t : Timeline) : Prop where
  once : j.legs.countP (·.isExpired) ≤ 1
  /-- It expires at its very millisecond, if the clock can represent that at all. A deadline for
  the first attempt cuts off no other. -/
  expiry : ∀ i, expiry? j.legs = some i → due ≤ Instant.last ∧ t.arrivals[i]? = some due ∧
    (policy.scope = .firstAttempt → i = 0)
  /-- An attempt is under the deadline exactly if that can be represented and has not expired
  before, and if it is not for the first attempt only and this is a later one. -/
  covered : ∀ c, (j.phase = .launching c ∨ ∃ attempt, j.phase = .attempting c attempt) →
    ∀ instant own, c.deadline = some (instant, own) ↔ instant = due ∧ own = policy ∧
      due ≤ Instant.last ∧ expiry? j.finished = none ∧
        (policy.scope = .firstAttempt → j.finished = [])
  /-- An attempt that comes to its end, comes to the same end under the deadline. -/
  ready : ∀ c attempt s' e, j.phase = .attempting c attempt →
    Router.resumeAttempt c.unbounded attempt s = (s', .inl e) →
      Router.resumeAttempt c attempt s = (s', .inl e)
  sped : ∀ c s' e, j.phase = .launching c →
    router.launch j.call c.unbounded s = (s', .inl e) → router.launch j.call c s = (s', .inl e)
  /-- What is cut off is cut off at the deadline, and all that it waits for is due later. -/
  cut : ∀ c attempt s', j.phase = .attempting c attempt →
    Router.resumeAttempt c attempt s = (s', .inl .expired) → s.now = due ∧
      ∃ s₁ rest, Router.resumeAttempt c.unbounded attempt s = (s₁, .inr rest) ∧
        ∀ instant ∈ rest.flight.timers, due < instant
  withheld : ∀ c s', j.phase = .launching c →
    router.launch j.call c s = (s', .inl .expired) → s.now = due ∧
      ∃ s₁ rest, router.launch j.call c.unbounded s = (s₁, .inr rest) ∧
        ∀ instant ∈ rest.flight.timers, due < instant
  /-- A call that is covered as a whole is over by the deadline, unless that expires and there is
  something to fall back to. -/
  whole : policy.scope = .wholeSequence → due ≤ Instant.last →
    (expiry? j.legs = none ∨ policy.action = .throw) →
      (t.ended = none → s.now ≤ due) ∧ ∀ stop, t.ended = some stop → stop ≤ due
  throws : policy.scope = .wholeSequence → due ≤ Instant.last → policy.action = .throw →
    due ≤ s.now → ∀ stage, j.phase = .ofTurn (.running stage) →
      ∃ s' o, router.resume j.call stage s = (s', .finished o)
  /-- After the expiry there is at most one further attempt, and none if the action is to give
  up. It starts at the deadline, and the call is over when it is. -/
  after : ∀ i, expiry? j.legs = some i →
    (j.legs.length = i + 1 ∨ j.legs.length = i + 2 ∧ policy.action ≠ .throw ∧
      t.departures[i + 1]? = some due) ∧
    ∀ stop, t.ended = some stop →
      j.legs.length = i + 1 ∧ stop = due ∨ t.arrivals[i + 1]? = some stop
  last : ∀ i c attempt s' e, expiry? j.finished = some i → j.phase = .attempting c attempt →
    Router.resumeAttempt c attempt s = (s', .inl e) →
      ∃ s' o, router.resume j.call (.attempting c attempt) s = (s', .finished o)

/-- A call that is on time keeps within the budget of its trial's deadline.

Proof: there is a part for each thing that the budget says. What attempts are cut off, and how many,
follows from where the call stands on its route; when they are follows from its timeline; and that
an attempt which is ready comes to the same end with the deadline as without it is a matter of one
turn. -/
theorem OnTime.keepsBudget (onTime : j.OnTime router.registration s.now t)
    (tokens : s.tokens.Sound) (sound : j.Sound s)
    (onCourse : j.OnCourse router.registration s) (selected : t.selected = some since)
    (timeout : router.registration.timeout = some policy) :
    j.KeepsBudget router policy (since + policy.duration.ceilMillis) s t := by
  have times := (onTime.status selected).1
  have stands := onCourse.stands onTime selected
  have counted (representable : since + policy.duration.ceilMillis ≤ Instant.last) :
      Instant.after? since policy.duration = some (since + policy.duration.ceilMillis) :=
    Instant.after?_eq_some_iff.mpr ⟨rfl, representable⟩
  constructor
  case once =>
    rw [countP_legs]
    rcases stands with ⟨finished, -⟩ | ⟨selection, made, leg?, c, stands, -⟩
    · simp [finished]
    · exact stands.countP_le_one
  case expiry =>
    intro i missed
    obtain ⟨counted, arrival⟩ := times.arrival_of_expired timeout missed
    refine ⟨(Instant.after?_eq_some_iff.mp counted).2, arrival, fun first => ?_⟩
    rw [expiry?_legs] at missed
    rcases stands with ⟨finished, -⟩ | ⟨selection, made, leg?, c, stands, -⟩
    · rw [finished] at missed
      cases missed
    · exact stands.expiry_eq_zero missed timeout first
  case covered =>
    intro c phase instant own
    rw [(onTime.covers selected phase).deadline, Registration.deadlineFor_eq_some_iff,
      Instant.after?_eq_some_iff, timeout, Option.some.injEq]
    constructor
    · rintro ⟨rfl, ⟨rfl, representable⟩, before, first⟩
      exact ⟨rfl, rfl, representable, before, first⟩
    · rintro ⟨rfl, rfl, representable, before, first⟩
      exact ⟨rfl, ⟨rfl, representable⟩, before, first⟩
  case ready =>
    intro c attempt s' e phase ready
    rw [Router.resumeAttempt_eq_bound, ready]
    rfl
  case sped =>
    intro c s' e phase ready
    rw [Router.launch_eq_bound, ready]
    rfl
  case cut =>
    intro c attempt s' phase cut
    obtain ⟨-, known, issued, -⟩ := sound.attempt c attempt phase
    exact (onTime.covers selected (.inr ⟨attempt, phase⟩)).cut_at timeout
      (Router.overruns_of_resume issued known cut)
  case withheld =>
    intro c s' phase cut
    exact (onTime.covers selected (.inl phase)).cut_at timeout (Router.overruns_of_launch cut)
  case whole =>
    intro whole representable spared
    exact onTime.whole onCourse selected timeout whole (counted representable) spared
  case throws =>
    intro whole representable throws reached stage phase
    exact onTime.ends_of_throw tokens sound onCourse selected timeout whole throws
      (counted representable) reached phase
  case after =>
    intro i missed
    exact onTime.after onCourse selected timeout missed
  case last =>
    intro i c attempt s' e missed phase resumed
    exact onCourse.ends_of_expired tokens sound missed phase resumed

end Journey

namespace World

open Journey

/-- What is known of a call by a clock that is not late for it: its tokens are in order, it is on
its course, and it is on time. -/
theorem Watched.call {router : Router} {s : State} {n : Nat} {w : World} {t : Timeline}
    {j : Journey} (tokens : s.tokens.Sound) (watched : Watched router s n w t)
    (here : w.journeys[n]? = some j) :
    w.state.tokens.Sound ∧ j.Sound w.state ∧ j.OnCourse router.registration w.state ∧
      j.OnTime router.registration w.state.now t := by
  have sound : w.Sound := Becomes.sound watched.becomes (sound_of_empty tokens)
  have onTime := watched.onTime tokens
  rw [OnTime, here, Option.elim_some] at onTime
  exact ⟨sound.tokens, sound.journeys j (List.mem_of_getElem? here),
    watched.becomes.onCourse tokens here, onTime⟩

end World

/-- Every call of a schedule keeps within the budget of the trial's deadline, which counts from the
moment it got its key. A schedule only moves the clock to the next instant at which something is
due, so the clock is not late for any of its calls.

Proof: the run of the schedule is a history of its calls that is watched on time for each of them,
and what is so watched keeps within its budget. -/
theorem Schedule.calls_keep_budget {router : Router} {s : State} {policy : TimeoutPolicy}
    {as : List (Activity Call Stage Outcome)} (tokens : s.tokens.Sound)
    (waiting : ∀ a ∈ as, a.status.phase = .arriving)
    (callers : ∀ a ∈ as, a.request.caller.id < s.tokens.issued)
    (issued : ∀ a ∈ as, a.token.id < s.tokens.issued)
    (timeout : router.registration.timeout = some policy) {n : Nat}
    {a : Activity Call Stage Outcome} (here : (run router.conduct as s).2[n]? = some a) :
    ∃ j js t, j.Follows a ∧ js[n]? = some j ∧
      World.Watched router s n ⟨(run router.conduct as s).1, js⟩ t ∧
      ∀ since, t.selected = some since →
        j.KeepsBudget router policy (since + policy.duration.ceilMillis)
          (run router.conduct as s).1 t := by
  obtain ⟨js, t, watched, follows⟩ : ∃ js t,
      World.Watched router s n ⟨(run router.conduct as s).1, js⟩ t ∧
        List.Forall₂ Journey.Follows js (run router.conduct as s).2 :=
    watched_run tokens waiting callers issued n
  obtain ⟨scheduled, rfl⟩ := List.getElem?_eq_some_iff.mp here
  have known : n < js.length := follows.length_eq ▸ scheduled
  have there : js[n]? = some js[n] := List.getElem?_eq_getElem known
  refine ⟨js[n], js, t, follows.get known scheduled, there, watched, fun since selected => ?_⟩
  obtain ⟨sound, own, onCourse, onTime⟩ := watched.call tokens there
  exact onTime.keepsBudget sound own onCourse selected timeout

namespace World

open Journey

/-- However the calls of a router overlap, each keeps within the budget of the trial's deadline,
which counts from the moment it got its key. The clock that is read for it may be any that does not
pass by what the call waits for; the other calls may be as late as they like.

Proof: two invariants are kept along the history. One is that the call is on its course, so that its
attempts are those of its route with at most one after an expiry; the other is that it is on time,
so that whatever it waits for lies ahead and each attempt has started when the one before it ended.
The budget can be read off the two. -/
theorem call_keeps_budget {router : Router} {s : State} {n : Nat} {w : World} {t : Timeline}
    {j : Journey} {policy : TimeoutPolicy} {since : Nat} (tokens : s.tokens.Sound)
    (watched : Watched router s n w t) (here : w.journeys[n]? = some j)
    (timeout : router.registration.timeout = some policy) (selected : t.selected = some since) :
    j.KeepsBudget router policy (since + policy.duration.ceilMillis) w.state t := by
  obtain ⟨sound, own, onCourse, onTime⟩ := watched.call tokens here
  exact onTime.keepsBudget sound own onCourse selected timeout

/-- The deadline of a trial in a hurry. -/
def hurriedPolicy : TimeoutPolicy := ⟨.ofMillis 3, .fallbackToSpecific "spare", .wholeSequence⟩

/-- A router whose implementation takes longer than the trial's deadline allows. -/
def hurriedRouter : Router :=
  { spareRouter with
    registration := { spareRouter.registration with
      trials := [⟨"lost", "good"⟩, ⟨"spare", "good"⟩]
      timeout := some hurriedPolicy } }

/-- A call of that router has joined and started its first attempt. -/
def hurriedStart : World :=
  advance hurriedRouter [0, 0, 0] ⟨spareStart, [{ call := spareCall 0 "wait" }]⟩

/-- At the deadline it has started its second attempt. -/
def hurriedExpiry : World :=
  advance hurriedRouter [0, 0, 0]
    { hurriedStart with state := { hurriedStart.state with now := 3 } }

/-- When that has come to its end the call is over. -/
def hurriedEnd : World :=
  advance hurriedRouter [0, 0]
    { hurriedExpiry with state := { hurriedExpiry.state with now := 8 } }

/-- The clock is not late for the call: it is moved to the deadline, and then to the end of the
second attempt, and passes by neither. -/
theorem watched_hurriedEnd :
    Watched hurriedRouter spareStart 0 hurriedEnd ⟨some 0, [0, 3], [3, 8], some 8⟩ := by
  have joined : Watched hurriedRouter spareStart 0
      ⟨spareStart, [{ call := spareCall 0 "wait" }]⟩ {} :=
    .move .start (.joined (by decide)) fun changed => absurd rfl changed
  have first : Watched hurriedRouter spareStart 0 hurriedStart ⟨some 0, [0], [], none⟩ :=
    joined.along sound_spareStart (becomes_advance hurriedRouter [0, 0, 0] _) rfl
  have reached : Watched hurriedRouter spareStart 0
      { hurriedStart with state := { hurriedStart.state with now := 3 } }
      ⟨some 0, [0], [], none⟩ := by
    refine .move first (.outside (.clock (by decide))) fun _ j here => ?_
    obtain rfl := Option.some.inj here
    show ∀ t ∈ [3, 5], 3 ≤ t
    decide
  have second : Watched hurriedRouter spareStart 0 hurriedExpiry ⟨some 0, [0, 3], [3], none⟩ :=
    reached.along sound_spareStart (becomes_advance hurriedRouter [0, 0, 0] _) rfl
  have done : Watched hurriedRouter spareStart 0
      { hurriedExpiry with state := { hurriedExpiry.state with now := 8 } }
      ⟨some 0, [0, 3], [3], none⟩ := by
    refine .move second (.outside (.clock (by decide))) fun _ j here => ?_
    obtain rfl := Option.some.inj here
    show ∀ t ∈ [8], 8 ≤ t
    decide
  exact done.along sound_spareStart (becomes_advance hurriedRouter [0, 0] _) rfl

/-- Its first attempt was cut off at the deadline, its second one took its time, and the call has
kept within its budget. -/
theorem hurried_call_keeps_budget :
    ∃ j, hurriedEnd.journeys[0]? = some j ∧ j.phase = .ended (.ok (.text "hello")) ∧
      keysOf j.legs = ["lost", "spare"] ∧ expiry? j.legs = some 0 ∧
      j.KeepsBudget hurriedRouter hurriedPolicy 3 hurriedEnd.state
        ⟨some 0, [0, 3], [3, 8], some 8⟩ :=
  ⟨_, rfl, rfl, rfl, rfl,
    call_keeps_budget sound_spareStart watched_hurriedEnd rfl rfl rfl⟩

end World

end TrialRouting
