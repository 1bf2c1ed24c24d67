import Mathlib.Data.List.Nodup
import Mathlib.Data.List.Perm.Subperm
import Mathlib.Data.List.TakeWhile
import TrialRouting.Proofs.TrialKeys

/-!
# Progress under any triggers

The progress of a call may be told of attempts in orders that no router produces: error policies
and timeout actions mixed freely, any number of missed deadlines, more news after an end. Whatever
it is told, it attempts no key twice.

Of a plan it keeps what is left. The law is about the whole plan in force, which the first failure
makes and every missed deadline replaces: what is no longer left of it has been attempted. So the
key that follows a failure is the first of the whole plan that has not been attempted, and how much
of the plan has been used up makes no difference. Each further attempt is on a new key, which
bounds how many there can be.
-/

namespace TrialRouting

/-- What a call's progress is told: what an attempt has come to, and what plans the keys that
follow if it has failed. -/
structure News (α ε : Type) where
  outcome : Except ε α
  trigger : Trigger

/-- Whether a further attempt is to be made. -/
def NextMove.isAttempt {α ε : Type} : NextMove α ε → Bool
  | .attempt _ => true
  | .succeed _ => false
  | .giveUp _ => false

namespace Trigger

/-- The keys that a trigger names itself. -/
def named : Trigger → List String
  | .error (.redirectToSpecific key) => [key]
  | .error (.redirectOrdered keys) => keys
  | .timeout (.fallbackToSpecific key) => [key]
  | _ => []

/-- The whole plan in force after a failed attempt on a key: the first failure makes it, a missed
deadline replaces it, and a later error leaves it as it is. -/
def replan (t : Trigger) (r : Registration) (failed : String) : Option (List String) → List String
  | none => t.keys r failed
  | some plan =>
      match t with
      | .error _ => plan
      | .timeout _ => t.keys r failed

/-- A trigger plans nothing but the keys that it names itself and keys of the trial. A redirection
to the default or to any trial takes its keys from the trial; every other trigger has its own, and
giving up plans none. -/
theorem mem_keys {t : Trigger} {r : Registration} {failed key : String}
    (planned : key ∈ t.keys r failed) : key = r.defaultKey ∨ key ∈ r.keys ∨ key ∈ t.named := by
  cases t with
  | error policy =>
    cases policy with
    | throw => cases planned
    | redirectToDefault =>
      simp only [keys] at planned
      split at planned
      · cases planned
      · exact .inl (List.mem_singleton.mp planned)
    | redirectToAny => exact .inr (.inl (List.mem_filter.mp planned).1)
    | redirectToSpecific other => exact .inr (.inr planned)
    | redirectOrdered keys => exact .inr (.inr planned)
  | timeout action =>
    cases action with
    | throw => cases planned
    | fallbackToDefault => exact .inl (List.mem_singleton.mp planned)
    | fallbackToSpecific other => exact .inr (.inr planned)

end Trigger

namespace Progress

variable {α ε : Type} {r : Registration} {p : Progress} {primary : String}
  {whole : Option (List String)} {told : List (News α ε)}

/-- The progress of a call after it has been told some news, one after another. -/
def after (r : Registration) (p : Progress) : List (News α ε) → Progress
  | [] => p
  | n :: rest => after r (p.advance r n.outcome n.trigger).1 rest

/-- What it has answered. -/
def answers (r : Registration) (p : Progress) : List (News α ε) → List (NextMove α ε)
  | [] => []
  | n :: rest =>
      (p.advance r n.outcome n.trigger).2 ::
        answers r (p.advance r n.outcome n.trigger).1 rest

/-- The whole plan in force after some news. A success changes nothing. -/
def wholePlan (r : Registration) (p : Progress) (whole : Option (List String)) :
    List (News α ε) → Option (List String)
  | [] => whole
  | ⟨.ok _, _⟩ :: rest => wholePlan r p whole rest
  | ⟨.error f, t⟩ :: rest =>
      wholePlan r (p.advance (α := α) r (.error f) t).1 (some (t.replan r p.current whole)) rest

/-- A call's progress since its primary attempt, with the whole plan in force. -/
structure KeepsPlan (primary : String) (whole : Option (List String)) (p : Progress) : Prop where
  first : p.attempted.head? = some primary
  last : p.attempted.getLast? = some p.current
  once : p.attempted.Nodup
  unplanned : whole = none → p.plan = none
  /-- The plan is used up from the front, and what has been used up has been attempted. -/
  left : ∀ plan, whole = some plan → ∃ used rest, p.plan = some rest ∧ plan = used ++ rest ∧
    ∀ key ∈ used, key ∈ p.attempted

/-- A call that has come to its primary attempt has no plan: it is the first failure that makes one.
So there is nothing yet of which something could have been used up. -/
theorem keepsPlan_start (primary : String) : (start primary).KeepsPlan primary none where
  first := rfl
  last := rfl
  once := List.nodup_singleton primary
  unplanned := fun _ => rfl
  left := fun _ impossible => by cases impossible

/-- What is left of a plan after a failure is what is left of the whole plan then. If the failure
makes or replaces the plan, nothing of it has been used up; otherwise the plan is the one before,
and so is the part of it that has been attempted. -/
theorem KeepsPlan.replan_eq (keeps : p.KeepsPlan primary whole) (r : Registration) (t : Trigger) :
    ∃ used, t.replan r p.current whole = used ++ p.planAfter r t ∧
      ∀ key ∈ used, key ∈ p.attempted := by
  cases whole with
  | none =>
    refine ⟨[], ?_, fun _ impossible => absurd impossible List.not_mem_nil⟩
    simp only [Trigger.replan, planAfter, keeps.unplanned rfl, List.nil_append]
  | some plan =>
    obtain ⟨used, rest, planned, split, attempted⟩ := keeps.left plan rfl
    cases t with
    | error policy =>
      refine ⟨used, ?_, attempted⟩
      simp only [Trigger.replan, planAfter, planned, Trigger.isTimeout, Bool.false_eq_true,
        if_false]
      exact split
    | timeout action =>
      refine ⟨[], ?_, fun _ impossible => absurd impossible List.not_mem_nil⟩
      simp only [Trigger.replan, planAfter, planned, Trigger.isTimeout, if_true, List.nil_append]

/-- The next key of a plan is the first of the whole plan that has not been attempted. The progress
only looks at what is left of the plan, but what is missing there has been attempted and would be
passed over anyway. -/
theorem KeepsPlan.find?_eq (keeps : p.KeepsPlan primary whole) (r : Registration) (t : Trigger) :
    (t.replan r p.current whole).find? (!p.attempted.contains ·) =
      ((p.planAfter r t).dropWhile (p.attempted.contains ·)).head? := by
  obtain ⟨used, split, attempted⟩ := keeps.replan_eq r t
  have nothing : used.find? (!p.attempted.contains ·) = none := by
    rw [List.find?_eq_none]
    intro key member
    simpa using attempted key member
  rw [split, List.find?_append, nothing, Option.none_or, List.find?_not_eq_head?_dropWhile]

/-- A failure is followed by an attempt on the first key of the plan that is new. -/
theorem KeepsPlan.advance_of_some (keeps : p.KeepsPlan primary whole) {t : Trigger} {key : String}
    (next : (t.replan r p.current whole).find? (!p.attempted.contains ·) = some key) (f : ε) :
    ∃ passed rest, p.planAfter r t = passed ++ key :: rest ∧
      (∀ other ∈ passed, other ∈ p.attempted) ∧
      p.advance (α := α) r (.error f) t =
        ({ current := key, attempted := p.attempted ++ [key], plan := some rest },
          .attempt key) := by
  rw [keeps.find?_eq r t] at next
  obtain ⟨rest, untried⟩ := List.head?_eq_some_iff.mp next
  refine ⟨(p.planAfter r t).takeWhile (p.attempted.contains ·), rest, ?_, ?_, ?_⟩
  · rw [← untried, List.takeWhile_append_dropWhile]
  · intro other member
    simpa using List.mem_takeWhile_imp member
  · simp only [advance, untried]

/-- If no key of the plan is new the call gives up, with the failure it has just met. -/
theorem KeepsPlan.advance_of_none (keeps : p.KeepsPlan primary whole) {t : Trigger}
    (nothing : (t.replan r p.current whole).find? (!p.attempted.contains ·) = none) (f : ε) :
    p.advance (α := α) r (.error f) t = ({ p with plan := some [] }, .giveUp f) := by
  rw [keeps.find?_eq r t, List.head?_eq_none_iff] at nothing
  simp only [advance, nothing]

/-- A failure keeps the law, for the plan in force then. If a key of it is new, the plan is used up
to that key and the key itself is attempted. If none is new, all of the plan has been attempted, so
that all of it may count as used up. -/
theorem KeepsPlan.advance (keeps : p.KeepsPlan primary whole) (r : Registration) (f : ε)
    (t : Trigger) : (p.advance (α := α) r (.error f) t).1.KeepsPlan primary
      (some (t.replan r p.current whole)) := by
  obtain ⟨used, split, attempted⟩ := keeps.replan_eq r t
  cases next : (t.replan r p.current whole).find? (!p.attempted.contains ·) with
  | none =>
    rw [keeps.advance_of_none next]
    refine ⟨keeps.first, keeps.last, keeps.once, (fun impossible => nomatch impossible), ?_⟩
    rintro _ ⟨⟩
    refine ⟨t.replan r p.current whole, [], rfl, (List.append_nil _).symm, fun key member => ?_⟩
    simpa using List.find?_eq_none.mp next key member
  | some key =>
    obtain ⟨passed, rest, planned, before, advanced⟩ :=
      keeps.advance_of_some (α := α) next f
    have new : key ∉ p.attempted := by simpa using List.find?_some next
    rw [advanced]
    refine ⟨?_, List.getLast?_concat, ?_, (fun impossible => nomatch impossible), ?_⟩
    · rw [List.head?_append, keeps.first, Option.some_or]
    · exact List.nodup_append.mpr ⟨keeps.once, List.nodup_singleton key, fun other known =>
        fun _ single => fun same => new (List.mem_singleton.mp single ▸ same ▸ known)⟩
    · rintro _ ⟨⟩
      refine ⟨used ++ passed ++ [key], rest, rfl, ?_, ?_⟩
      · rw [split, planned]
        simp only [List.append_assoc, List.singleton_append]
      · intro other member
        simp only [List.mem_append] at member ⊢
        rcases member with (earlier | skipped) | taken
        · exact .inl (attempted other earlier)
        · exact .inl (before other skipped)
        · exact .inr taken

/-- Whatever a call's progress is told, it keeps the law. The induction follows the news: a success
changes nothing, and a failure keeps the law by the step lemma. -/
theorem KeepsPlan.after (keeps : p.KeepsPlan primary whole) (r : Registration)
    (told : List (News α ε)) :
    (p.after r told).KeepsPlan primary (p.wholePlan r whole told) := by
  induction told generalizing p whole with
  | nil => exact keeps
  | cons n rest ih =>
    obtain ⟨outcome, t⟩ := n
    cases outcome with
    | ok v => exact ih keeps
    | error f => exact ih (keeps.advance r f t)

/-- Only keys that are planned are attempted, so what holds of the keys that a call has attempted
and planned, and of all keys that may still be planned, goes on to hold. What is left of a plan has
to be part of the law, since a later piece of news may use it up. -/
theorem attempted_after {known : String → Prop} (triggers : ∀ n ∈ told, ∀ failed,
      ∀ key ∈ n.trigger.keys r failed, known key)
    (attempted : ∀ key ∈ p.attempted, known key)
    (planned : ∀ plan, p.plan = some plan → ∀ key ∈ plan, known key) :
    ∀ key ∈ (p.after r told).attempted, known key := by
  induction told generalizing p with
  | nil => exact attempted
  | cons n rest ih =>
    obtain ⟨outcome, t⟩ := n
    obtain ⟨now, later⟩ := List.forall_mem_cons.mp triggers
    cases outcome with
    | ok v => exact ih later attempted planned
    | error f =>
      have inForce : ∀ key ∈ p.planAfter r t, known key := by
        intro key member
        simp only [planAfter] at member
        split at member
        · exact now p.current key member
        · next plan left =>
          split at member
          · exact now p.current key member
          · exact planned plan left key member
      have untried : ∀ key ∈ (p.planAfter r t).dropWhile (p.attempted.contains ·), known key :=
        fun key member => inForce key ((List.dropWhile_sublist _).subset member)
      simp only [after, advance]
      split
      · refine ih later attempted ?_
        rintro _ ⟨⟩ key impossible
        cases impossible
      · next key left next =>
        rw [next] at untried
        obtain ⟨taken, others⟩ := List.forall_mem_cons.mp untried
        refine ih later ?_ ?_
        · intro other member
          rcases List.mem_append.mp member with before | new
          · exact attempted other before
          · exact List.mem_singleton.mp new ▸ taken
        · rintro _ ⟨⟩
          exact others

/-- Each further attempt is one more key: an answer asks for one exactly when its key is appended to
those attempted. So the answers can be counted by the keys. -/
theorem countP_answers (r : Registration) (p : Progress) (told : List (News α ε)) :
    (p.answers r told).countP (·.isAttempt) + p.attempted.length =
      (p.after r told).attempted.length := by
  induction told generalizing p with
  | nil => exact Nat.zero_add _
  | cons n rest ih =>
    have step : (if (p.advance r n.outcome n.trigger).2.isAttempt then 1 else 0) +
        p.attempted.length = (p.advance r n.outcome n.trigger).1.attempted.length := by
      obtain ⟨outcome, t⟩ := n
      cases outcome with
      | ok v => exact Nat.zero_add _
      | error f =>
        cases untried : (p.planAfter r t).dropWhile (p.attempted.contains ·) with
        | nil => simp only [advance, untried, NextMove.isAttempt, Bool.false_eq_true, if_false,
            Nat.zero_add]
        | cons key left =>
          simp only [advance, untried, NextMove.isAttempt, if_true, List.length_append,
            List.length_singleton]
          exact Nat.add_comm _ _
    rw [after, ← ih, ← step, answers, List.countP_cons]
    omega

/-- What a call's progress answers does not depend on what it is told later. -/
theorem take_answers (r : Registration) (p : Progress) (told : List (News α ε)) (n : Nat) :
    (p.answers r told).take n = p.answers r (told.take n) := by
  induction told generalizing p n with
  | nil => simp only [List.take_nil, answers]
  | cons first rest ih =>
    cases n with
    | zero => rfl
    | succ n => simp only [answers, List.take_succ_cons, ih]

/-- The index of the latest attempt is the number of keys attempted before, in 32 bits. Beyond these
it starts again from zero. -/
theorem toNat_index (p : Progress) : p.index.toNat = (p.attempted.length - 1) % UInt32.size :=
  UInt32.toNat_ofNat'

/-- As long as that number fits into 32 bits, the index is one less than the number of keys
attempted. The primary key is always among them, so that the difference is no truncated one. -/
theorem toNat_index_add_one (attempted : p.attempted ≠ [])
    (few : p.attempted.length ≤ UInt32.size) : p.index.toNat + 1 = p.attempted.length := by
  have positive : 0 < p.attempted.length := List.length_pos_iff.mpr attempted
  rw [toNat_index, Nat.mod_eq_of_lt (by omega)]
  exact Nat.sub_add_cancel positive

/-- What a call's progress keeps to, having started with a primary key and been told some news:
where it stands, and how it answers what it is told next. -/
structure FollowsPlans (r : Registration) (primary : String) (told : List (News α ε))
    (whole : Option (List String)) (p : Progress) : Prop where
  /-- The keys attempted begin with the primary key, end with the current one, and no key is
  among them twice. -/
  keeps : p.KeepsPlan primary whole
  /-- The index of the latest attempt is one less than the number of keys attempted. It is counted
  in 32 bits, and starts again from zero beyond them. -/
  index : p.attempted.length ≤ UInt32.size → p.index.toNat + 1 = p.attempted.length
  wraps : p.index.toNat = (p.attempted.length - 1) % UInt32.size
  /-- A failure moves on to the first key of the plan in force that has not been attempted. With it
  the keys before it are taken off what was left of the plan. -/
  moves : ∀ (f : ε) t key,
    (t.replan r p.current whole).find? (!p.attempted.contains ·) = some key →
      ∃ passed rest, p.planAfter r t = passed ++ key :: rest ∧
        (∀ other ∈ passed, other ∈ p.attempted) ∧
        p.advance (α := α) r (.error f) t =
          ({ current := key, attempted := p.attempted ++ [key], plan := some rest },
            .attempt key)
  /-- If there is none, the call gives up with that failure, and only the plan is changed, of
  which nothing is left. -/
  givesUp : ∀ (f : ε) t,
    (t.replan r p.current whole).find? (!p.attempted.contains ·) = none →
      p.advance (α := α) r (.error f) t = ({ p with plan := some [] }, .giveUp f)
  /-- A success is answered with its value and changes nothing. -/
  succeeds : ∀ (v : α) t, p.advance (ε := ε) r (.ok v) t = (p, .succeed v)
  known : ∀ key ∈ p.attempted, key = primary ∨ key ∈ r.keys ∨ ∃ n ∈ told, key ∈ n.trigger.named

/-- Further attempts are limited: each is on a new trial key, and so there are fewer of them than
trials. Of as many answers as there are trials at least one does not ask for another attempt. -/
structure Ends (r : Registration) (p : Progress) (answers : List (NextMove α ε)) : Prop where
  fewer : answers.countP (·.isAttempt) ≤ r.trials.length - 1
  inRange : p.index.toNat < r.trials.length
  last : r.trials.length ≤ answers.length →
    ∃ answer ∈ answers.take r.trials.length, ∀ key, answer ≠ .attempt key

/-- A call attempts its primary key, and otherwise keys of the trial and keys that it has been told
of. -/
theorem attempted_of_start (valid : r.Valid) (primary : String) (told : List (News α ε)) :
    ∀ key ∈ ((start primary).after r told).attempted,
      key = primary ∨ key ∈ r.keys ∨ ∃ n ∈ told, key ∈ n.trigger.named := by
  refine attempted_after ?_ ?_ (fun _ impossible => by cases impossible)
  · intro n member failed key planned
    rcases Trigger.mem_keys planned with rfl | trial | named
    · exact .inr (.inl valid.byDefault)
    · exact .inr (.inl trial)
    · exact .inr (.inr ⟨n, member, named⟩)
  · exact fun key single => .inl (List.mem_singleton.mp single)

/-- If those are all keys of the trial, there are no more attempts than trials, since each is on
another key. A list without repetition that is contained in another is not longer than that one. -/
theorem length_attempted_le (valid : r.Valid) (trial : primary ∈ r.keys)
    (named : ∀ n ∈ told, ∀ key ∈ n.trigger.named, key ∈ r.keys) :
    ((start primary).after r told).attempted.length ≤ r.trials.length := by
  have once := ((keepsPlan_start primary).after r told).once
  have among : ∀ key ∈ ((start primary).after r told).attempted, key ∈ r.keys := by
    intro key attempted
    rcases attempted_of_start valid primary told key attempted with rfl | own | ⟨n, member, own⟩
    · exact trial
    · exact own
    · exact named n member key own
  have fewer := (once.subperm among).length_le
  rwa [Registration.keys, List.length_map] at fewer

/-- The primary attempt is one of them, and so fewer of the answers ask for a further one. -/
theorem countP_answers_lt (valid : r.Valid) (trial : primary ∈ r.keys)
    (named : ∀ n ∈ told, ∀ key ∈ n.trigger.named, key ∈ r.keys) :
    ((start primary).answers r told).countP (·.isAttempt) < r.trials.length := by
  have attempts := length_attempted_le valid trial named
  rw [← countP_answers] at attempts
  exact attempts

/-- If there are as many answers as trials, one of that many does not ask for a further attempt.
What has been told by then names trial keys only, too, and what is told later makes no difference to
the answers so far; so the bound on the number of further attempts applies to them alone. -/
theorem exists_last_answer (valid : r.Valid) (trial : primary ∈ r.keys)
    (named : ∀ n ∈ told, ∀ key ∈ n.trigger.named, key ∈ r.keys)
    (enough : r.trials.length ≤ ((start primary).answers r told).length) :
    ∃ answer ∈ ((start primary).answers r told).take r.trials.length,
      ∀ key, answer ≠ .attempt key := by
  by_contra others
  simp only [not_exists, not_and, not_forall, not_not] at others
  have length : (((start primary).answers r told).take r.trials.length).length =
      r.trials.length := by
    rw [List.length_take, Nat.min_eq_left enough]
  have all : (((start primary).answers r told).take r.trials.length).countP (·.isAttempt) =
      r.trials.length := by
    refine Eq.trans (List.countP_eq_length.mpr ?_) length
    intro answer member
    obtain ⟨key, rfl⟩ := others answer member
    rfl
  have notAll := countP_answers_lt valid trial
    fun n (member : n ∈ told.take r.trials.length) => named n (List.mem_of_mem_take member)
  rw [← take_answers] at notAll
  exact Nat.ne_of_lt notAll all

/-- Whatever the progress of a call is told, in whatever order errors and missed deadlines come and
whatever they name, it follows the plans: the one that the first failure makes, until a missed
deadline replaces it by another. If the triggers name trial keys only, it soon comes to an end.

Proof: the law that `KeepsPlan` states holds at the start and is kept by every piece of news, so it
holds after all of them; what comes next can be read off it. No key is attempted twice, so that
there are no more attempts than trials. -/
theorem follows_plans {d : Draft} (built : d.build = .ok r) (primary : String)
    (told : List (News α ε)) :
    FollowsPlans r primary told ((start primary).wholePlan r none told)
        ((start primary).after r told) ∧
      (primary ∈ r.keys → (∀ n ∈ told, ∀ key ∈ n.trigger.named, key ∈ r.keys) →
        Ends r ((start primary).after r told) ((start primary).answers r told)) := by
  have valid : r.Valid := Draft.valid_of_build built
  have keeps := (keepsPlan_start primary).after r told
  have attempted : ((start primary).after r told).attempted ≠ [] := by
    intro empty
    have first := keeps.first
    rw [empty] at first
    cases first
  refine ⟨⟨keeps, toNat_index_add_one attempted, toNat_index _,
    fun f _ _ next => keeps.advance_of_some next f,
    fun f _ nothing => keeps.advance_of_none nothing f,
    fun _ _ => rfl, attempted_of_start valid primary told⟩, fun trial named => ?_⟩
  have positive : 0 < ((start primary).after r told).attempted.length :=
    List.length_pos_iff.mpr attempted
  have most := length_attempted_le valid trial named
  exact
    { fewer := Nat.le_sub_one_of_lt (countP_answers_lt valid trial named)
      inRange := by
        rw [toNat_index]
        exact (Nat.mod_le _ _).trans_lt (by omega)
      last := exists_last_answer valid trial named }

/-- Three trials, of which the first is the default. -/
private def threeKeys : Draft :=
  { service := "search", defaultKey := some "a"
    trials := [⟨"a", "first"⟩, ⟨"b", "second"⟩, ⟨"c", "third"⟩] }

/-- A missed deadline between two failures, a success after the end, and another missed deadline
after it. -/
private def mixedNews : List (News Nat String) :=
  [⟨.error "no", .error (.redirectOrdered ["b", "a", "c"])⟩,
    ⟨.error "late", .timeout (.fallbackToSpecific "c")⟩,
    ⟨.error "lost", .error .redirectToAny⟩, ⟨.ok 3, .error .throw⟩,
    ⟨.error "late again", .timeout .fallbackToDefault⟩]

/-- Told of them, a call that starts on the second key comes to all three, and no further. -/
theorem mixed_news_follow_plans :
    ∃ r, threeKeys.build = .ok r ∧ "b" ∈ r.keys ∧
      (∀ n ∈ mixedNews, ∀ key ∈ n.trigger.named, key ∈ r.keys) ∧
      FollowsPlans r "b" mixedNews ((start "b").wholePlan r none mixedNews)
        ((start "b").after r mixedNews) ∧
      ((start "b").after r mixedNews).attempted = ["b", "a", "c"] ∧
      (start "b").answers r mixedNews = [.attempt "a", .attempt "c", .giveUp "lost", .succeed 3,
        .giveUp "late again"] ∧
      Ends r ((start "b").after r mixedNews) ((start "b").answers r mixedNews) := by
  obtain ⟨r, built, trial, named, keys, answered⟩ : ∃ r, threeKeys.build = .ok r ∧ "b" ∈ r.keys ∧
      (∀ n ∈ mixedNews, ∀ key ∈ n.trigger.named, key ∈ r.keys) ∧
      ((start "b").after r mixedNews).attempted = ["b", "a", "c"] ∧
      (start "b").answers r mixedNews = [.attempt "a", .attempt "c", .giveUp "lost", .succeed 3,
        .giveUp "late again"] :=
    ⟨_, rfl, by decide, by decide, rfl, rfl⟩
  obtain ⟨follows, ends⟩ := follows_plans built "b" mixedNews
  exact ⟨r, built, trial, named, follows, keys, answered, ends trial named⟩

end Progress

end TrialRouting
