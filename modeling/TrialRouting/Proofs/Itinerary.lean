import TrialRouting.Proofs.TrialKeys

/-!
# Itineraries

The itinerary of a trial for a primary key is what its error policy comes to if every
attempt fails: the primary key and then the keys of the policy, each once, in order. A
deadline that is missed cuts the itinerary short and appends the key of the timeout
action.

The law of a call's progress is that the keys attempted and the keys still ahead are
together the itinerary. A failure that is followed by another attempt moves one key from
ahead to attempted; a call that gives up has none ahead. Keys that a plan repeats, or
that have been attempted before, take no part.
-/

namespace TrialRouting

/-- The keys of a plan that have not been attempted, in order, each once. -/
def untried (attempted plan : List String) : List String :=
  (plan.filter (!attempted.contains ·)).eraseDups

/-- Attempted keys at the front of a plan are passed over. They take no part in what is untried, so
that a plan may be cut down to its first new key without changing it. -/
theorem untried_dropWhile (attempted plan : List String) :
    untried attempted (plan.dropWhile (attempted.contains ·)) = untried attempted plan := by
  induction plan with
  | nil => rfl
  | cons key rest ih =>
    cases known : attempted.contains key with
    | false => rw [List.dropWhile_cons_of_neg (by rw [known]; exact Bool.false_ne_true)]
    | true =>
      have passed : untried attempted (key :: rest) = untried attempted rest := by
        simp only [untried, List.filter_cons, known, Bool.not_true, Bool.false_eq_true, if_false]
      rw [List.dropWhile_cons_of_pos known, ih, passed]

/-- Nothing is left of a plan of attempted keys. -/
theorem untried_of_dropWhile_nil {attempted plan : List String}
    (used : plan.dropWhile (attempted.contains ·) = []) : untried attempted plan = [] := by
  rw [← untried_dropWhile, used]
  rfl

/-- The next key of a plan is the first that has not been attempted. Once it is attempted too, what
is untried is what was untried after it, so that a key that the plan repeats is not tried a second
time. -/
theorem untried_of_dropWhile_cons {attempted plan rest : List String} {key : String}
    (next : plan.dropWhile (attempted.contains ·) = key :: rest) :
    untried attempted plan = key :: untried (attempted ++ [key]) rest := by
  have new : attempted.contains key = false := by
    have stopped := List.head?_dropWhile_not (attempted.contains ·) plan
    simpa only [next, List.head?_cons] using stopped
  rw [← untried_dropWhile, next, untried, List.filter_cons, new]
  simp only [Bool.not_false, if_true, List.eraseDups_cons, List.filter_filter, untried,
    List.cons.injEq, true_and]
  congr 2
  funext other
  simp only [List.contains_append, List.contains_cons, List.contains_nil, Bool.or_false,
    Bool.not_or, Bool.and_comm]

/-- A plan of a single key, or of none, is taken or left: there is nothing in it that could be
repeated. -/
theorem untried_action (attempted : List String) (r : Registration) (action : TimeoutAction) :
    untried attempted (action.plan r) = (action.plan r).filter (!attempted.contains ·) := by
  have single (key : String) :
      untried attempted [key] = [key].filter (!attempted.contains ·) := by
    cases known : attempted.contains key <;>
      simp only [untried, List.filter_cons, known, List.filter_nil] <;> rfl
  cases action with
  | throw => rfl
  | fallbackToDefault => exact single _
  | fallbackToSpecific key => exact single key

/-- A timeout action plans at most one key. -/
theorem TimeoutAction.length_plan_le (action : TimeoutAction) (r : Registration) :
    (action.plan r).length ≤ 1 := by
  cases action with
  | throw => exact Nat.zero_le 1
  | fallbackToDefault => exact Nat.le_refl 1
  | fallbackToSpecific _ => exact Nat.le_refl 1

/-- Nothing of a timeout action's plan is left after its key. -/
theorem untried_action_rest {attempted rest : List String} {r : Registration}
    {action : TimeoutAction} {key : String}
    (next : untried attempted (action.plan r) = key :: rest) : rest = [] := by
  have short := action.length_plan_le r
  have fewer := List.length_filter_le (!attempted.contains ·) (action.plan r)
  rw [← untried_action, next, List.length_cons] at fewer
  exact List.length_eq_zero_iff.mp (by omega)

namespace Registration

/-- The keys of a call all of whose attempts fail: the primary key and then those of the
error policy, each once. -/
def itinerary (r : Registration) (primary : String) : List String :=
  (primary :: r.onError.plan r).eraseDups

/-- The keys that the timeout action names, if the trial has a deadline. -/
def detour (r : Registration) : List String :=
  r.timeout.toList.flatMap (·.action.plan r)

/-- The keys of a call all of whose attempts fail. If the deadline expires during one of
them, given by its number, the keys up to that one are followed by the timeout action's,
unless that is among them, and by nothing more. -/
def route (r : Registration) (primary : String) : Option Nat → List String
  | none => r.itinerary primary
  | some n =>
      let made := (r.itinerary primary).take (n + 1)
      made ++ r.detour.filter (!made.contains ·)

/-- An itinerary begins with the primary key, and goes on with the keys of the error policy that are
not that one, each once. This ties the specification to what a call's progress keeps track of. -/
theorem itinerary_eq (r : Registration) (primary : String) :
    r.itinerary primary = primary :: untried [primary] (r.onError.plan r) := by
  have others : (fun key => !key == primary) = fun key => !([primary].contains key) := by
    funext key
    simp only [List.contains_cons, List.contains_nil, Bool.or_false]
  rw [itinerary, List.eraseDups_cons, others, untried]

/-- A route begins with the primary key too, whichever attempt the deadline expires in: at the
earliest it is cut after the first key. -/
theorem exists_route_eq (r : Registration) (primary : String) (expiry : Option Nat) :
    ∃ rest, r.route primary expiry = primary :: rest := by
  cases expiry with
  | none => exact ⟨_, r.itinerary_eq primary⟩
  | some n =>
    rw [route, r.itinerary_eq primary, List.take_succ_cons, List.cons_append]
    exact ⟨_, rfl⟩

/-- The keys that a failed primary attempt plans are those of the error policy. A redirection leaves
out the key that has just failed, which is untried in neither list; so the two agree but for
that. -/
theorem untried_keys (r : Registration) (primary : String) :
    untried [primary] ((Trigger.error r.onError).keys r primary) =
      untried [primary] (r.onError.plan r) := by
  cases r.onError with
  | throw => rfl
  | redirectToDefault =>
    simp only [Trigger.keys, OnError.plan]
    split
    · next same => simp [untried, same]
    · rfl
  | redirectToAny =>
    have twice : (fun key => !([primary].contains key) && decide (key ≠ primary)) =
        fun key => !([primary].contains key) := by
      funext key
      simp
    simp only [Trigger.keys, OnError.plan, untried, List.filter_filter, twice]
  | redirectToSpecific key => rfl
  | redirectOrdered keys => rfl

/-- Every key of a valid trial's route is a trial key: the primary key by assumption, the keys of
the error policy and of the timeout action because a draft that names others is not built. -/
theorem Valid.mem_keys_of_route {r : Registration} (valid : r.Valid) {primary key : String}
    (known : primary ∈ r.keys) {expiry : Option Nat} (member : key ∈ r.route primary expiry) :
    key ∈ r.keys := by
  have planned {key : String} (member : key ∈ r.itinerary primary) : key ∈ r.keys := by
    rw [itinerary, List.mem_eraseDups] at member
    rcases List.mem_cons.mp member with rfl | later
    · exact known
    · exact valid.afterError key later
  cases expiry with
  | none => exact planned member
  | some n =>
    rcases List.mem_append.mp member with before | after
    · exact planned (List.mem_of_mem_take before)
    · obtain ⟨policy, set, named⟩ := List.mem_flatMap.mp (List.mem_filter.mp after).1
      exact valid.afterTimeout policy (Option.mem_toList.mp set) key named

end Registration

namespace Progress

/-- The keys still ahead of a call if all its attempts fail. Before the first failure
nothing has been planned, and the error policy decides. -/
def ahead (p : Progress) (r : Registration) : List String :=
  untried p.attempted (p.plan.getD ((Trigger.error r.onError).keys r p.current))

/-- At the start of a call the itinerary is the primary key and what is ahead. -/
theorem start_ahead (r : Registration) (primary : String) :
    (start primary).attempted ++ (start primary).ahead r = r.itinerary primary := by
  rw [Registration.itinerary_eq, ← Registration.untried_keys]
  rfl

/-- After a failed attempt the keys ahead are those planned then. -/
theorem untried_planAfter_error (p : Progress) (r : Registration) :
    untried p.attempted (p.planAfter r (.error r.onError)) = p.ahead r := by
  cases plan : p.plan <;> simp [planAfter, ahead, plan, Trigger.isTimeout]

/-- A missed deadline replaces the plan by the timeout action's. -/
theorem planAfter_timeout (p : Progress) (r : Registration) (action : TimeoutAction) :
    p.planAfter r (.timeout action) = action.plan r := by
  have keys : (Trigger.timeout action).keys r p.current = action.plan r := by
    cases action <;> rfl
  cases plan : p.plan <;> simp [planAfter, plan, Trigger.isTimeout, keys]

/-- A call that goes on attempts the next planned key, and the rest of the plan is ahead. Together
with what has been attempted this is the same list as before, with one key moved from the one part
to the other. -/
theorem attempted_of_advance {p next : Progress} {r : Registration} {f : Failure} {t : Trigger}
    {key : String} (goesOn : p.advance (α := Value) r (.error f) t = (next, .attempt key)) :
    next.current = key ∧ next.attempted = p.attempted ++ [key] ∧
      untried p.attempted (p.planAfter r t) = key :: next.ahead r := by
  simp only [advance] at goesOn
  split at goesOn
  · simp at goesOn
  · next first rest planned =>
    simp only [Prod.mk.injEq, NextMove.attempt.injEq] at goesOn
    obtain ⟨rfl, rfl⟩ := goesOn
    exact ⟨rfl, rfl, untried_of_dropWhile_cons planned⟩

/-- A call that gives up has no planned key left, and it ends with its last failure. So what it has
attempted is all that there was to attempt. -/
theorem untried_of_giveUp {p next : Progress} {r : Registration} {f g : Failure} {t : Trigger}
    (gaveUp : p.advance (α := Value) r (.error f) t = (next, .giveUp g)) :
    untried p.attempted (p.planAfter r t) = [] ∧ g = f := by
  simp only [advance] at gaveUp
  split at gaveUp
  · next planned =>
    simp only [Prod.mk.injEq, NextMove.giveUp.injEq] at gaveUp
    exact ⟨untried_of_dropWhile_nil planned, gaveUp.2.symm⟩
  · simp at gaveUp

end Progress

end TrialRouting
