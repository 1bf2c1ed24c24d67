import TrialRouting.Registration.Basic

/-!
# Fallback plans

A call starts with its primary key. The first failure plans the keys that follow
from the error policy, a missed deadline replaces the plan by the timeout action's,
and every further failure moves on along the plan. A key is attempted once per
call. A call whose plan is used up ends with the failure it has just met.
-/

namespace TrialRouting

/-- What ended the last attempt, with the policy that plans what follows. -/
inductive Trigger where
  | error (policy : OnError)
  | timeout (action : TimeoutAction)
  deriving DecidableEq, Repr

namespace Trigger

/-- Whether the deadline ended the attempt. -/
def isTimeout : Trigger → Bool
  | error _ => false
  | timeout _ => true

/-- The keys to try after `failed`, attempted ones included. -/
def keys (r : Registration) (failed : String) : Trigger → List String
  | error .throw => []
  | error .redirectToDefault => if failed = r.defaultKey then [] else [r.defaultKey]
  | error .redirectToAny => r.keys.filter (· ≠ failed)
  | error (.redirectToSpecific key) => [key]
  | error (.redirectOrdered keys) => keys
  | timeout .throw => []
  | timeout .fallbackToDefault => [r.defaultKey]
  | timeout (.fallbackToSpecific key) => [key]

end Trigger

/-- Where a call stands among its attempts. -/
structure Progress where
  /-- Key of the latest attempt. -/
  current : String
  /-- Keys attempted so far, in order. -/
  attempted : List String
  /-- Keys still planned; none before the first failure. -/
  plan : Option (List String)
  deriving DecidableEq, Repr

/-- What follows an attempt. -/
inductive NextMove (α ε : Type) where
  /-- Another key is attempted. -/
  | attempt (key : String)
  /-- The call ends with a value. -/
  | succeed (value : α)
  /-- The call ends with a failure. -/
  | giveUp (failure : ε)
  deriving Repr

namespace Progress

/-- The start of a call. -/
def start (primary : String) : Progress :=
  { current := primary, attempted := [primary], plan := none }

/-- The number of the latest attempt, from zero, in 32 bits. -/
def index (p : Progress) : UInt32 :=
  (p.attempted.length - 1).toUInt32

/-- The keys planned after a failure: the plan in force, unless there is none yet
    or the deadline has replaced it. -/
def planAfter (p : Progress) (r : Registration) (t : Trigger) : List String :=
  match p.plan with
  | none => t.keys r p.current
  | some plan => if t.isTimeout then t.keys r p.current else plan

/-- What follows the outcome of the latest attempt. -/
def advance {α ε : Type} (p : Progress) (r : Registration) (outcome : Except ε α)
    (t : Trigger) : Progress × NextMove α ε :=
  match outcome with
  | .ok value => (p, .succeed value)
  | .error failure =>
      match (p.planAfter r t).dropWhile (p.attempted.contains ·) with
      | [] => ({ p with plan := some [] }, .giveUp failure)
      | key :: rest =>
          ({ current := key, attempted := p.attempted ++ [key], plan := some rest },
            .attempt key)

/-- A key that is attempted next is taken off the plan. -/
theorem plan_advance {α ε : Type} {p next : Progress} {r : Registration}
    {outcome : Except ε α} {t : Trigger} {key : String}
    (goesOn : p.advance r outcome t = (next, .attempt key)) :
    ∃ rest, next.plan = some rest ∧ rest.length < (p.planAfter r t).length := by
  cases outcome with
  | ok value => simp [advance] at goesOn
  | error failure =>
    have shorter := (List.dropWhile_sublist (p.attempted.contains ·)
      (l := p.planAfter r t)).length_le
    simp only [advance] at goesOn
    split at goesOn
    · simp at goesOn
    · next first rest untried =>
      rw [untried, List.length_cons] at shorter
      simp only [Prod.mk.injEq] at goesOn
      exact ⟨rest, by rw [← goesOn.1], shorter⟩

end Progress

end TrialRouting
