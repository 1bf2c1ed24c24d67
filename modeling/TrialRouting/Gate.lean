import TrialRouting.Registration.Basic
import TrialRouting.Text.Quoted

/-!
# Activation gate

Decides whether a trial takes part in a call. The window comes first and the
predicate is asked only inside it, once.
-/

namespace TrialRouting

namespace Registration

/-- The moment a predicate is asked about. -/
def moment (r : Registration) (method : String) (now : UInt64) : Moment :=
  ⟨r.service, method, now⟩

/-- Why the trial takes no part in a call, if it does not. -/
def inactive? (r : Registration) (method : String) (now : UInt64) : Option InactiveReason :=
  match r.window.violation? now with
  | some reason => some reason
  | none =>
      match r.predicate with
      | none => none
      | some p => if p (r.moment method now) then none else some .predicateRejected

/-- How often the predicate is asked about a call. -/
def predicateCalls (r : Registration) (now : UInt64) : Nat :=
  match r.window.violation? now, r.predicate with
  | none, some _ => 1
  | _, _ => 0

/-- The gate in words, followed by the predicate it asks. -/
def gateDescription (r : Registration) : String :=
  Text.describe "ActivationGate" [] false ++ " "
    ++ if r.predicate.isSome then "Some(ActivationPredicate(..))" else "None"

end Registration

end TrialRouting
