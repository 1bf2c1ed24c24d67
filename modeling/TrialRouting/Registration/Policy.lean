import TrialRouting.Duration

/-!
# Fallback policies

What a trial does when an attempt fails, and what it does when its deadline
expires. A deadline covers either the whole sequence of attempts or the primary
attempt alone.
-/

namespace TrialRouting

/-- What happens after an attempt fails. -/
inductive OnError where
  /-- The failure goes to the caller. -/
  | throw
  /-- The default key is tried once. -/
  | redirectToDefault
  /-- Every other key is tried in registration order. -/
  | redirectToAny
  /-- One given key is tried. -/
  | redirectToSpecific (key : String)
  /-- The listed keys are tried in order. -/
  | redirectOrdered (keys : List String)
  deriving DecidableEq, Repr, Inhabited

/-- What happens after the trial's deadline expires. -/
inductive TimeoutAction where
  /-- The timeout goes to the caller. -/
  | throw
  /-- The default key is tried without a deadline. -/
  | fallbackToDefault
  /-- One given key is tried without a deadline. -/
  | fallbackToSpecific (key : String)
  deriving DecidableEq, Repr, Inhabited

/-- Which attempts the trial's deadline covers. -/
inductive TimeoutScope where
  /-- The primary attempt and its fallbacks share one deadline. -/
  | wholeSequence
  /-- Only the primary attempt is bounded. -/
  | firstAttempt
  deriving DecidableEq, Repr, Inhabited

/-- The deadline of a trial. -/
structure TimeoutPolicy where
  /-- Time from the end of selection to the deadline. -/
  duration : Duration
  /-- What follows expiry. -/
  action : TimeoutAction
  /-- The attempts covered. -/
  scope : TimeoutScope
  deriving DecidableEq, Repr, Inhabited

end TrialRouting
