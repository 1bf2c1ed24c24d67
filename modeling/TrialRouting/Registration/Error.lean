/-!
# Registration errors

The rules a trial can violate, with the text of each.
-/

namespace TrialRouting

/-- A rule that a trial violates. -/
inductive RegistrationError where
  | emptyTrials (service : String)
  | emptyKey
  | duplicateKey (key : String)
  | missingDefaultKey (service : String)
  | unknownDefaultKey (key : String)
  | unknownFallbackKey (key : String)
  | emptyFallbackList
  | unknownTimeoutFallbackKey (key : String)
  | zeroTimeout
  | invertedWindow (start finish : UInt64)
  deriving DecidableEq, Repr

namespace RegistrationError

/-- What is wrong, in words. -/
def message : RegistrationError → String
  | emptyTrials service => s!"trial for `{service}` has no implementations"
  | emptyKey => "trial keys must not be empty"
  | duplicateKey key => s!"trial key `{key}` is registered more than once"
  | missingDefaultKey service => s!"trial for `{service}` has no default key"
  | unknownDefaultKey key => s!"default key `{key}` is not one of the trial keys"
  | unknownFallbackKey key => s!"fallback key `{key}` is not one of the trial keys"
  | emptyFallbackList => "ordered fallback policy needs at least one key"
  | unknownTimeoutFallbackKey key =>
      s!"timeout fallback key `{key}` is not one of the trial keys"
  | zeroTimeout => "timeout must be greater than zero"
  | invertedWindow start finish =>
      s!"activation window starts ({start}) after it ends ({finish})"

/-- The short name of the violated rule. -/
def name : RegistrationError → String
  | emptyTrials _ => "EmptyTrials"
  | emptyKey => "EmptyKey"
  | duplicateKey _ => "DuplicateKey"
  | missingDefaultKey _ => "MissingDefaultKey"
  | unknownDefaultKey _ => "UnknownDefaultKey"
  | unknownFallbackKey _ => "UnknownFallbackKey"
  | emptyFallbackList => "EmptyFallbackList"
  | unknownTimeoutFallbackKey _ => "UnknownTimeoutFallbackKey"
  | zeroTimeout => "ZeroTimeout"
  | invertedWindow _ _ => "InvertedWindow"

end RegistrationError

end TrialRouting
