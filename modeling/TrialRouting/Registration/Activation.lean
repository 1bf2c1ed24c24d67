/-!
# Activation

A trial is active inside an inclusive window of time whose ends may be open, and
only for calls that its predicate accepts. The window is a question about the
clock alone, so it is checked before the predicate is ever asked.
-/

namespace TrialRouting

/-- Why a trial takes no part in a call. -/
inductive InactiveReason where
  | beforeStart
  | afterEnd
  | predicateRejected
  deriving DecidableEq, Repr, Inhabited

/-- The label of the reason in traces and in the source of a selection. -/
def InactiveReason.label : InactiveReason → String
  | .beforeStart => "before_start"
  | .afterEnd => "after_end"
  | .predicateRejected => "predicate_rejected"

/-- An inclusive window in milliseconds of wall-clock time; a missing end is open. -/
structure Window where
  /-- First active millisecond. -/
  start : Option UInt64
  /-- Last active millisecond. -/
  finish : Option UInt64
  deriving DecidableEq, Repr, Inhabited

namespace Window

/-- The window that is open at both ends. -/
def unbounded : Window := ⟨none, none⟩

/-- Whether neither end is set. -/
def isUnbounded (w : Window) : Bool :=
  w.start.isNone && w.finish.isNone

/-- The end of the window that `now` violates, the start first. -/
def violation? (w : Window) (now : UInt64) : Option InactiveReason :=
  if w.start.any (now < ·) then some .beforeStart
  else if w.finish.any (· < now) then some .afterEnd
  else none

/-- Both ends of a window that starts after it ends. -/
def inverted? (w : Window) : Option (UInt64 × UInt64) :=
  match w.start, w.finish with
  | some s, some e => if e < s then some (s, e) else none
  | _, _ => none

end Window

/-- What an activation predicate is told about a call. -/
structure Moment where
  /-- Service being called. -/
  service : String
  /-- Method being called. -/
  method : String
  /-- Wall-clock time in milliseconds. -/
  now : UInt64
  deriving DecidableEq, Repr

/-- Decides for one call whether the trial is active. -/
abbrev Predicate := Moment → Bool

namespace Predicate

/-- The same answer for every call. -/
def always (answer : Bool) : Predicate := fun _ => answer

/-- Accepts the listed methods. -/
def methodIn (methods : List String) : Predicate := fun m => methods.contains m.method

/-- Accepts one service. -/
def serviceIs (service : String) : Predicate := fun m => m.service == service

/-- Accepts from an instant on. -/
def nowAtLeast (bound : UInt64) : Predicate := fun m => bound ≤ m.now

/-- Accepts before an instant. -/
def nowBelow (bound : UInt64) : Predicate := fun m => m.now < bound

/-- Accepts what every part accepts. -/
def all (parts : List Predicate) : Predicate := fun m => parts.all (· m)

/-- Accepts what some part accepts. -/
def any (parts : List Predicate) : Predicate := fun m => parts.any (· m)

/-- Accepts what the other predicate rejects. -/
def negate (p : Predicate) : Predicate := fun m => !p m

end Predicate

end TrialRouting
