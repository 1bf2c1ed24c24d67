import TrialRouting.Context
import TrialRouting.Failure

/-!
# Interceptors

A decorator written by hand, described by what it does around the rest of the chain:
it may leave remarks, cancel the caller, wait, answer by itself, go on under a token
that is cancelled already, and change the outcome on the way out. It runs the rest of
the chain at most once.
-/

namespace TrialRouting

/-- What a hand-written decorator does around the rest of the chain. -/
structure Interceptor where
  /-- What it is called when it is made. -/
  kind : String
  /-- The attempts it takes part in; it lets the others through. -/
  applies : Context → Bool := fun _ => true
  /-- Remarks on the way in; it can see whether its token is cancelled. -/
  enterRemarks : Context → Bool → List String := fun _ _ => []
  /-- Whether it cancels the caller's token on the way in. -/
  cancelsCaller : Bool := false
  /-- Milliseconds it waits on the way in. -/
  pauseBefore : Nat := 0
  /-- Its own answer; the rest of the chain does not run then. -/
  answer : Context → Option Outcome := fun _ => none
  /-- Whether the rest of the chain gets a new token that is cancelled already. -/
  detaches : Bool := false
  /-- Milliseconds it waits on the way out. -/
  pauseAfter : Nat := 0
  /-- Remarks on the way out. -/
  leaveRemarks : Outcome → List String := fun _ => []
  /-- The outcome it passes on. -/
  passOn : Context → Outcome → Outcome := fun _ o => o

namespace Interceptor

/-- The interceptor restricted to attempts on the given keys. -/
def only (i : Interceptor) (keys : List String) : Interceptor :=
  { i with applies := fun c => keys.contains c.key && i.applies c }

/-- Remarks on every way in and out. -/
def recorder (name : String) : Interceptor where
  kind := "record"
  enterRemarks c _ := [s!"{name}-enter {c.key}#{c.attempt}"]
  leaveRemarks o := [s!"{name}-exit " ++ Outcome.label o]

/-- Remarks on everything it can see on the way in. -/
def observer : Interceptor where
  kind := "observe"
  enterRemarks c cancelled :=
    let candidates := String.intercalate "," c.candidates
    let fallback := c.isFallback
    [s!"observe {c.service}.{c.method} selector={c.selector} selected={c.selected} " ++
      s!"key={c.key} attempt={c.attempt} fallback={fallback} of {candidates} " ++
      s!"cancelled={cancelled}"]

/-- Answers with a value. -/
def answering (kind : String) (v : Value) : Interceptor where
  kind := kind
  answer _ := some (.ok v)

/-- Fails by itself. -/
def failing (f : Failure) : Interceptor where
  kind := "fail"
  answer _ := some (.error f)

/-- Turns every failure into a text. -/
def swallowing (text : String) : Interceptor where
  kind := "swallow"
  passOn _
    | .ok v => .ok v
    | .error _ => .ok (.text text)

/-- Turns every failure into its own. -/
def translating (causes : Causes) : Interceptor where
  kind := "translate"
  passOn _
    | .ok v => .ok v
    | .error _ => .error (.routing (.decorator causes))

/-- Appends to a text; a value that is none has the wrong shape. -/
def appending (suffix : String) : Interceptor where
  kind := "suffix"
  passOn c
    | .ok (.text t) => .ok (.text (t ++ suffix))
    | .ok _ => .error (.routing (.resultShape c.method))
    | .error f => .error f

/-- Waits on the way in. -/
def waitingBefore (millis : Nat) : Interceptor where
  kind := "sleep_before"
  pauseBefore := millis

/-- Waits on the way out. -/
def waitingAfter (millis : Nat) : Interceptor where
  kind := "sleep_after"
  pauseAfter := millis

/-- Goes on under a token that is cancelled already. -/
def detaching : Interceptor where
  kind := "cancelled_token"
  detaches := true

/-- Cancels the caller's token and goes on. -/
def cancelling : Interceptor where
  kind := "cancel_caller"
  cancelsCaller := true

end Interceptor

end TrialRouting
