import TrialRouting.Catalog

/-!
# Scripted implementations

An implementation that follows a script: each request takes the next entry, and the
last entry is taken again and again. An entry says what happens before the answer and
whether there is one; the answer itself follows from the request.
-/

namespace TrialRouting

/-- What an implementation does with one request. -/
structure ScriptEntry where
  /-- Whether it cancels the caller's token first. -/
  cancelsCaller : Bool := false
  /-- Milliseconds it takes. -/
  pause : Nat := 0
  /-- Whether it never ends. -/
  hangs : Bool := false
  /-- How it fails, if it does. -/
  failure : Option Failure := none
  deriving DecidableEq, Repr, Inhabited

namespace ScriptEntry

/-- The behavior of an entry whose answer would be `answer`. -/
def behavior (e : ScriptEntry) (answer : Value) : Behavior where
  cancelsCaller := e.cancelsCaller
  pause := e.pause
  hangs := e.hangs
  outcome := match e.failure with
    | some f => .error f
    | none => .ok answer

/-- The entry without any waiting. -/
def atOnce (e : ScriptEntry) : ScriptEntry :=
  { e with pause := 0, hangs := false }

end ScriptEntry

/-- The entry of the n-th request. -/
def scriptEntry (script : List ScriptEntry) (n : Nat) : ScriptEntry :=
  (script[n]?).getD (script.getLast?.getD {})

/-- What an implementation answers: the length of the argument in bytes, nothing, or a
    greeting. -/
def Request.answer (request : Request) (name : String) : Value :=
  match request.operation with
  | .count => .count request.argument.utf8ByteSize
  | .ping => .unit
  | .call => .text (name ++ " greets " ++ request.argument)
  | .sync => .text (name ++ " greets " ++ request.argument)

/-- An implementation that follows a script. A synchronous method cannot wait. -/
def Recipe.scripted (name : String) (script : List ScriptEntry)
    (construction : Nat → Option ResolveError) : Recipe where
  name := name
  construction := construction
  behavior n request :=
    let entry := scriptEntry script n
    (if request.operation = .sync then entry.atOnce else entry).behavior (request.answer name)

end TrialRouting
