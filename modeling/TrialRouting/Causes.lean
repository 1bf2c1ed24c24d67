/-!
# Causes

An error may carry the chain of what led to it, outermost first. The outermost
text is what the error says; the ones below it are its causes in turn.
-/

namespace TrialRouting

/-- A chain of at least one text, outermost first. -/
structure Causes where
  outermost : String
  inner : List String := []
  deriving DecidableEq, Repr, Inhabited

namespace Causes

/-- All texts, outermost first. -/
def texts (c : Causes) : List String :=
  c.outermost :: c.inner

/-- The chain after one more context has been put around it. -/
def wrap (c : Causes) (context : String) : Causes :=
  ⟨context, c.texts⟩

/-- The chain of a first text and the contexts put around it one after another. -/
def ofInnermost (innermost : String) (contexts : List String) : Causes :=
  contexts.foldl wrap ⟨innermost, []⟩

end Causes

end TrialRouting
