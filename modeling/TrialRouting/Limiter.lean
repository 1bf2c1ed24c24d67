/-!
# Concurrency limits

A limiter hands out a fixed number of permits. An attempt that finds none left is
rejected at once; one that got a permit gives it back when it ends in any way.
-/

namespace TrialRouting

/-- A limit on the attempts that run at once. -/
structure Limiter where
  limit : Nat
  /-- Permits not handed out. -/
  available : Nat
  deriving DecidableEq, Repr, Inhabited

namespace Limiter

/-- A limiter with all its permits. -/
def full (limit : Nat) : Limiter := ⟨limit, limit⟩

/-- Whether an attempt arriving now is rejected. -/
def isExhausted (l : Limiter) : Bool :=
  l.available == 0

/-- The limiter after a permit has been taken. -/
def take (l : Limiter) : Limiter :=
  { l with available := l.available - 1 }

/-- The limiter after a permit has been given back. -/
def giveBack (l : Limiter) : Limiter :=
  { l with available := l.available + 1 }

end Limiter

end TrialRouting
