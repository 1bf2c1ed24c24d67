/-!
# Cancellation tokens

Tokens form a forest. A token is cancelled when it or a token above it has been
cancelled, so cancellation flows downwards only: cancelling a token leaves its
parent and its siblings alone.
-/

namespace TrialRouting

/-- A token with the tokens above it, nearest first. -/
structure Token where
  id : Nat
  above : List Nat := []
  deriving DecidableEq, Repr, Inhabited

/-- The tokens issued so far and those that have been cancelled themselves. -/
structure TokenForest where
  issued : Nat := 0
  cancelled : List Nat := []
  deriving DecidableEq, Repr, Inhabited

namespace TokenForest

/-- The next token to be issued, with no token above it. -/
def nextRoot (f : TokenForest) : Token :=
  ⟨f.issued, []⟩

/-- The next token to be issued, right below `parent`. -/
def nextChild (f : TokenForest) (parent : Token) : Token :=
  ⟨f.issued, parent.id :: parent.above⟩

/-- The forest after one more token has been issued. -/
def issue (f : TokenForest) : TokenForest :=
  { f with issued := f.issued + 1 }

/-- The forest after a token has been cancelled. -/
def cancel (f : TokenForest) (t : Token) : TokenForest :=
  { f with cancelled := t.id :: f.cancelled }

/-- Whether a token is cancelled. -/
def isCancelled (f : TokenForest) (t : Token) : Bool :=
  (t.id :: t.above).any (f.cancelled.contains ·)

/-- Cancelling a token cancels exactly the tokens at and below it besides those
    that were cancelled before. -/
theorem isCancelled_cancel (f : TokenForest) (t u : Token) :
    (f.cancel t).isCancelled u = (f.isCancelled u || (u.id :: u.above).contains t.id) := by
  rw [Bool.eq_iff_iff]
  simp only [isCancelled, cancel, List.any_eq_true, List.contains_eq_mem, decide_eq_true_eq,
    List.mem_cons, Bool.or_eq_true]
  constructor
  · rintro ⟨x, member, rfl | known⟩
    · exact Or.inr member
    · exact Or.inl ⟨x, member, known⟩
  · rintro (⟨x, member, known⟩ | member)
    · exact ⟨x, member, Or.inr known⟩
    · exact ⟨t.id, member, Or.inl rfl⟩

end TokenForest

end TrialRouting
