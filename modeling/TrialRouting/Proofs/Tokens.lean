import TrialRouting.Token

/-!
# Growth of the token forest

Tokens are issued one after another, and only issued tokens are cancelled. So a token
that has just been issued below another is cancelled exactly when that other one is.
Nothing is ever uncancelled. A token that is in use stays as good as it is while others are issued
and while others that are not above it are cancelled.
-/

namespace TrialRouting

/-- A token right below another. -/
def Token.IsChildOf (t parent : Token) : Prop :=
  t.above = parent.id :: parent.above

namespace TokenForest

/-- Only tokens that have been issued are cancelled. -/
def Sound (f : TokenForest) : Prop :=
  ∀ id ∈ f.cancelled, id < f.issued

/-- A token issued below another starts in the state of that other one. Nobody can have cancelled
it, since its own number has not been issued; so it is cancelled only if one above it is. -/
theorem isCancelled_nextChild (f : TokenForest) (sound : f.Sound) (parent : Token) :
    f.isCancelled (f.nextChild parent) = f.isCancelled parent := by
  have new : f.cancelled.contains f.issued = false := by
    rw [List.contains_eq_mem, decide_eq_false_iff_not]
    exact fun known => Nat.lt_irrefl _ (sound _ known)
  simp only [isCancelled, nextChild, List.any_cons, new, Bool.false_or]

/-- A token below a cancelled one is cancelled, since whatever cancels the one is above the other
too. -/
theorem isCancelled_of_child (f : TokenForest) {t parent : Token} (child : t.IsChildOf parent)
    (cancelled : f.isCancelled parent = true) : f.isCancelled t = true := by
  rw [isCancelled, child, List.any_cons, Bool.or_eq_true]
  exact .inr cancelled

/-- What may come of a forest: tokens are issued, and issued tokens are cancelled. -/
structure Grows (f g : TokenForest) : Prop where
  issued : f.issued ≤ g.issued
  cancelled : ∀ id ∈ f.cancelled, id ∈ g.cancelled
  sound : f.Sound → g.Sound

namespace Grows

theorem refl (f : TokenForest) : Grows f f :=
  ⟨Nat.le_refl _, fun _ known => known, fun sound => sound⟩

theorem trans {f g h : TokenForest} (first : Grows f g) (second : Grows g h) : Grows f h :=
  ⟨Nat.le_trans first.issued second.issued,
    fun id known => second.cancelled id (first.cancelled id known),
    fun sound => second.sound (first.sound sound)⟩

theorem issue (f : TokenForest) : Grows f f.issue :=
  ⟨Nat.le_succ _, fun _ known => known, fun sound id known => Nat.lt_succ_of_lt (sound id known)⟩

theorem cancel (f : TokenForest) (t : Token) (known : t.id < f.issued) :
    Grows f (f.cancel t) := by
  refine ⟨Nat.le_refl _, fun id before => List.mem_cons_of_mem _ before, ?_⟩
  intro sound id member
  rcases List.mem_cons.mp member with rfl | before
  · exact known
  · exact sound id before

/-- What is cancelled stays cancelled. -/
theorem isCancelled {f g : TokenForest} (grows : Grows f g) {t : Token}
    (cancelled : f.isCancelled t = true) : g.isCancelled t = true := by
  simp only [TokenForest.isCancelled, List.any_eq_true, List.contains_eq_mem,
    decide_eq_true_eq] at cancelled ⊢
  obtain ⟨id, member, known⟩ := cancelled
  exact ⟨id, member, grows.cancelled id known⟩

/-- What is not cancelled never was, since cancellation is not taken back. This turns an observation
at a late moment into one about all moments before. -/
theorem not_isCancelled {f g : TokenForest} (grows : Grows f g) {t : Token}
    (uncancelled : g.isCancelled t = false) : f.isCancelled t = false := by
  cases before : f.isCancelled t with
  | false => rfl
  | true => exact absurd (grows.isCancelled before) (by simp [uncancelled])

end Grows

/-- A token that has been issued and not cancelled, in a forest that is in order. -/
structure Holds (f : TokenForest) (t : Token) : Prop where
  sound : f.Sound
  live : f.isCancelled t = false
  issued : ∀ id ∈ t.id :: t.above, id < f.issued

namespace Holds

variable {f : TokenForest} {t : Token}

theorem issue (holds : f.Holds t) : f.issue.Holds t :=
  ⟨(Grows.issue f).sound holds.sound, holds.live,
    fun id member => Nat.lt_succ_of_lt (holds.issued id member)⟩

/-- A token that has just been issued with none above it is held: it could only be cancelled by its
own number, which was not issued before. -/
theorem root (sound : f.Sound) : f.issue.Holds f.nextRoot := by
  refine ⟨(Grows.issue f).sound sound, ?_, by simp [nextRoot, TokenForest.issue]⟩
  have new : f.issued ∉ f.cancelled := fun known => Nat.lt_irrefl _ (sound _ known)
  simpa [isCancelled, nextRoot, TokenForest.issue] using new

/-- A token issued below one that is held is held as well. Its number is new, and the tokens above
it are the held one and those above that. -/
theorem child (holds : f.Holds t) : f.issue.Holds (f.nextChild t) := by
  refine ⟨holds.issue.sound, (f.isCancelled_nextChild holds.sound t).trans holds.live, ?_⟩
  intro id member
  rcases List.mem_cons.mp member with rfl | above
  · exact Nat.lt_succ_self _
  · exact holds.issue.issued id above

/-- Cancelling a token leaves those alone that are not below it. A token in use is held by whoever
has it, so that only what is above it can make a difference. -/
theorem cancel (holds : f.Holds t) {other : Token} (known : other.id < f.issued)
    (apart : other.id ∉ t.id :: t.above) : (f.cancel other).Holds t := by
  refine ⟨(Grows.cancel f other known).sound holds.sound, ?_, holds.issued⟩
  rw [isCancelled_cancel, holds.live, List.contains_eq_mem]
  simpa using apart

/-- Tokens that are still to be issued are not above it. -/
theorem apart (holds : f.Holds t) {id : Nat} (new : f.issued ≤ id) : id ∉ t.id :: t.above :=
  fun member => Nat.lt_irrefl _ (Nat.lt_of_lt_of_le (holds.issued id member) new)

end Holds

end TokenForest

end TrialRouting
