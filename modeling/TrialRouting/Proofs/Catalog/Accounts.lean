import TrialRouting.Proofs.Catalog.Answers

/-!
# What a catalog has answered

A scope remembers what it has answered with, and its holder knows whether it still has it
(`Scope.Stands`). Every answer is accounted for (`Catalog.Accounts`): its instance is of a
registration on record, no implementation has been constructed twice for a scope, and no instance
has been constructed for two.
-/

namespace TrialRouting

/-! ### What has been answered -/

namespace CatalogReply

/-- A construction of an implementation succeeded for a scope. -/
def Constructs (q : CatalogReply) (scope : Nat) (name : String) : Prop :=
  q.scope = scope ∧ (∃ number, q.built = some (name, number)) ∧ ∃ made, q.result = .ok made

/-- A scope has been asked for an implementation and has answered with an instance. -/
def HasAnswered (log : List CatalogReply) (scope : Nat) (name : String) (made : Instance) : Prop :=
  ∃ q ∈ log, q.scope = scope ∧ q.trial.implementation = name ∧ q.result = .ok made

variable {log : List CatalogReply} {q : CatalogReply} {scope : Nat} {name : String}
  {made : Instance}

/-- A scope has answered with an instance if it had done so before, or if the answer added last is
that one. -/
theorem hasAnswered_concat_iff :
    HasAnswered (log ++ [q]) scope name made ↔ HasAnswered log scope name made ∨
      (q.scope = scope ∧ q.trial.implementation = name ∧ q.result = .ok made) := by
  simp only [HasAnswered, List.mem_append, List.mem_singleton, or_and_right, exists_or,
    exists_eq_left]

end CatalogReply

/-! ### Scopes and their holders -/

/-- Whether a holder still has its scope, given whether that has been closed. -/
def Holder.Suits (h : Holder) (id : Nat) (closed : Bool) : Prop :=
  match h with
  | .guarded g => g.held = if closed then none else some id
  | .bare scope => scope = id
  | .gone => closed = true

namespace Holder

variable {h : Holder} {c : Catalog} {id : Nat} {scope : Scope}

/-- However a scope is disposed, it is closed, and its holder keeps what is left of it. -/
theorem closes_dispose (found : c.scopes[id]? = some scope) (suits : h.Suits id scope.disposed) :
    c.Closes id (h.dispose c).1 ∧ (h.dispose c).2.Suits id true ∧
      ((h.dispose c).2 = .gone ↔ h = .gone) := by
  cases h with
  | guarded g =>
    obtain ⟨held⟩ := g
    cases gone : scope.disposed with
    | true =>
      obtain rfl : held = none := by simpa [Suits, gone] using suits
      exact ⟨.refl found gone, rfl, by simp [dispose]⟩
    | false =>
      obtain rfl : held = some id := by simpa [Suits, gone] using suits
      simp only [dispose, ScopeGuard.dispose, Catalog.drop_dispose]
      exact ⟨Catalog.closes_dispose found, rfl, by simp⟩
  | bare n =>
    obtain rfl : n = id := suits
    exact ⟨Catalog.closes_dispose found, rfl, Iff.rfl⟩
  | gone => exact ⟨.refl found suits, rfl, Iff.rfl⟩

/-- Whoever drops a scope closes it. -/
theorem closes_drop (found : c.scopes[id]? = some scope) (suits : h.Suits id scope.disposed) :
    c.Closes id (h.drop c).1 ∧ (h.drop c).2 = .gone := by
  cases h with
  | guarded g => exact ⟨(closes_dispose found suits).1, rfl⟩
  | bare n =>
    obtain rfl : n = id := suits
    exact ⟨Catalog.closes_drop found, rfl⟩
  | gone => exact ⟨.refl found suits, rfl⟩

/-- Whoever has a scope asks it; a guard that has let go of it knows that it is closed. -/
theorem ask_eq (found : c.scopes[id]? = some scope) (suits : h.Suits id scope.disposed)
    (kept : h ≠ .gone) (trial : Trial) :
    h.ask c trial = some (c.resolve id trial.implementation) := by
  cases h with
  | guarded g =>
    obtain ⟨held⟩ := g
    cases gone : scope.disposed with
    | true =>
      obtain rfl : held = none := by simpa [Suits, gone] using suits
      have here : c.scope? id = some scope := found
      simp only [ask, ScopeGuard.resolve, Catalog.resolve, here, gone, if_true]
    | false =>
      obtain rfl : held = some id := by simpa [Suits, gone] using suits
      rfl
  | bare n =>
    obtain rfl : n = id := suits
    rfl
  | gone => exact absurd rfl kept

end Holder

/-- A scope and its holder are as the steps and the answers so far have it. -/
structure Scope.Stands (scope : Scope) (h : Holder) (id : Nat) (steps : List CatalogStep)
    (log : List CatalogReply) : Prop where
  suits : h.Suits id scope.disposed
  gone : h = .gone ↔ CatalogStep.IsDropped steps id
  closed : scope.disposed = true ↔
    CatalogStep.IsDisposed steps id ∨ CatalogStep.IsDropped steps id
  remembered : scope.disposed = false → ∀ name made, scope.resolved.lookup? name = some made ↔
    CatalogReply.HasAnswered log id name made

namespace Scope.Stands

variable {scope : Scope} {h : Holder} {id : Nat} {steps : List CatalogStep} {step : CatalogStep}
  {log : List CatalogReply} {q : CatalogReply}

/-- A step that does not close the scope leaves it as it stands. Registrations and other scopes make
no difference to what a scope remembers. -/
theorem concat (stands : scope.Stands h id steps log) (undisposed : step ≠ .dispose id)
    (kept : step ≠ .drop id) : scope.Stands h id (steps ++ [step]) log where
  suits := stands.suits
  gone := by simp [CatalogStep.isDropped_concat_iff, kept, stands.gone]
  closed := by
    simp [CatalogStep.isDropped_concat_iff, CatalogStep.isDisposed_concat_iff, undisposed, kept,
      stands.closed]
  remembered := stands.remembered

/-- Another scope has been asked. Its answer is on the log under its own number, and so does not
count as one of this scope. -/
theorem other_asked (stands : scope.Stands h id steps log) (different : q.scope ≠ id) :
    scope.Stands h id steps (log ++ [q]) where
  suits := stands.suits
  gone := stands.gone
  closed := stands.closed
  remembered := by simpa [CatalogReply.hasAnswered_concat_iff, different] using stands.remembered

/-- A scope that has just been opened stands as it should: it remembers nothing, and since its
number is new, nothing has been answered or closed under it. -/
theorem opened {guarded : Bool} (c : Catalog) (new : id = CatalogStep.opened steps)
    (next : c.nextScope = id) (others : ∀ q ∈ log, q.scope < id) :
    Scope.Stands {} (Holder.opened guarded c).2 id (steps ++ [.openScope guarded]) log where
  suits := by cases guarded <;> simp [Holder.opened, Holder.Suits, ScopeGuard.ofCatalog,
    ScopeGuard.holding, next]
  gone := by
    have never : ¬ CatalogStep.IsDropped steps id := fun dropped => by
      have := dropped.opened
      omega
    cases guarded <;> simp [Holder.opened, CatalogStep.isDropped_concat_iff, never]
  closed := by
    have never : ¬ CatalogStep.IsDropped steps id := fun dropped => by
      have := dropped.opened
      omega
    have undisposed : ¬ CatalogStep.IsDisposed steps id := fun disposed => by
      have := disposed.opened
      omega
    simp [CatalogStep.isDropped_concat_iff, CatalogStep.isDisposed_concat_iff, never, undisposed]
  remembered := by
    intro _ name made
    constructor
    · intro found
      cases found
    · rintro ⟨q, member, rfl, -⟩
      exact absurd (others q member) (Nat.lt_irrefl _)

end Scope.Stands

/-! ### What answers have to do with registrations -/

/-- The answers so far are about scopes that have been opened, and with instances of
registrations on record. No implementation has been constructed twice for a scope, and no instance
has been constructed for two scopes. -/
structure Catalog.Accounts (c : Catalog) (entries : List (String × Source)) (opened : Nat)
    (log : List CatalogReply) : Prop where
  scopes : ∀ q ∈ log, q.scope < opened
  named : ∀ q ∈ log, ∀ name number, q.built = some (name, number) → q.trial.implementation = name
  made : ∀ q ∈ log, ∀ made, q.result = .ok made → made.name = q.trial.implementation ∧
    (∃ source, entries[made.recipe]? = some (made.name, source)) ∧
      ∃ r : Recipe, c.recipes[made.recipe]? = some r ∧ (r.shared = none → made.build ≤ r.built)
  once : log.Pairwise fun q q' => ∀ scope name, q.Constructs scope name → ¬ q'.Constructs scope name
  apart : ∀ q ∈ log, ∀ q' ∈ log, ∀ made, q.scope ≠ q'.scope → q.result = .ok made →
    q'.result = .ok made → entries[made.recipe]? = some (made.name, .shared)

namespace Catalog.Accounts

variable {c c' : Catalog} {entries : List (String × Source)} {opened opened' id : Nat}
  {log : List CatalogReply} {scope : Scope} {trial : Trial} {answer : Resolution} {made : Instance}

theorem nil (c : Catalog) : c.Accounts entries opened [] where
  scopes := by simp
  named := by simp
  made := by simp
  once := .nil
  apart := by simp

/-- More registrations, constructions and scopes leave the answers so far as they are. Registrations
stay on record at their place, and the count of their constructions only grows. -/
theorem mono (accounts : c.Accounts entries opened log) (grown : c.Grown c')
    (more : opened ≤ opened') (later : List (String × Source)) :
    c'.Accounts (entries ++ later) opened' log where
  scopes := fun q member => Nat.lt_of_lt_of_le (accounts.scopes q member) more
  named := accounts.named
  made := by
    intro q member made result
    obtain ⟨name, ⟨source, entry⟩, r, listed, counted⟩ := accounts.made q member made result
    obtain ⟨r', listed', shared, built⟩ := grown _ r listed
    have below := (List.getElem?_eq_some_iff.mp entry).1
    exact ⟨name, ⟨source, (List.getElem?_append_left below).trans entry⟩, r', listed',
      fun own => Nat.le_trans (counted (shared ▸ own)) built⟩
  once := accounts.once
  apart := by
    intro q member q' member' made different result result'
    have entry := accounts.apart q member q' member' made different result result'
    exact (List.getElem?_append_left (List.getElem?_eq_some_iff.mp entry).1).trans entry

/-- An instance a scope answers with is of a registration on record, and one that another scope has
answered with before has been there from the start. A constructed instance carries the number of its
construction, which is larger than any before. -/
theorem of_answer (accounts : c.Accounts entries opened log) (enrolls : c.Enrolls entries)
    (remembered : scope.disposed = false → ∀ name made,
      scope.resolved.lookup? name = some made ↔ CatalogReply.HasAnswered log id name made)
    (answers : c.Answers id trial.implementation scope answer) (result : answer.result = .ok made) :
    made.name = trial.implementation ∧
      (∃ source, entries[made.recipe]? = some (made.name, source)) ∧
      (∃ r : Recipe, answer.catalog.recipes[made.recipe]? = some r ∧
        (r.shared = none → made.build ≤ r.built)) ∧
      ∀ q ∈ log, q.scope ≠ id → q.result = .ok made →
        entries[made.recipe]? = some (made.name, .shared) := by
  cases answers with
  | disposed | unregistered | failed => cases result
  | remembered isOpen known =>
    cases result
    obtain ⟨first, member, asked, implementation, same⟩ := (remembered isOpen _ _).mp known
    obtain ⟨name, entry, counted⟩ := accounts.made first member made same
    refine ⟨name.trans implementation, entry, counted, fun q other different again => ?_⟩
    exact accounts.apart q other first member made (asked ▸ different) again same
  | handed isOpen new current listed shared =>
    cases result
    obtain ⟨r', source, listed', inForce, isOf⟩ := enrolls.exists_recipe current
    cases listed.symm.trans listed'
    cases source with
    | constructor fails => simp [isOf.source.1] at shared
    | shared =>
      cases shared.symm.trans isOf.source
      have name := isOf.name
      dsimp only at name ⊢
      refine ⟨name, ⟨.shared, name ▸ inForce.1⟩, ⟨_, listed, fun own => ?_⟩, fun _ _ _ _ => ?_⟩
      · simp [own] at shared
      · exact name ▸ inForce.1
  | constructed isOpen new current listed own succeeds =>
    cases result
    obtain ⟨r', source, listed', inForce, isOf⟩ := enrolls.exists_recipe current
    cases listed.symm.trans listed'
    have name := isOf.name
    dsimp only at name ⊢
    refine ⟨name, ⟨source, name ▸ inForce.1⟩,
      ⟨_, Catalog.getElem?_counted listed, fun _ => Nat.le_refl _⟩, fun q member _ again => ?_⟩
    · obtain ⟨-, -, r', counted, below⟩ := accounts.made q member _ again
      cases listed.symm.trans counted
      exact absurd (below own) (Nat.not_succ_le_self _)

/-- Another answer is accounted for. What has been constructed is remembered, and what is remembered
is not constructed; so a second construction of a name in one scope cannot succeed. -/
theorem answered (accounts : c.Accounts entries opened log) (enrolls : c.Enrolls entries)
    (below : id < opened)
    (remembered : scope.disposed = false → ∀ name made,
      scope.resolved.lookup? name = some made ↔ CatalogReply.HasAnswered log id name made)
    (answers : c.Answers id trial.implementation scope answer) :
    answer.catalog.Accounts entries opened
      (log ++ [⟨id, trial, answer.result, answer.built⟩]) where
  scopes := by
    intro q member
    rcases List.mem_append.mp member with old | new
    · exact accounts.scopes q old
    · rw [List.mem_singleton.mp new]
      exact below
  named := by
    intro q member name number built
    rcases List.mem_append.mp member with old | new
    · exact accounts.named q old name number built
    · rw [List.mem_singleton.mp new] at built ⊢
      exact answers.name_of_built enrolls built
  made := by
    intro q member made result
    rcases List.mem_append.mp member with old | new
    · have kept := accounts.mono answers.grown (Nat.le_refl opened) []
      rw [List.append_nil] at kept
      exact kept.made q old made result
    · rw [List.mem_singleton.mp new] at result ⊢
      obtain ⟨name, entry, counted, -⟩ :=
        accounts.of_answer enrolls remembered answers result
      exact ⟨name, entry, counted⟩
  once := by
    rw [List.pairwise_append]
    refine ⟨accounts.once, List.pairwise_singleton _ _, ?_⟩
    intro q member q' new place name constructs
    rw [List.mem_singleton.mp new]
    rintro ⟨rfl, ⟨number, built⟩, made, result⟩
    obtain ⟨asked, ⟨_, before⟩, made', result'⟩ := constructs
    have runs : answer.built = some (name, number) := built
    obtain ⟨isOpen, unknown⟩ := answers.new_of_built (by simp [runs])
    have known := (remembered isOpen trial.implementation made').mpr
      ⟨q, member, asked, (accounts.named q member name _ before).trans
        (answers.name_of_built enrolls built).symm, result'⟩
    rw [unknown] at known
    cases known
  apart := by
    have shares {q : CatalogReply} {made : Instance} (old : q ∈ log) (different : q.scope ≠ id)
        (again : q.result = .ok made) (result : answer.result = .ok made) :
        entries[made.recipe]? = some (made.name, .shared) :=
      (accounts.of_answer enrolls remembered answers result).2.2.2 q old different again
    intro q member q' member' made different result result'
    rcases List.mem_append.mp member with old | new <;>
      rcases List.mem_append.mp member' with old' | new'
    · exact accounts.apart q old q' old' made different result result'
    · rw [List.mem_singleton.mp new'] at different result'
      exact shares old different result result'
    · rw [List.mem_singleton.mp new] at different result
      exact shares old' (Ne.symm different) result' result
    · rw [List.mem_singleton.mp new, List.mem_singleton.mp new'] at different
      exact absurd rfl different

end Catalog.Accounts

end TrialRouting
