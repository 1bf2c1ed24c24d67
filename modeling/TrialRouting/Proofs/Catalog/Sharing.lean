import Mathlib.Data.List.Induction
import TrialRouting.Proofs.Catalog.Accounts

/-!
# Scopes build once and share

Within a scope an implementation is constructed at most once with success. From then on the scope
answers with that instance and runs no constructor, by whatever key it is asked and whatever has
been registered since. The first construction is by the registration in force at that moment; one
that fails is forgotten. Two scopes never have a constructed instance in common.

What a scope remembers is what it has answered, and what is in force is what was registered last:
`Workshop.Keeps` says so of a workshop after its steps. Each kind of step keeps it, and the answers
follow from it.
-/

namespace TrialRouting

/-! ### Each step keeps to it -/

namespace Workshop

/-- A workshop is as its steps and its answers so far have it. -/
structure Keeps (w : Workshop) (steps : List CatalogStep) : Prop where
  enrolls : w.catalog.Enrolls (CatalogStep.registrations steps)
  scopes : w.catalog.scopes.length = CatalogStep.opened steps
  holders : w.holders.length = CatalogStep.opened steps
  stands : ∀ (id : Nat) (h : Holder) (scope : Scope), w.holders[id]? = some h →
    w.catalog.scopes[id]? = some scope → scope.Stands h id steps w.log
  accounts : w.catalog.Accounts (CatalogStep.registrations steps) (CatalogStep.opened steps) w.log

namespace Keeps

variable {w : Workshop} {steps : List CatalogStep} {step : CatalogStep} {id : Nat} {trial : Trial}
  {name : String} {source : Source}

theorem nil : Keeps {} [] where
  enrolls := .nil
  scopes := rfl
  holders := rfl
  stands := by simp
  accounts := .nil _

/-- A scope that has been opened, and its holder. There are as many of both as there were steps that
opened one, so that each number below that count has them. -/
theorem exists_scope (keeps : w.Keeps steps) (below : id < CatalogStep.opened steps) :
    ∃ h scope, w.holders[id]? = some h ∧ w.catalog.scopes[id]? = some scope ∧
      scope.Stands h id steps w.log := by
  have holder := List.getElem?_eq_getElem (keeps.holders.symm ▸ below : id < w.holders.length)
  have scope := List.getElem?_eq_getElem (keeps.scopes.symm ▸ below : id < w.catalog.scopes.length)
  exact ⟨_, _, holder, scope, keeps.stands id _ _ holder scope⟩

theorem register (keeps : w.Keeps steps) (behavior : Nat → Request → Behavior) :
    (w.after (.register name source behavior)).Keeps
      (steps ++ [.register name source behavior]) where
  enrolls := by
    rw [CatalogStep.registrations_append]
    exact keeps.enrolls.enroll behavior
  scopes := by
    rw [CatalogStep.opened_append, ← keeps.scopes]
    cases source <;> rfl
  holders := by
    rw [CatalogStep.opened_append, ← keeps.holders]
    rfl
  stands := by
    intro id h scope holder found
    have same : (w.catalog.enroll name source behavior).scopes = w.catalog.scopes := by
      cases source <;> rfl
    exact (keeps.stands id h scope holder (same ▸ found)).concat (by simp) (by simp)
  accounts := by
    rw [CatalogStep.registrations_append, CatalogStep.opened_append]
    exact keeps.accounts.mono (.enroll _ behavior) (Nat.le_add_right _ _) _

theorem openScope (keeps : w.Keeps steps) (guarded : Bool) :
    (w.after (.openScope guarded)).Keeps (steps ++ [.openScope guarded]) := by
  have catalog : (Holder.opened guarded w.catalog).1 = w.catalog.openScope := by
    cases guarded <;> rfl
  have registrations : CatalogStep.registrations (steps ++ [.openScope guarded]) =
      CatalogStep.registrations steps := by
    rw [CatalogStep.registrations_append]
    exact List.append_nil _
  have opened : CatalogStep.opened (steps ++ [.openScope guarded]) =
      CatalogStep.opened steps + 1 := by
    rw [CatalogStep.opened_append]
    rfl
  refine ⟨?_, ?_, ?_, ?_, ?_⟩
  · rw [registrations]
    exact keeps.enrolls.congr (by rw [after, catalog]; rfl) (by rw [after, catalog]; rfl)
  · simp [after, catalog, opened, Catalog.openScope, keeps.scopes]
  · simp [after, opened, keeps.holders]
  · intro id h scope holder found
    simp only [after, catalog, Catalog.openScope] at holder found
    by_cases old : id < CatalogStep.opened steps
    · rw [List.getElem?_append_left (keeps.holders.symm ▸ old)] at holder
      rw [List.getElem?_append_left (keeps.scopes.symm ▸ old)] at found
      exact (keeps.stands id h scope holder found).concat (by simp) (by simp)
    · have bound := (List.getElem?_eq_some_iff.mp found).1
      simp only [List.length_append, List.length_singleton, keeps.scopes] at bound
      obtain rfl : id = w.catalog.scopes.length := by
        have := keeps.scopes
        omega
      rw [List.getElem?_concat_length] at found
      rw [keeps.scopes, ← keeps.holders, List.getElem?_concat_length] at holder
      cases found
      cases holder
      exact .opened w.catalog keeps.scopes rfl
        (fun q member => keeps.scopes ▸ keeps.accounts.scopes q member)
  · have grown : w.catalog.Grown w.catalog.openScope := fun i r => Catalog.Grown.refl w.catalog i r
    have kept := keeps.accounts.mono grown (Nat.le_add_right _ 1) []
    rw [List.append_nil] at kept
    rw [registrations, opened]
    simpa only [after, catalog] using kept

/-- Nothing is registered or opened when a scope is asked or closed. So of all that a workshop keeps
to only the scope in question, and for an answer the accounts, have to be looked at. -/
theorem of_quiet {w' : Workshop} (quiet : CatalogStep.registrations [step] = [])
    (closed : CatalogStep.opened [step] = 0)
    (enrolls : w'.catalog.Enrolls (CatalogStep.registrations steps))
    (scopes : w'.catalog.scopes.length = CatalogStep.opened steps)
    (holders : w'.holders.length = CatalogStep.opened steps)
    (stands : ∀ (id : Nat) (h : Holder) (scope : Scope), w'.holders[id]? = some h →
      w'.catalog.scopes[id]? = some scope → scope.Stands h id (steps ++ [step]) w'.log)
    (accounts : w'.catalog.Accounts (CatalogStep.registrations steps) (CatalogStep.opened steps)
      w'.log) : w'.Keeps (steps ++ [step]) := by
  have registrations : CatalogStep.registrations (steps ++ [step]) =
      CatalogStep.registrations steps := by
    rw [CatalogStep.registrations_append, quiet, List.append_nil]
  have opened : CatalogStep.opened (steps ++ [step]) = CatalogStep.opened steps := by
    rw [CatalogStep.opened_append, closed, Nat.add_zero]
  constructor
  · rwa [registrations]
  · rwa [opened]
  · rwa [opened]
  · exact stands
  · rwa [registrations, opened]

/-- Somebody still has a scope that has not been dropped, and whoever has it, bare or in a guard, is
answered as the scope itself resolves. -/
theorem ask_eq (keeps : w.Keeps steps) (below : id < CatalogStep.opened steps)
    (kept : ¬ CatalogStep.IsDropped steps id) (trial : Trial) :
    ∃ h scope, w.catalog.scopes[id]? = some scope ∧ scope.Stands h id steps w.log ∧
      w.ask id trial = some (w.catalog.resolve id trial.implementation) := by
  obtain ⟨h, scope, holder, found, stands⟩ := keeps.exists_scope below
  refine ⟨h, scope, found, stands, ?_⟩
  rw [ask, holder, Option.bind_some]
  exact h.ask_eq found stands.suits (fun gone => kept (stands.gone.mp gone)) trial

/-- Nobody can ask a scope that has been dropped, or one that has not been opened: there is no
holder of it any more, or none yet. -/
theorem ask_eq_none (keeps : w.Keeps steps)
    (lost : CatalogStep.opened steps ≤ id ∨ CatalogStep.IsDropped steps id) :
    w.ask id trial = none := by
  by_cases below : id < CatalogStep.opened steps
  · obtain ⟨h, scope, holder, -, stands⟩ := keeps.exists_scope below
    have gone := stands.gone.mpr (lost.resolve_left (Nat.not_le_of_lt below))
    rw [ask, holder, gone]
    rfl
  · have : w.holders[id]? = none :=
      List.getElem?_eq_none (keeps.holders.symm ▸ Nat.le_of_not_lt below)
    rw [ask, this]
    rfl

/-- Asking a scope keeps to it: the answer is one of those that a scope can give, the scope
remembers it if it is an instance, and the accounts have it on the log. -/
theorem resolve (keeps : w.Keeps steps) (id : Nat) (trial : Trial) :
    (w.after (.resolve id trial)).Keeps (steps ++ [.resolve id trial]) := by
  by_cases asked : id < CatalogStep.opened steps ∧ ¬ CatalogStep.IsDropped steps id
  · obtain ⟨h, scope, found, stands, same⟩ := keeps.ask_eq asked.1 asked.2 trial
    have answers := Catalog.answers_resolve found trial.implementation fun i current => by
      obtain ⟨r, -, listed, -⟩ := keeps.enrolls.exists_recipe current
      exact ⟨r, listed⟩
    simp only [after, same]
    refine of_quiet rfl rfl (answers.enrolls keeps.enrolls)
      (answers.length_scopes.trans keeps.scopes) keeps.holders ?_
      (keeps.accounts.answered keeps.enrolls asked.1 stands.remembered answers)
    intro other holder scope' held found'
    by_cases here : other = id
    · subst here
      have before := keeps.stands other holder scope held found
      obtain ⟨_, after, disposed, remembered⟩ := answers.scopes_self found
      cases found'.symm.trans after
      refine (Scope.Stands.concat ?_ (by simp) (by simp))
      refine ⟨disposed ▸ before.suits, before.gone, disposed ▸ before.closed, fun isOpen => ?_⟩
      intro name made
      rw [disposed] at isOpen
      rw [remembered isOpen, before.remembered isOpen, CatalogReply.hasAnswered_concat_iff]
      simp
    · rw [answers.scopes_of_ne here] at found'
      exact ((keeps.stands other holder scope' held found').other_asked (Ne.symm here)).concat
        (by simp) (by simp)
  · have nobody : w.ask id trial = none := keeps.ask_eq_none (by
      by_cases below : id < CatalogStep.opened steps
      · exact .inr (Classical.not_not.mp fun kept => asked ⟨below, kept⟩)
      · exact .inl (Nat.le_of_not_lt below))
    simp only [after, nobody]
    exact of_quiet rfl rfl keeps.enrolls keeps.scopes keeps.holders
      (fun other h scope held found =>
        (keeps.stands other h scope held found).concat (by simp) (by simp)) keeps.accounts

/-- A step that closes a scope in some way. Only that scope and its holder change, and both say so
afterwards; the answers so far are not touched, since closing constructs nothing. -/
theorem release (keeps : w.Keeps steps) {how : Holder → Catalog → Catalog × Holder}
    (quiet : CatalogStep.registrations [step] = []) (closed : CatalogStep.opened [step] = 0)
    (others : ∀ other, other ≠ id → step ≠ .dispose other ∧ step ≠ .drop other)
    (closes : ∀ h scope, w.catalog.scopes[id]? = some scope → scope.Stands h id steps w.log →
      w.catalog.Closes id (how h w.catalog).1 ∧ ∀ scope' : Scope, scope'.disposed = true →
        scope'.Stands (how h w.catalog).2 id (steps ++ [step]) w.log) :
    (w.release id how).Keeps (steps ++ [step]) := by
  by_cases below : id < CatalogStep.opened steps
  · obtain ⟨h, scope, holder, found, stands⟩ := keeps.exists_scope below
    obtain ⟨closing, closedStands⟩ := closes h scope found stands
    simp only [Workshop.release, holder]
    refine of_quiet quiet closed (keeps.enrolls.congr closing.recipes closing.current)
      (closing.length.trans keeps.scopes) (List.length_set.trans keeps.holders) ?_ ?_
    · intro other h' scope' held found'
      by_cases here : other = id
      · subst here
        rw [List.getElem?_set_self (keeps.holders.symm ▸ below)] at held
        cases held
        exact closedStands scope' (closing.closed scope' found')
      · rw [List.getElem?_set_ne (Ne.symm here)] at held
        rw [closing.others other here] at found'
        exact (keeps.stands other h' scope' held found').concat (others other here).1
          (others other here).2
    · have grown : w.catalog.Grown (how h w.catalog).1 :=
        fun i r => closing.recipes ▸ Catalog.Grown.refl w.catalog i r
      have kept := keeps.accounts.mono grown (Nat.le_refl _) []
      rwa [List.append_nil] at kept
  · have nobody : w.holders[id]? = none :=
      List.getElem?_eq_none (keeps.holders.symm ▸ Nat.le_of_not_lt below)
    simp only [Workshop.release, nobody]
    refine of_quiet quiet closed keeps.enrolls keeps.scopes keeps.holders ?_ keeps.accounts
    intro other h scope held found
    have known := (List.getElem?_eq_some_iff.mp held).1
    have different : other ≠ id := by
      have := keeps.holders
      omega
    exact (keeps.stands other h scope held found).concat (others other different).1
      (others other different).2

theorem dispose (keeps : w.Keeps steps) (id : Nat) :
    (w.after (.dispose id)).Keeps (steps ++ [.dispose id]) := by
  refine keeps.release rfl rfl (by simp; omega) fun h scope found stands => ?_
  obtain ⟨closes, suits, gone⟩ := h.closes_dispose found stands.suits
  refine ⟨closes, fun scope' disposed => ⟨disposed ▸ suits, ?_, ?_, ?_⟩⟩
  · rw [gone, stands.gone]
    simp [CatalogStep.isDropped_concat_iff]
  · have below : id < CatalogStep.opened steps :=
      keeps.scopes ▸ (List.getElem?_eq_some_iff.mp found).1
    simp [disposed, CatalogStep.isDisposed_concat_iff, below]
  · simp [disposed]

theorem drop (keeps : w.Keeps steps) (id : Nat) :
    (w.after (.drop id)).Keeps (steps ++ [.drop id]) := by
  refine keeps.release rfl rfl (by simp; omega) fun h scope found stands => ?_
  obtain ⟨closes, gone⟩ := h.closes_drop found stands.suits
  have below : id < CatalogStep.opened steps :=
    keeps.scopes ▸ (List.getElem?_eq_some_iff.mp found).1
  refine ⟨closes, fun scope' disposed => ⟨?_, ?_, ?_, ?_⟩⟩
  · rw [gone]
    exact disposed
  · simp [gone, CatalogStep.isDropped_concat_iff, below]
  · simp [disposed, CatalogStep.isDropped_concat_iff, below]
  · simp [disposed]

/-- Each kind of step keeps to it, so that it can be carried along any list of steps. -/
theorem after (keeps : w.Keeps steps) (step : CatalogStep) :
    (w.after step).Keeps (steps ++ [step]) := by
  cases step with
  | register name source behavior => exact keeps.register behavior
  | openScope guarded => exact keeps.openScope guarded
  | resolve id trial => exact keeps.resolve id trial
  | dispose id => exact keeps.dispose id
  | drop id => exact keeps.drop id

end Keeps

/-- Whatever is done with a catalog, it keeps to its steps and answers. The induction follows the
steps from the last one on, since each of them is appended to those before. -/
theorem keeps_run (steps : List CatalogStep) : (run steps).Keeps steps := by
  induction steps using List.reverseRecOn with
  | nil => exact .nil
  | append_singleton steps step ih =>
    rw [run_concat]
    exact ih.after step

namespace Keeps

variable {w : Workshop} {steps : List CatalogStep} {id i : Nat} {trial : Trial}

/-- An open scope is asked itself, and it remembers what it has answered. This is how the log of
answers, which nobody but the specification keeps, decides what the scope does next. -/
theorem ask_of_open (keeps : w.Keeps steps) (isOpen : CatalogStep.IsOpen steps id) (trial : Trial) :
    ∃ scope, w.catalog.scopes[id]? = some scope ∧ scope.disposed = false ∧
      w.ask id trial = some (w.catalog.resolve id trial.implementation) ∧
      ∀ made, scope.resolved.lookup? trial.implementation = some made ↔
        CatalogReply.HasAnswered w.log id trial.implementation made := by
  obtain ⟨h, scope, found, stands, asked⟩ := keeps.ask_eq isOpen.opened isOpen.kept trial
  have undisposed : scope.disposed = false := by
    rw [Bool.eq_false_iff, ne_eq, stands.closed]
    rintro (disposed | dropped)
    · exact isOpen.undisposed disposed
    · exact isOpen.kept dropped
  exact ⟨scope, found, undisposed, asked, stands.remembered undisposed _⟩

/-- A scope answers again as it has answered before: it remembers the instance under its name, and
neither the key nor the registrations made since are looked at. -/
theorem ask_of_answered (keeps : w.Keeps steps) (isOpen : CatalogStep.IsOpen steps id)
    {made : Instance} (before : CatalogReply.HasAnswered w.log id trial.implementation made) :
    w.ask id trial = some { catalog := w.catalog, result := .ok made } := by
  obtain ⟨scope, found, undisposed, asked, remembered⟩ := keeps.ask_of_open isOpen trial
  rw [asked, Catalog.resolve_of_known found undisposed ((remembered made).mpr before)]

/-- A scope that has not answered an implementation yet goes by the registration in force. It cannot
remember an instance, since it remembers only what it has answered. -/
theorem exists_recipe_of_new (keeps : w.Keeps steps) (isOpen : CatalogStep.IsOpen steps id)
    (new : ∀ made, ¬ CatalogReply.HasAnswered w.log id trial.implementation made) {source : Source}
    (inForce : CatalogStep.IsInForce (CatalogStep.registrations steps)
      trial.implementation i source) :
    ∃ r, w.catalog.recipes[i]? = some r ∧ r.IsOf i (trial.implementation, source) ∧
      w.ask id trial = some (Catalog.taken id trial.implementation (w.catalog.construct i r)) := by
  obtain ⟨scope, found, undisposed, asked, remembered⟩ := keeps.ask_of_open isOpen trial
  have current : w.catalog.current.lookup? trial.implementation = some i :=
    (keeps.enrolls.current _ _).mpr ⟨source, inForce⟩
  obtain ⟨r, source', listed, inForce', isOf⟩ := keeps.enrolls.exists_recipe current
  cases inForce.1.symm.trans inForce'.1
  refine ⟨r, listed, isOf, ?_⟩
  rw [asked, Catalog.resolve_of_new found undisposed ?_ current listed]
  refine Option.eq_none_iff_forall_ne_some.mpr fun made known => ?_
  exact new made ((remembered made).mp known)

/-- The constructor in force is run once: its error is the answer, and its instance is new. New
means that nobody has been answered with it so far, as the number of its construction exceeds all
those on record. -/
theorem ask_of_constructor (keeps : w.Keeps steps) (isOpen : CatalogStep.IsOpen steps id)
    (new : ∀ made, ¬ CatalogReply.HasAnswered w.log id trial.implementation made)
    {fails : Nat → Option ResolveError}
    (inForce : CatalogStep.IsInForce (CatalogStep.registrations steps) trial.implementation i
      (.constructor fails)) :
    ∃ r, w.catalog.recipes[i]? = some r ∧
      (fails (r.built + 1) = none → w.ask id trial = some
        { catalog := (w.catalog.counted i r).remember id trial.implementation
            ⟨trial.implementation, i, r.built + 1⟩
          result := .ok ⟨trial.implementation, i, r.built + 1⟩
          built := some (trial.implementation, r.built + 1) } ∧
        ∀ reply ∈ w.log, reply.result ≠ .ok ⟨trial.implementation, i, r.built + 1⟩) ∧
      ∀ e, fails (r.built + 1) = some e → w.ask id trial = some
        { catalog := w.catalog.counted i r
          result := .error e
          built := some (trial.implementation, r.built + 1) } := by
  obtain ⟨r, listed, isOf, asked⟩ := keeps.exists_recipe_of_new isOpen new inForce
  obtain ⟨own, construction⟩ : r.shared = none ∧ r.construction = fails := isOf.source
  have name : r.name = trial.implementation := isOf.name
  rw [Catalog.construct_of_own own, construction, name] at asked
  refine ⟨r, listed, fun succeeds => ⟨?_, fun reply member same => ?_⟩, fun e failure => ?_⟩
  · rw [asked, succeeds]
    rfl
  · obtain ⟨-, -, r', listed', counted⟩ := keeps.accounts.made reply member _ same
    cases listed.symm.trans listed'
    exact absurd (counted own) (Nat.not_succ_le_self _)
  · rw [asked, failure]
    rfl

/-- An instance that has been there from the start is handed out. -/
theorem ask_of_shared (keeps : w.Keeps steps) (isOpen : CatalogStep.IsOpen steps id)
    (new : ∀ made, ¬ CatalogReply.HasAnswered w.log id trial.implementation made)
    (inForce : CatalogStep.IsInForce (CatalogStep.registrations steps) trial.implementation i
      .shared) :
    w.ask id trial = some
      { catalog := w.catalog.remember id trial.implementation ⟨trial.implementation, i, 1⟩
        result := .ok ⟨trial.implementation, i, 1⟩ } := by
  obtain ⟨r, listed, isOf, asked⟩ := keeps.exists_recipe_of_new isOpen new inForce
  have shared : r.shared = some ⟨r.name, i, 1⟩ := isOf.source
  have name : r.name = trial.implementation := isOf.name
  rw [asked, Catalog.construct_of_shared shared, name]
  rfl

/-- A name that nothing has been registered under. No scope can have answered it with an instance,
since each instance is of a registration on record; so the scope goes by the registrations and finds
none. -/
theorem ask_of_unregistered (keeps : w.Keeps steps) (isOpen : CatalogStep.IsOpen steps id)
    (unknown : ∀ entry ∈ CatalogStep.registrations steps, entry.1 ≠ trial.implementation) :
    w.ask id trial = some
      { catalog := w.catalog, result := .error (.unregistered trial.implementation) } := by
  obtain ⟨scope, found, undisposed, asked, remembered⟩ := keeps.ask_of_open isOpen trial
  rw [asked, Catalog.resolve_of_unregistered found undisposed]
  · refine Option.eq_none_iff_forall_ne_some.mpr fun made known => ?_
    obtain ⟨reply, member, -, implementation, result⟩ := (remembered made).mp known
    obtain ⟨name, ⟨source, entry⟩, -⟩ := keeps.accounts.made reply member made result
    exact unknown _ (List.mem_of_getElem? entry) (name.trans implementation)
  · refine Option.eq_none_iff_forall_ne_some.mpr fun i known => ?_
    obtain ⟨source, entry, -⟩ := (keeps.enrolls.current _ _).mp known
    exact unknown _ (List.mem_of_getElem? entry) rfl

/-- A scope that has been disposed. Whoever still has it is told so, whatever it has answered
before, and nothing is constructed. -/
theorem ask_of_disposed (keeps : w.Keeps steps) (disposed : CatalogStep.IsDisposed steps id)
    (kept : ¬ CatalogStep.IsDropped steps id) :
    w.ask id trial = some { catalog := w.catalog, result := .error .disposed } := by
  obtain ⟨h, scope, found, stands, asked⟩ := keeps.ask_eq disposed.opened kept trial
  rw [asked, Catalog.resolve_of_disposed found (stands.closed.mpr (.inl disposed))]

end Keeps

end Workshop

namespace CatalogStep

/-- Scopes build once and share, whatever has been done with a catalog so far. -/
structure BuildsOnceAndShares (steps : List CatalogStep) : Prop where
  /-- A scope that is open and has answered with an instance answers with it again, by whatever
  key it is asked, and runs no constructor. -/
  shares : ∀ (scope : Nat) (trial : Trial) (made : Instance), IsOpen steps scope →
    CatalogReply.HasAnswered (Workshop.run steps).log scope trial.implementation made →
    (Workshop.run steps).ask scope trial =
      some { catalog := (Workshop.run steps).catalog, result := .ok made }
  /-- Until then it runs the constructor in force, and a new instance is remembered. -/
  builds : ∀ (scope : Nat) (trial : Trial) (i : Nat) (fails : Nat → Option ResolveError),
    IsOpen steps scope →
    (∀ made, ¬ CatalogReply.HasAnswered (Workshop.run steps).log scope trial.implementation made) →
    IsInForce (registrations steps) trial.implementation i (.constructor fails) →
    ∃ r, (Workshop.run steps).catalog.recipes[i]? = some r ∧
      (fails (r.built + 1) = none →
        (Workshop.run steps).ask scope trial = some
          { catalog := ((Workshop.run steps).catalog.counted i r).remember scope
              trial.implementation ⟨trial.implementation, i, r.built + 1⟩
            result := .ok ⟨trial.implementation, i, r.built + 1⟩
            built := some (trial.implementation, r.built + 1) } ∧
        ∀ reply ∈ (Workshop.run steps).log,
          reply.result ≠ .ok ⟨trial.implementation, i, r.built + 1⟩) ∧
      ∀ e, fails (r.built + 1) = some e →
        (Workshop.run steps).ask scope trial = some
          { catalog := (Workshop.run steps).catalog.counted i r
            result := .error e
            built := some (trial.implementation, r.built + 1) }
  /-- A registered instance is handed out and remembered. -/
  hands : ∀ (scope : Nat) (trial : Trial) (i : Nat), IsOpen steps scope →
    (∀ made, ¬ CatalogReply.HasAnswered (Workshop.run steps).log scope trial.implementation made) →
    IsInForce (registrations steps) trial.implementation i .shared →
    (Workshop.run steps).ask scope trial = some
      { catalog := (Workshop.run steps).catalog.remember scope trial.implementation
          ⟨trial.implementation, i, 1⟩
        result := .ok ⟨trial.implementation, i, 1⟩ }
  /-- A name that has not been registered changes nothing. -/
  unregistered : ∀ (scope : Nat) (trial : Trial), IsOpen steps scope →
    (∀ entry ∈ registrations steps, entry.1 ≠ trial.implementation) →
    (Workshop.run steps).ask scope trial = some
      { catalog := (Workshop.run steps).catalog
        result := .error (.unregistered trial.implementation) }
  /-- Nor does a scope that has been disposed. -/
  disposed : ∀ (scope : Nat) (trial : Trial), IsDisposed steps scope → ¬ IsDropped steps scope →
    (Workshop.run steps).ask scope trial =
      some { catalog := (Workshop.run steps).catalog, result := .error .disposed }
  /-- Nobody can ask a scope that has been dropped. -/
  dropped : ∀ (scope : Nat) (trial : Trial), IsDropped steps scope →
    (Workshop.run steps).ask scope trial = none
  /-- At most one construction of an implementation succeeds for a scope. -/
  once : (Workshop.run steps).log.Pairwise fun earlier later =>
    ∀ scope name, earlier.Constructs scope name → ¬ later.Constructs scope name
  /-- Two scopes have an instance in common only if it was registered as such. -/
  apart : ∀ reply ∈ (Workshop.run steps).log, ∀ other ∈ (Workshop.run steps).log, ∀ made,
    reply.scope ≠ other.scope → reply.result = .ok made → other.result = .ok made →
    (registrations steps)[made.recipe]? = some (made.name, .shared)

/-- Whatever is registered, opened, asked, disposed and dropped, in any order, scopes build once and
share.

Proof: what a workshop keeps to is kept by each kind of step, and so by all of them. The answers can
be read off it, since it says what a scope remembers and which registration is in force; that no
name is constructed twice for a scope, and no instance shared by accident, is in the accounts. -/
theorem scopes_build_once_and_share (steps : List CatalogStep) : BuildsOnceAndShares steps where
  shares := fun _ _ _ isOpen before => (Workshop.keeps_run steps).ask_of_answered isOpen before
  builds := fun _ _ _ _ isOpen new inForce =>
    (Workshop.keeps_run steps).ask_of_constructor isOpen new inForce
  hands := fun _ _ _ isOpen new inForce =>
    (Workshop.keeps_run steps).ask_of_shared isOpen new inForce
  unregistered := fun _ _ isOpen unknown =>
    (Workshop.keeps_run steps).ask_of_unregistered isOpen unknown
  disposed := fun _ _ disposed kept => (Workshop.keeps_run steps).ask_of_disposed disposed kept
  dropped := fun _ _ dropped => (Workshop.keeps_run steps).ask_eq_none (.inr dropped)
  once := (Workshop.keeps_run steps).accounts.once
  apart := (Workshop.keeps_run steps).accounts.apart

/-- A constructor that fails the first time. -/
def reluctant : Source :=
  .constructor fun n => if n = 1 then some .disposed else none

/-- It is registered, and fails for a scope. -/
def failedSteps : List CatalogStep :=
  [.register "a" reluctant fun _ _ => { outcome := .ok .unit }, .openScope true,
    .resolve 0 ⟨"x", "a"⟩]

/-- It succeeds, its name is registered again, and another scope is opened. -/
def sharedSteps : List CatalogStep :=
  failedSteps ++ [.resolve 0 ⟨"x", "a"⟩,
    .register "a" .shared fun _ _ => { outcome := .ok .unit }, .openScope false]

/-- After a failure the constructor runs once more. From then on its scope keeps to that instance,
another one gets the instance registered since, and one that has been disposed gets none. -/
theorem reluctant_constructor_builds_once :
    (∃ r, (Workshop.run failedSteps).ask 0 ⟨"x", "a"⟩ = some r ∧ r.result = .ok ⟨"a", 0, 2⟩ ∧
      r.built = some ("a", 2)) ∧
    (∃ r, (Workshop.run sharedSteps).ask 0 ⟨"y", "a"⟩ = some r ∧ r.result = .ok ⟨"a", 0, 2⟩ ∧
      r.built = none) ∧
    (∃ r, (Workshop.run sharedSteps).ask 1 ⟨"x", "a"⟩ = some r ∧ r.result = .ok ⟨"a", 1, 1⟩) ∧
    ∃ r, (Workshop.run (sharedSteps ++ [.dispose 0])).ask 0 ⟨"x", "a"⟩ = some r ∧
      r.result = .error .disposed := by
  have failed : (Workshop.run failedSteps).log =
      [⟨0, ⟨"x", "a"⟩, .error .disposed, some ("a", 1)⟩] := rfl
  have answered : (Workshop.run sharedSteps).log =
      [⟨0, ⟨"x", "a"⟩, .error .disposed, some ("a", 1)⟩,
        ⟨0, ⟨"x", "a"⟩, .ok ⟨"a", 0, 2⟩, some ("a", 2)⟩] := rfl
  have isOpen (scope : Nat) (below : scope < 2) : IsOpen sharedSteps scope :=
    ⟨below, not_isDisposed_of_notMem (by simp [sharedSteps, failedSteps]),
      not_isDropped_of_notMem (by simp [sharedSteps, failedSteps])⟩
  refine ⟨?_, ?_, ?_, ?_⟩
  · have isOpen : IsOpen failedSteps 0 :=
      ⟨by decide, not_isDisposed_of_notMem (by simp [failedSteps]),
        not_isDropped_of_notMem (by simp [failedSteps])⟩
    have unanswered (made : Instance) :
        ¬ CatalogReply.HasAnswered (Workshop.run failedSteps).log 0 "a" made := by
      simp [CatalogReply.HasAnswered, failed]
    have inForce : IsInForce (registrations failedSteps) "a" 0 reluctant := by
      refine ⟨rfl, fun j other later => ?_⟩
      rw [List.getElem?_eq_none later]
      simp
    obtain ⟨r, here, builds, -⟩ := (scopes_build_once_and_share failedSteps).builds 0 ⟨"x", "a"⟩ 0 _
      isOpen unanswered inForce
    cases here
    exact ⟨_, (builds rfl).1, rfl, rfl⟩
  · exact ⟨_, (scopes_build_once_and_share sharedSteps).shares 0 ⟨"y", "a"⟩ ⟨"a", 0, 2⟩
      (isOpen 0 (by decide)) (by simp [CatalogReply.HasAnswered, answered]), rfl, rfl⟩
  · have inForce : IsInForce (registrations sharedSteps) "a" 1 .shared := by
      refine ⟨rfl, fun j other later => ?_⟩
      rw [List.getElem?_eq_none later]
      simp
    exact ⟨_, (scopes_build_once_and_share sharedSteps).hands 1 ⟨"x", "a"⟩ 1
      (isOpen 1 (by decide)) (by simp [CatalogReply.HasAnswered, answered]) inForce, rfl⟩
  · have kept : ¬ IsDropped (sharedSteps ++ [.dispose 0]) 0 :=
      not_isDropped_of_notMem (by simp [sharedSteps, failedSteps])
    exact ⟨_, (scopes_build_once_and_share (sharedSteps ++ [.dispose 0])).disposed 0 ⟨"x", "a"⟩
      ⟨sharedSteps, [], rfl, by decide⟩ kept, rfl⟩

end CatalogStep

end TrialRouting
